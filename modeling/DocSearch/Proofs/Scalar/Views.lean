import DocSearch.Proofs.Calendar.Forms
import DocSearch.Proofs.Scalar.Dated
import DocSearch.Proofs.Scalar.Integral

/-!
# Which view decides

Two scalars that are both read as numbers are compared as numbers, two that are both read as
moments as moments, and any others as they are.  An integer is always a number as well.  Where
two integers are compared, their doubles do not disagree: rounding may make them equal, but
never turns them round.  A text has one form of a moment at most, and then it is no number.

## Main definitions

* `Scalar.Apart` — two scalars that are neither both numbers nor both moments.

## Main results

* `Scalar.exists_real_of_integer?` — the double of an integer.
* `Scalar.key_le_of_order` — **the comparison of numbers agrees with that of their doubles.**
* `Scalar.eq_of_order_of_apart` — scalars without a common view are compared as they are.
* `Scalar.text_moment_unique_not_number` — **the views of a text do not compete.**
-/

namespace DocSearch

open Number

namespace Scalar

/-! ### Numbers -/

/-- An integer is a number as well, with the double nearest to it. -/
theorem exists_real_of_integer? {v : Scalar} {z : Int} (h : v.integer? = some z) :
    ∃ x, v.real? = some x ∧ x.key = roundedKey z := by
  obtain ⟨hz, hwide⟩ := integer?_eq_some_iff.1 h
  have h40 : tenTo 40 = 10000000000000000000000000000000000000000 := rfl
  rw [← Option.map_eq_some_iff, hz.map_key_real?, nearestKey?_of_lt (by omega)]

/-- The double of an integer is the nearest one, up to the sign of a zero. -/
theorem exists_nearest_of_integer? {v : Scalar} {z : Int} (h : v.integer? = some z) :
    ∃ x y, v.real? = some x ∧ Binary64.ofInt? z = some y ∧ x.same y = true := by
  obtain ⟨hz, -⟩ := integer?_eq_some_iff.1 h
  obtain ⟨x, hx, -⟩ := exists_real_of_integer? h
  have hkey : (Binary64.ofInt? z).map Binary64.key = some x.key := by
    rw [Binary64.map_key_ofInt?, ← hz.map_key_real?, hx]
    rfl
  obtain ⟨y, hy, hxy⟩ := Option.map_eq_some_iff.1 hkey
  exact ⟨x, y, hx, hy, beq_iff_eq.2 hxy.symm⟩

section Numbers

variable {a b : Scalar} {x y : Binary64} {o : Ordering}

/-- Numbers that are not both integers are compared as doubles. -/
theorem order_of_reals (ha : a.real? = some x) (hb : b.real? = some y)
    (hi : a.integer? = none ∨ b.integer? = none) : a.order b = some (x.order y) := by
  have hnone : orderBy compare a.integer? b.integer? = none := by
    rcases hi with hi | hi
    · rw [hi]
      rfl
    · rw [hi, orderBy_none]
  rw [order, hnone, ha, hb]
  rfl

theorem order_of_integers {p q : Int} (ha : a.integer? = some p) (hb : b.integer? = some q) :
    a.order b = some (compare p q) := by
  rw [order, ha, hb]
  rfl

/-- **The comparison of numbers agrees with that of their doubles**, up to integers that have
the same double. -/
theorem key_le_of_order (ha : a.real? = some x) (hb : b.real? = some y)
    (h : a.order b = some o) : (o ≠ .lt → y.key ≤ x.key) ∧ (o ≠ .gt → x.key ≤ y.key) := by
  rcases hp : a.integer? with _ | p
  · rw [order_of_reals ha hb (.inl hp), Option.some.injEq] at h
    subst h
    simp [Binary64.order, Int.compare_eq_lt, Int.compare_eq_gt]
  · rcases hq : b.integer? with _ | q
    · rw [order_of_reals ha hb (.inr hq), Option.some.injEq] at h
      subst h
      simp [Binary64.order, Int.compare_eq_lt, Int.compare_eq_gt]
    · rw [order_of_integers hp hq, Option.some.injEq] at h
      subst h
      -- Both are integers, and rounding keeps their order.
      obtain ⟨x', hx', hx⟩ := exists_real_of_integer? hp
      obtain ⟨y', hy', hy⟩ := exists_real_of_integer? hq
      obtain rfl := Option.some.inj (ha.symm.trans hx')
      obtain rfl := Option.some.inj (hb.symm.trans hy')
      rw [hx, hy]
      simp only [Ne, Int.compare_eq_lt, Int.compare_eq_gt, Int.not_lt]
      exact ⟨roundedKey_mono, roundedKey_mono⟩

end Numbers

/-! ### Scalars without a common view -/

/-- What is read as a number is not read as a moment. -/
theorem moment?_of_real? {v : Scalar} {x : Binary64} (h : v.real? = some x) :
    v.moment? = none := by
  rcases hm : v.moment? with _ | t
  · rfl
  · rw [real?_of_moment? hm] at h
    cases h

/-- The two scalars are neither both numbers nor both moments. -/
def Apart (a b : Scalar) : Prop :=
  (a.real? = none ∨ b.real? = none) ∧ (a.moment? = none ∨ b.moment? = none)

section Apart

variable {a b : Scalar}

/-- Two scalars are apart, or both numbers, or both moments. -/
theorem apart_or_both (a b : Scalar) : Apart a b ∨
    (∃ x y, a.real? = some x ∧ b.real? = some y) ∨
      ∃ t u, a.moment? = some t ∧ b.moment? = some u := by
  rcases hx : a.real? with _ | x <;> rcases hy : b.real? with _ | y <;>
    rcases ht : a.moment? with _ | t <;> rcases hu : b.moment? with _ | u <;>
    simp [Apart, hx, hy, ht, hu]

/-- Scalars that are apart are compared as they are. -/
theorem order_of_apart (h : Apart a b) : a.order b = plainOrder a b := by
  have hnone : ∀ {v : Scalar}, v.real? = none → v.integer? = none := by
    intro v hv
    rcases hi : v.integer? with _ | z
    · rfl
    · obtain ⟨x, hx, -⟩ := exists_real_of_integer? hi
      rw [hv] at hx
      cases hx
  have hi : orderBy compare a.integer? b.integer? = none := by
    rcases h.1 with hr | hr
    · rw [hnone hr]
      rfl
    · rw [hnone hr, orderBy_none]
  have hr : orderBy Binary64.order a.real? b.real? = none := by
    rcases h.1 with hr | hr
    · rw [hr]
      rfl
    · rw [hr, orderBy_none]
  have hm : orderBy DateTime.order a.moment? b.moment? = none := by
    rcases h.2 with hm | hm
    · rw [hm]
      rfl
    · rw [hm, orderBy_none]
  rw [order, hi, hr, hm]
  rfl

/-- Scalars that are apart and have an order are two truth values, in their order, or two
texts, character by character. -/
theorem eq_of_order_of_apart (h : Apart a b) {o : Ordering} (ho : a.order b = some o) :
    (∃ x y, a = .bool x ∧ b = .bool y ∧ o = compare x y) ∨
      ∃ x y, a = .text x ∧ b = .text y ∧ o = Text.order x.toList y.toList := by
  rw [order_of_apart h] at ho
  cases a with
  | bool x =>
    cases b with
    | bool y => exact .inl ⟨x, y, rfl, rfl, (Option.some.inj ho).symm⟩
    | _ => cases ho
  | text x =>
    cases b with
    | text y => exact .inr ⟨x, y, rfl, rfl, (Option.some.inj ho).symm⟩
    | _ => cases ho
  | _ => cases b <;> cases ho

end Apart

/-! ### Texts -/

/-- **The views of a text do not compete.**  Without the blanks around it the text is a moment in
one form at most, so its forms may be tried in any order.  A text that is read as a moment is
neither an integer nor a double.  A text that is an integer is a finite double as well, the one
nearest to it. -/
theorem text_moment_unique_not_number (s : String) :
    (∀ (f g : DateTime.Form) (t u : DateTime), f.read? (Text.trim s.toList) = some t →
      g.read? (Text.trim s.toList) = some u → f = g) ∧
    (∀ fs : List DateTime.Form, (∀ f, f ∈ fs) →
      fs.findSome? (fun f => f.read? (Text.trim s.toList)) = (text s).moment?) ∧
    (∀ t, (text s).moment? = some t → (text s).integer? = none ∧ (text s).real? = none) ∧
    ∀ z, (text s).integer? = some z →
      ∃ x y, (text s).real? = some x ∧ Binary64.ofInt? z = some y ∧ x.same y = true :=
  ⟨fun _ _ _ _ => DateTime.Form.eq_of_read?, fun _ hall => DateTime.findSome?_read? hall s.toList,
    fun _ h => ⟨integer?_of_moment? h, real?_of_moment? h⟩, fun _ => exists_nearest_of_integer?⟩

/-- A leap second with a small `t` and a time zone between blanks, and a zero below zero. -/
theorem text_moment_unique_not_number_leap_second :
    let s := " 2022-09-18t08:59:60.5-02:00\u00A0"
    (∃ t, (text s).moment? = some t) ∧ (text s).integer? = none ∧ (text s).real? = none ∧
      DateTime.Form.plain.read? (Text.trim s.toList) = none ∧
        DateTime.Form.midnight.read? (Text.trim s.toList) = none ∧
          [DateTime.Form.midnight, .strict, .plain].findSome?
            (fun f => f.read? (Text.trim s.toList)) = (text s).moment? ∧
            ∃ x y, (text "\t-00").real? = some x ∧ Binary64.ofInt? 0 = some y ∧
              x.same y = true := by
  intro s
  obtain ⟨hone, hany, hnumber, -⟩ := text_moment_unique_not_number s
  obtain ⟨-, -, -, hinteger⟩ := text_moment_unique_not_number "\t-00"
  obtain ⟨t, ht⟩ : ∃ t, DateTime.Form.strict.read? (Text.trim s.toList) = some t :=
    Option.isSome_iff_exists.1 (by decide +kernel)
  have hnone : ∀ f, f ≠ .strict → DateTime.Form.read? f (Text.trim s.toList) = none :=
    fun f hne => Option.eq_none_iff_forall_ne_some.2 fun u hu => hne (hone f .strict u t hu ht)
  have horder := hany [.midnight, .strict, .plain] fun f => by cases f <;> decide
  have hmoment : (text s).moment? = some t := by
    rw [← horder, List.findSome?_cons, hnone .midnight (by decide), List.findSome?_cons, ht]
  obtain ⟨hi, hr⟩ := hnumber t hmoment
  exact ⟨⟨t, hmoment⟩, hi, hr, hnone .plain (by decide), hnone .midnight (by decide), horder,
    hinteger 0 (by decide +kernel)⟩

end Scalar

end DocSearch
