import DocSearch.Proofs.Scalar.Views

/-!
# The classes of scalars

Scalars fall into five classes: integers, other numbers, moments, truth values, and texts that
are none of these.  Inside a class the comparison is that of a key which every scalar of the
class has, so any two can be compared, and scalars in order one after the other are in order.
Between classes this is lost: doubles decide between an integer and another number, and texts of
different classes are compared character by character.

## Main definitions

* `ScalarClass`, `Scalar.Is` — the classes, and the scalars of a class.
* `Scalar.classOf` — the class of a scalar.
* `Scalar.AtMost` — the scalar is before the other or equal to it.
* `ComparedByKey` — a property under which scalars are compared by a key.

## Main results

* `Scalar.is_iff_classOf_eq` — every scalar is of one class.
* `Scalar.comparedByKey_is` — **inside a class a key decides.**
* `Scalar.order_of_reals_of_classOf_ne`, `Scalar.order_of_classOf_ne` — between two classes.
* `Scalar.order_laws` — **the laws of the comparison.**
-/

namespace DocSearch

open Number

/-- What a scalar is compared as with others like it. -/
inductive ScalarClass
  /-- An integer. -/
  | integer
  /-- A number that is no integer. -/
  | real
  /-- A moment, or a text that is read as one. -/
  | moment
  /-- A truth value. -/
  | truth
  /-- A text that is nothing else. -/
  | plain
  deriving DecidableEq, Repr

/-- Texts are compared character by character, which is a linear order. -/
instance : Std.TransCmp Text.order where
  eq_swap := (Text.order_swap _ _).symm
  isLE_trans hab hbc := by
    rw [← Ordering.ne_gt_iff_isLE] at hab hbc ⊢
    exact Text.order_trans hab hbc

namespace Scalar

/-- The scalars of a class. -/
def Is : ScalarClass → Scalar → Prop
  | .integer, v => ∃ z, v.integer? = some z
  | .real, v => v.integer? = none ∧ ∃ x, v.real? = some x
  | .moment, v => ∃ t, v.moment? = some t
  | .truth, v => ∃ b, v = .bool b
  | .plain, v => ∃ s, v = .text s ∧ v.integer? = none ∧ v.real? = none ∧ v.moment? = none

/-- The class of a scalar, by the first view that it allows. -/
def classOf (v : Scalar) : ScalarClass :=
  if v.integer?.isSome then .integer
  else if v.real?.isSome then .real
  else if v.moment?.isSome then .moment
  else
    match v with
    | .bool _ => .truth
    | _ => .plain

/-- The scalar can be compared with the other, and does not come behind it. -/
def AtMost (a b : Scalar) : Prop := a.order b = some .lt ∨ a.order b = some .eq

/-- The scalars with a property are compared by a key. -/
def ComparedByKey (P : Scalar → Prop) : Prop :=
  ∃ (κ : Type) (cmp : κ → κ → Ordering) (key : Scalar → κ), Std.TransCmp cmp ∧
    ∀ a b, P a → P b → a.order b = some (cmp (key a) (key b))

variable {a b c v : Scalar} {k l : ScalarClass}

/-! ### One class for each scalar -/

theorem classOf_eq_of_is (h : v.Is k) : v.classOf = k := by
  cases k with
  | integer =>
    obtain ⟨z, hz⟩ := h
    simp [classOf, hz]
  | real =>
    obtain ⟨hi, x, hx⟩ := h
    simp [classOf, hi, hx]
  | moment =>
    obtain ⟨t, ht⟩ := h
    simp [classOf, integer?_of_moment? ht, real?_of_moment? ht, ht]
  | truth =>
    obtain ⟨b, rfl⟩ := h
    rfl
  | plain =>
    obtain ⟨s, rfl, hi, hr, hm⟩ := h
    simp [classOf, hi, hr, hm]

theorem is_classOf (v : Scalar) : v.Is v.classOf := by
  rcases hi : v.integer? with _ | z
  · rcases hr : v.real? with _ | x
    · rcases hm : v.moment? with _ | t
      · cases v with
        | bool b => exact ⟨b, rfl⟩
        | number n =>
          cases n with
          | integer z wide => cases hi
          | binary x => cases hr
        | moment t => cases hm
        | text s =>
          have hclass : (Scalar.text s).classOf = .plain := by simp [classOf, hi, hr, hm]
          rw [hclass]
          exact ⟨s, rfl, hi, hr, hm⟩
      · have hclass : v.classOf = .moment := by simp [classOf, hi, hr, hm]
        rw [hclass]
        exact ⟨t, hm⟩
    · have hclass : v.classOf = .real := by simp [classOf, hi, hr]
      rw [hclass]
      exact ⟨hi, x, hr⟩
  · have hclass : v.classOf = .integer := by simp [classOf, hi]
    rw [hclass]
    exact ⟨z, hi⟩

/-- **Every scalar is of exactly one class.** -/
theorem is_iff_classOf_eq : v.Is k ↔ v.classOf = k :=
  ⟨classOf_eq_of_is, fun h => h ▸ v.is_classOf⟩

/-! ### Inside a class -/

/-- **Inside a class a key decides.** -/
theorem comparedByKey_is (k : ScalarClass) : ComparedByKey (Is k) := by
  cases k with
  | integer =>
    refine ⟨Int, compare, fun v => v.integer?.getD 0, inferInstance, ?_⟩
    rintro a b ⟨p, hp⟩ ⟨q, hq⟩
    simp only [order_of_integers hp hq, hp, hq, Option.getD_some]
  | real =>
    refine ⟨Int, compare, fun v => (v.real?.map Binary64.key).getD 0, inferInstance, ?_⟩
    rintro a b ⟨hi, x, hx⟩ ⟨-, y, hy⟩
    simp only [order_of_reals hx hy (.inl hi), hx, hy, Option.map_some, Option.getD_some,
      Binary64.order]
  | moment =>
    refine ⟨Int, compare, fun v => (v.moment?.map DateTime.key).getD 0, inferInstance, ?_⟩
    rintro a b ⟨t, ht⟩ ⟨u, hu⟩
    simp only [order_of_moments ht hu, ht, hu, Option.map_some, Option.getD_some,
      DateTime.order]
  | truth =>
    refine ⟨Bool, compare, fun v => v == .bool true, inferInstance, ?_⟩
    rintro a b ⟨x, rfl⟩ ⟨y, rfl⟩
    cases x <;> cases y <;> rfl
  | plain =>
    refine ⟨List Char, Text.order, fun v => v.display.toList, inferInstance, ?_⟩
    rintro a b ⟨s, rfl, -, hr, hm⟩ ⟨t, rfl, -, -, -⟩
    exact order_of_apart ⟨.inl hr, .inl hm⟩

section ComparedByKey

variable {P : Scalar → Prop}

theorem ComparedByKey.exists_order (h : ComparedByKey P) (ha : P a) (hb : P b) :
    ∃ o, a.order b = some o := by
  obtain ⟨κ, cmp, key, -, hcmp⟩ := h
  exact ⟨_, hcmp a b ha hb⟩

/-- With a key, scalars in order one after the other are in order. -/
theorem ComparedByKey.atMost_trans (h : ComparedByKey P) (ha : P a) (hb : P b) (hc : P c)
    (hab : a.AtMost b) (hbc : b.AtMost c) : a.AtMost c := by
  obtain ⟨κ, cmp, key, hcmp, horder⟩ := h
  have hle : ∀ {v w}, P v → P w → (v.AtMost w ↔ (cmp (key v) (key w)).isLE) := by
    intro v w hv hw
    rw [AtMost, horder v w hv hw, Option.some.injEq, Option.some.injEq,
      Ordering.isLE_iff_eq_lt_or_eq_eq]
  rw [hle ha hb] at hab
  rw [hle hb hc] at hbc
  rw [hle ha hc]
  exact Std.TransCmp.isLE_trans hab hbc

end ComparedByKey

/-- What can be compared is in order from one side or the other. -/
theorem atMost_or_atMost {o : Ordering} (h : a.order b = some o) : a.AtMost b ∨ b.AtMost a := by
  rw [AtMost, AtMost, ← order_swap a b, h]
  cases o <;> simp

/-! ### Between classes -/

/-- Scalars of different classes that are not both numbers have no view in common. -/
theorem apart_of_classOf_ne (h : a.classOf ≠ b.classOf) (hr : a.real? = none ∨ b.real? = none) :
    Apart a b := by
  refine ⟨hr, ?_⟩
  rcases ht : a.moment? with _ | t
  · exact .inl rfl
  · rcases hu : b.moment? with _ | u
    · exact .inr rfl
    · have ha : a.classOf = .moment := classOf_eq_of_is ⟨t, ht⟩
      have hb : b.classOf = .moment := classOf_eq_of_is ⟨u, hu⟩
      exact absurd (ha.trans hb.symm) h

/-- Two numbers of different classes are compared as doubles. -/
theorem order_of_reals_of_classOf_ne {x y : Binary64} (h : a.classOf ≠ b.classOf)
    (hx : a.real? = some x) (hy : b.real? = some y) : a.order b = some (x.order y) := by
  refine order_of_reals hx hy ?_
  rcases hp : a.integer? with _ | p
  · exact .inl rfl
  · rcases hq : b.integer? with _ | q
    · exact .inr rfl
    · have ha : a.classOf = .integer := classOf_eq_of_is ⟨p, hp⟩
      have hb : b.classOf = .integer := classOf_eq_of_is ⟨q, hq⟩
      exact absurd (ha.trans hb.symm) h

/-- Scalars of different classes that are not both numbers are compared only as texts. -/
theorem order_of_classOf_ne (h : a.classOf ≠ b.classOf) (hr : a.real? = none ∨ b.real? = none) :
    (∀ s t, a = .text s → b = .text t → a.order b = some (Text.order s.toList t.toList)) ∧
      ((¬ ∃ s t, a = .text s ∧ b = .text t) → a.order b = none) := by
  have horder : a.order b = plainOrder a b := order_of_apart (apart_of_classOf_ne h hr)
  rw [horder]
  constructor
  · rintro s t rfl rfl
    rfl
  · intro htexts
    cases a with
    | bool x =>
      cases b with
      | bool y => exact absurd rfl h
      | _ => rfl
    | text s =>
      cases b with
      | text t => exact absurd ⟨s, t, rfl, rfl⟩ htexts
      | _ => rfl
    | _ => cases b <;> rfl

/-! ### The laws -/

/-- **The laws of the comparison.**  Turning the two sides round turns the answer round, and
every scalar is equal to itself.  Every scalar is of exactly one class; two of a class can be
compared, and inside a class "at most" is a total preorder.  Two numbers of different classes
are compared as doubles; of other scalars of different classes two texts are compared character
by character, and any others not at all. -/
theorem order_laws (a b c : Scalar) :
    (a.order b).map Ordering.swap = b.order a ∧ a.order a = some .eq ∧ (∃! k, a.Is k) ∧
      (∀ k, a.Is k → b.Is k → (∃ o, a.order b = some o) ∧ (a.AtMost b ∨ b.AtMost a) ∧
        (c.Is k → a.AtMost b → b.AtMost c → a.AtMost c)) ∧
      ∀ k l, k ≠ l → a.Is k → b.Is l →
        (∀ x y, a.real? = some x → b.real? = some y → a.order b = some (x.order y)) ∧
        (a.real? = none ∨ b.real? = none →
          (∀ s t, a = .text s → b = .text t → a.order b = some (Text.order s.toList t.toList)) ∧
            ((¬ ∃ s t, a = .text s ∧ b = .text t) → a.order b = none)) := by
  refine ⟨order_swap a b, order_self a, ⟨a.classOf, a.is_classOf, ?_⟩, ?_, ?_⟩
  · exact fun k hk => (classOf_eq_of_is hk).symm
  · intro k ha hb
    obtain ⟨o, ho⟩ := (comparedByKey_is k).exists_order ha hb
    exact ⟨⟨o, ho⟩, atMost_or_atMost ho, (comparedByKey_is k).atMost_trans ha hb⟩
  · intro k l hkl ha hb
    have hne : a.classOf ≠ b.classOf := by
      rwa [classOf_eq_of_is ha, classOf_eq_of_is hb]
    exact ⟨fun x y => order_of_reals_of_classOf_ne hne, order_of_classOf_ne hne⟩

/-- A day and a leap second at its end in another time zone, and a moment between them; and a
number next to a text that is none. -/
theorem order_laws_leap_second :
    let leap : Scalar := .moment ⟨⟨2016, 12, 31, by decide⟩, ⟨86399, 1500000000, by decide⟩⟩
    let day : Scalar := .text " 2016-12-31 "
    let zoned : Scalar := .text "2016-12-31t22:59:60.25-01:00"
    let seven : Scalar := .text "7"
    let ducks : Scalar := .text "7 ducks"
    day.AtMost zoned ∧ zoned.AtMost leap ∧ day.AtMost leap ∧
      seven.Is .integer ∧ ducks.Is .plain ∧ seven.order ducks = some .lt := by
  intro leap day zoned seven ducks
  have hday : day.AtMost zoned := .inl (by decide +kernel)
  have hzoned : zoned.AtMost leap := .inl (by decide +kernel)
  have hmoment : ∀ v ∈ [day, zoned, leap], v.Is .moment := fun v hv =>
    Option.isSome_iff_exists.1 (by revert v; decide +kernel)
  have hseven : seven.Is .integer := ⟨7, by decide +kernel⟩
  have hducks : ducks.Is .plain :=
    ⟨"7 ducks", rfl, by decide +kernel, by decide +kernel, by decide +kernel⟩
  have hclass := (order_laws day zoned leap).2.2.2.1 .moment (hmoment _ (by simp))
    (hmoment _ (by simp))
  have hapart := (order_laws seven ducks day).2.2.2.2 .integer .plain (by decide) hseven hducks
  refine ⟨hday, hzoned, hclass.2.2 (hmoment _ (by simp)) hday hzoned, hseven, hducks, ?_⟩
  exact (hapart.2 (.inr (by decide +kernel))).1 "7" "7 ducks" rfl rfl

end Scalar

end DocSearch
