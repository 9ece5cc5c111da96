import DocSearch.Proofs.Filter.Meaning
import DocSearch.Proofs.Scalar.Views

/-!
# Between inverted bounds

A range whose lower bound is greater than the upper one is refused.  Were the comparison of
scalars transitive, nothing could lie in such a range; but three scalars may be compared in
more than one way.  Two things come of that, and no others.  Different integers may have one
double, which then lies between them in both directions.  And of three texts two may be
compared as numbers or as moments, while the third is compared with each of them character by
character.

## Main definitions

* `Scalar.ShareDouble` — two integers and a scalar that is no integer, all with one double.
* `Scalar.MixedTexts` — three texts, of which exactly two are numbers or moments.

## Main results

* `Scalar.within_inverted` — what lies between inverted bounds is of one of these two sorts.
* `Clause.test_inverted_range` — **the test of a range with inverted bounds.**
-/

namespace DocSearch

open Number

namespace Scalar

/-- The bounds are integers, the scalar is none, and all three have the same double. -/
structure ShareDouble (low high s : Scalar) : Prop where
  /-- The lower bound is an integer. -/
  low_integer : low.integer?.isSome
  /-- So is the upper one. -/
  high_integer : high.integer?.isSome
  /-- The scalar is no integer. -/
  not_integer : s.integer? = none
  /-- The three have the same double, up to the sign of a zero. -/
  doubles : ∃ x y z, low.real? = some x ∧ high.real? = some y ∧ s.real? = some z ∧
    x.key = z.key ∧ y.key = z.key

/-- All three are texts, and exactly two of them are read as numbers, or exactly two as
moments. -/
structure MixedTexts (low high s : Scalar) : Prop where
  /-- The three are texts. -/
  texts : ∃ a b c, low = .text a ∧ high = .text b ∧ s = .text c
  /-- Two of them have a view that the third does not have. -/
  mixed : [low, high, s].countP (·.real?.isSome) = 2 ∨
    [low, high, s].countP (·.moment?.isSome) = 2

section Within

variable {low high s : Scalar}

/-- A scalar lies between two others when it can be compared with both and is not before the
lower nor behind the upper one. -/
theorem within_iff : Within low high s ↔
    ∃ o p, s.order low = some o ∧ s.order high = some p ∧ o ≠ .lt ∧ p ≠ .gt := by
  have hge : ∀ o : Ordering, o ≠ .lt ↔ o = .gt ∨ o = .eq := by decide
  have hle : ∀ o : Ordering, o ≠ .gt ↔ o = .lt ∨ o = .eq := by decide
  simp only [Within, hge, hle]
  constructor
  · rintro ⟨h | h, h' | h'⟩ <;> exact ⟨_, _, h, h', by simp, by simp⟩
  · rintro ⟨o, p, ho, hp, rfl | rfl, rfl | rfl⟩ <;> simp [ho, hp]

/-! ### Bounds that are numbers -/

theorem ShareDouble.within (h : ShareDouble low high s) : Within low high s := by
  obtain ⟨x, y, z, hx, hy, hz, hxz, hyz⟩ := h.doubles
  have heq : ∀ {w : Binary64}, w.key = z.key → z.order w = .eq := fun hw => by
    rw [Binary64.order, Int.compare_eq_eq, hw]
  rw [within_iff, order_of_reals hz hx (.inl h.not_integer),
    order_of_reals hz hy (.inl h.not_integer),
    heq hxz, heq hyz]
  exact ⟨.eq, .eq, rfl, rfl, by decide, by decide⟩

/-- A number between inverted numbers has the same double as both, and only the bounds are
integers. -/
theorem shareDouble_of_within {x y z : Binary64} (hx : low.real? = some x)
    (hy : high.real? = some y) (hz : s.real? = some z) (h : low.order high = some .gt)
    (hs : Within low high s) : ShareDouble low high s := by
  obtain ⟨o, p, ho, hp, ho', hp'⟩ := within_iff.1 hs
  have hyx : y.key ≤ x.key := (key_le_of_order hx hy h).1 (by decide)
  have hxz : x.key ≤ z.key := (key_le_of_order hz hx ho).1 ho'
  have hzy : z.key ≤ y.key := (key_le_of_order hz hy hp).2 hp'
  -- As doubles the bounds are equal, so it is as integers that the lower one is greater.
  have hdoubles : x.order y ≠ .gt := by
    rw [Binary64.order, Ne, Int.compare_eq_gt]
    omega
  rcases ha : low.integer? with _ | a
  · rw [order_of_reals hx hy (.inl ha)] at h
    exact absurd (Option.some.inj h) hdoubles
  rcases hb : high.integer? with _ | b
  · rw [order_of_reals hx hy (.inr hb)] at h
    exact absurd (Option.some.inj h) hdoubles
  refine ⟨by rw [ha]; rfl, by rw [hb]; rfl, ?_, x, y, z, hx, hy, hz, by omega, by omega⟩
  -- A third integer would lie between them exactly.
  rcases hc : s.integer? with _ | c
  · rfl
  · rw [order_of_integers hc ha, Option.some.injEq] at ho
    rw [order_of_integers hc hb, Option.some.injEq] at hp
    rw [order_of_integers ha hb, Option.some.injEq, Int.compare_eq_gt] at h
    subst ho hp
    rw [Ne, Int.compare_eq_lt] at ho'
    rw [Ne, Int.compare_eq_gt] at hp'
    omega

/-! ### Bounds that are moments -/

/-- No moment lies between inverted moments. -/
theorem not_within_of_moments {t u v : DateTime} (ht : low.moment? = some t)
    (hu : high.moment? = some u) (hv : s.moment? = some v) (h : low.order high = some .gt) :
    ¬ Within low high s := by
  rw [order_of_moments ht hu, Option.some.injEq, DateTime.order, Int.compare_eq_gt] at h
  rw [within_iff, order_of_moments hv ht, order_of_moments hv hu]
  rintro ⟨o, p, ho, hp, ho', hp'⟩
  cases ho
  cases hp
  rw [DateTime.order, Ne, Int.compare_eq_lt] at ho'
  rw [DateTime.order, Ne, Int.compare_eq_gt] at hp'
  omega

/-! ### Scalars that are compared as they are -/

/-- No scalar that is apart from both bounds lies between them when they are inverted and
apart from each other. -/
theorem not_within_of_apart (h : low.order high = some .gt) (hlh : Apart low high)
    (hsl : Apart s low) (hsh : Apart s high) : ¬ Within low high s := by
  rw [within_iff]
  rintro ⟨o, p, ho, hp, ho', hp'⟩
  rcases eq_of_order_of_apart hlh h with ⟨a, b, rfl, rfl, hab⟩ | ⟨a, b, rfl, rfl, hab⟩
  · rcases eq_of_order_of_apart hsl ho with ⟨c, _, rfl, ⟨⟩, rfl⟩ | ⟨_, _, _, ⟨⟩, _⟩
    rcases eq_of_order_of_apart hsh hp with ⟨_, _, ⟨⟩, ⟨⟩, rfl⟩ | ⟨_, _, _, ⟨⟩, _⟩
    clear hlh hsl hsh h ho hp
    revert a b c
    decide
  · rcases eq_of_order_of_apart hsl ho with ⟨_, _, _, ⟨⟩, _⟩ | ⟨c, _, rfl, ⟨⟩, rfl⟩
    rcases eq_of_order_of_apart hsh hp with ⟨_, _, _, ⟨⟩, _⟩ | ⟨_, _, ⟨⟩, ⟨⟩, rfl⟩
    -- From the lower bound to the text and on to the upper bound.
    have hac : Text.order a.toList c.toList ≠ .gt := by
      intro hgt
      apply ho'
      rw [← Text.order_swap, hgt]
      rfl
    exact Text.order_trans hac hp' hab.symm

/-! ### Texts of two kinds -/

/-- A scalar that is apart from two scalars and lies between them is of their kind. -/
theorem kinds_of_within (hsl : Apart s low) (hsh : Apart s high) (hs : Within low high s) :
    (∃ a b c, low = .bool a ∧ high = .bool b ∧ s = .bool c) ∨
      ∃ a b c, low = .text a ∧ high = .text b ∧ s = .text c := by
  obtain ⟨o, p, ho, hp, -, -⟩ := within_iff.1 hs
  rcases eq_of_order_of_apart hsl ho with ⟨c, a, rfl, rfl, -⟩ | ⟨c, a, rfl, rfl, -⟩
  · rcases eq_of_order_of_apart hsh hp with ⟨_, b, -, rfl, -⟩ | ⟨_, b, ⟨⟩, -, -⟩
    exact .inl ⟨a, b, c, rfl, rfl, rfl⟩
  · rcases eq_of_order_of_apart hsh hp with ⟨_, b, ⟨⟩, -, -⟩ | ⟨_, b, -, rfl, -⟩
    exact .inr ⟨a, b, c, rfl, rfl, rfl⟩

/-- Two numbers, and between them a scalar that is none. -/
theorem mixedTexts_of_reals {x y : Binary64} (hx : low.real? = some x)
    (hy : high.real? = some y) (hz : s.real? = none) (hs : Within low high s) :
    MixedTexts low high s := by
  refine ⟨?_, .inl (by simp [hx, hy, hz])⟩
  rcases kinds_of_within ⟨.inl hz, .inr (moment?_of_real? hx)⟩
    ⟨.inl hz, .inr (moment?_of_real? hy)⟩ hs with ⟨_, _, _, rfl, -, -⟩ | htexts
  · cases hx
  · exact htexts

/-- Two moments, and between them a scalar that is none. -/
theorem mixedTexts_of_moments {t u : DateTime} (ht : low.moment? = some t)
    (hu : high.moment? = some u) (hv : s.moment? = none) (hs : Within low high s) :
    MixedTexts low high s := by
  refine ⟨?_, .inr (by simp [ht, hu, hv])⟩
  rcases kinds_of_within ⟨.inr (real?_of_moment? ht), .inl hv⟩
    ⟨.inr (real?_of_moment? hu), .inl hv⟩ hs with ⟨_, _, _, rfl, -, -⟩ | htexts
  · cases ht
  · exact htexts

/-- A scalar with an order to a text from which it is apart is a text. -/
theorem exists_text_of_order {x : String} (h : Apart s (.text x)) {o : Ordering}
    (ho : s.order (.text x) = some o) : ∃ c, s = .text c := by
  rcases eq_of_order_of_apart h ho with ⟨_, _, _, ⟨⟩, _⟩ | ⟨c, _, rfl, _, _⟩
  exact ⟨c, rfl⟩

/-- Between two inverted texts without a common view there is only a text that has a view in
common with exactly one of them. -/
theorem mixedTexts_of_apart {a b : String} (hab : Apart (.text a) (.text b))
    (h : Scalar.order (.text a) (.text b) = some .gt) (hs : Within (.text a) (.text b) s) :
    MixedTexts (.text a) (.text b) s := by
  obtain ⟨o, p, ho, hp, -, -⟩ := within_iff.1 hs
  rcases apart_or_both s (.text a) with ha | ⟨z, x, hz, hx⟩ | ⟨v, t, hv, ht⟩
  · obtain ⟨c, rfl⟩ := exists_text_of_order ha ho
    refine ⟨⟨a, b, c, rfl, rfl, rfl⟩, ?_⟩
    rcases apart_or_both (.text c) (.text b) with hb | ⟨z, y, hz, hy⟩ | ⟨v, u, hv, hu⟩
    · exact absurd hs (not_within_of_apart h hab ha hb)
    · have hx : (Scalar.text a).real? = none := by simpa [hy] using hab.1
      exact .inl (by simp [hx, hy, hz])
    · have ht : (Scalar.text a).moment? = none := by simpa [hu] using hab.2
      exact .inr (by simp [ht, hu, hv])
  · have hy : (Scalar.text b).real? = none := by simpa [hx] using hab.1
    obtain ⟨c, rfl⟩ := exists_text_of_order ⟨.inr hy, .inl (moment?_of_real? hz)⟩ hp
    exact ⟨⟨a, b, c, rfl, rfl, rfl⟩, .inl (by simp [hx, hy, hz])⟩
  · have hu : (Scalar.text b).moment? = none := by simpa [ht] using hab.2
    obtain ⟨c, rfl⟩ := exists_text_of_order ⟨.inl (real?_of_moment? hv), .inr hu⟩ hp
    exact ⟨⟨a, b, c, rfl, rfl, rfl⟩, .inr (by simp [ht, hu, hv])⟩

/-- **What lies between inverted bounds** is a number with the double that both bounds have,
or one of three texts of two kinds. -/
theorem within_inverted (h : low.order high = some .gt) (hs : Within low high s) :
    ShareDouble low high s ∨ MixedTexts low high s := by
  rcases apart_or_both low high with hlh | ⟨x, y, hx, hy⟩ | ⟨t, u, ht, hu⟩
  · rcases eq_of_order_of_apart hlh h with ⟨a, b, rfl, rfl, -⟩ | ⟨a, b, rfl, rfl, -⟩
    · exact absurd hs (not_within_of_apart h hlh ⟨.inr rfl, .inr rfl⟩ ⟨.inr rfl, .inr rfl⟩)
    · exact .inr (mixedTexts_of_apart hlh h hs)
  · rcases hz : s.real? with _ | z
    · exact .inr (mixedTexts_of_reals hx hy hz hs)
    · exact .inl (shareDouble_of_within hx hy hz h hs)
  · rcases hv : s.moment? with _ | v
    · exact .inr (mixedTexts_of_moments ht hu hv hs)
    · exact absurd hs (not_within_of_moments ht hu hv h)

end Within

end Scalar

/-! ### The test of a range -/

/-- **The test of a range with inverted bounds.**  It refuses every value, except a number with
the double that both bounds have, and one of three texts of two kinds; the first of these it
always passes. -/
theorem Clause.test_inverted_range {field : String} {low high : Scalar}
    (h : low.order high = some .gt) (j : Json) :
    ((Clause.range field low high).test j = true → ∃ s, Scalar.ofJson? j = some s ∧
      (Scalar.ShareDouble low high s ∨ Scalar.MixedTexts low high s)) ∧
    ∀ s, Scalar.ofJson? j = some s → Scalar.ShareDouble low high s →
      (Clause.range field low high).test j = true := by
  refine ⟨fun htest => ?_, fun s hs hshare => (Clause.test_range_iff hs).2 hshare.within⟩
  rcases hs : Scalar.ofJson? j with _ | s
  · simp [Clause.test, storedOrder, hs] at htest
  · exact ⟨s, rfl, Scalar.within_inverted h ((Clause.test_range_iff hs).1 htest)⟩

/-- From one integer to the integer before it, which have one double; the double passes. -/
theorem Clause.test_inverted_range_double :
    let low : Scalar := .number (.integer 9007199254740993 (by decide))
    let high : Scalar := .number (.integer 9007199254740992 (by decide))
    let double : Binary64 := ⟨false, 4845873199050653696, by decide⟩
    low.order high = some .gt ∧
      (Clause.range "v" low high).test (.number (.binary double)) = true := by
  intro low high double
  have h : low.order high = some .gt := by decide +kernel
  refine ⟨h, (Clause.test_inverted_range h _).2 (.number (.binary double)) rfl ?_⟩
  exact ⟨rfl, rfl, rfl, double, double, double, by decide +kernel, by decide +kernel, rfl, rfl, rfl⟩

/-- Some inverted ranges are not empty: a double between two integers, a text between two
numbers, and a text between two moments. -/
theorem Clause.test_inverted_range_not_empty :
    (let low : Scalar := .number (.integer 9007199254740993 (by decide))
      let high : Scalar := .number (.integer 9007199254740992 (by decide))
      low.order high = some .gt ∧ (Clause.range "v" low high).test
        (.number (.binary ⟨false, 4845873199050653696, by decide⟩)) = true) ∧
    (Scalar.order (.text "10") (.text "9") = some .gt ∧
      (Clause.range "v" (.text "10") (.text "9")).test (.string "5abc") = true) ∧
    (let low : Scalar := .text "2022-09-17T23:00:00-05:00"
      let high : Scalar := .text "2022-09-18T01:00:00Z"
      low.order high = some .gt ∧
        (Clause.range "v" low high).test (.string "2022-09-18?") = true) := by
  decide +kernel

end DocSearch
