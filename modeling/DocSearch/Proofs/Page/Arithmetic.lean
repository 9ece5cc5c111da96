import DocSearch.Proofs.Decoding.Basic
import DocSearch.Query.Wire
import Mathlib.Order.Bounds.Basic

/-!
# The arithmetic of pages

The number of pages, whether there is a next one and the number of results before a page
are natural numbers.  A machine computes them in words of 64 bits, where a sum or a product
may not fit.  Here everything fits: the numbers of a page have 32 bits, so that their product
and the number of the next page have room, and a quotient that is rounded up is still not
larger than its dividend, for it is only rounded up when the divisor is not one.

## Main definitions

* `Word64.of?`, `Word64.sum?`, `Word64.product?` — words of 64 bits, and operations that fail
  where the result is none.
* `totalPagesInWords?`, `hasNextInWords?`, `offsetInWords?` — the arithmetic of pages, step by
  step in words.

## Main results

* `ResultPage.totalPages_le_iff` — the pages are as few as hold all results.
* `ResultPage.hasNext_iff` — when there is a next page.
* `totalPagesInWords?_eq`, `hasNextInWords?_eq`, `offsetInWords?_eq` — no step in words fails.
* `ResultPage.arithmetic_exact` — **the arithmetic of pages is exact**, for all results and
  pages that a machine can count.
-/

namespace DocSearch

/-! ### Natural numbers -/

namespace ResultPage

variable {α : Type} (r : ResultPage α)

theorem totalPages_of_size_zero (hsize : r.size.toNat = 0) : r.totalPages = 0 := by
  unfold totalPages
  rw [if_pos hsize]

/-- Pages hold all results exactly when they are not fewer than those that are told. -/
theorem totalPages_le_iff (hsize : 0 < r.size.toNat) (n : Nat) :
    r.totalPages ≤ n ↔ r.total ≤ n * r.size.toNat := by
  unfold totalPages
  rw [if_neg (Nat.pos_iff_ne_zero.mp hsize), ← Nat.lt_succ_iff, Nat.div_lt_iff_lt_mul hsize,
    Nat.succ_mul]
  omega

theorem hasNext_of_size_zero (hsize : r.size.toNat = 0) : r.hasNext = false := by
  unfold hasNext
  rw [r.totalPages_of_size_zero hsize]
  exact decide_eq_false (Nat.not_lt_zero _)

/-- There is a next page exactly when the results reach beyond the end of this one. -/
theorem hasNext_iff (hsize : 0 < r.size.toNat) :
    r.hasNext = true ↔ (r.number.toNat + 1) * r.size.toNat < r.total := by
  unfold hasNext
  rw [decide_eq_true_eq, ← Nat.not_le, r.totalPages_le_iff hsize, Nat.not_le]

end ResultPage

/-! ### Words -/

namespace Word64

/-- The word of 64 bits for a number, if it has one. -/
def of? (n : Nat) : Option UInt64 :=
  if n < 18446744073709551616 then some (UInt64.ofNat n) else none

/-- The sum of two words, if it is one. -/
def sum? (a b : UInt64) : Option UInt64 := of? (a.toNat + b.toNat)

/-- The product of two words, if it is one. -/
def product? (a b : UInt64) : Option UInt64 := of? (a.toNat * b.toNat)

theorem map_toNat_of? {n : Nat} (h : n < 18446744073709551616) :
    (of? n).map (·.toNat) = some n := by
  unfold of?
  rw [if_pos h, Option.map_some, UInt64.toNat_ofNat_of_lt' h]

end Word64

/-- The number of pages for all results, in words: a quotient, and one more for what remains. -/
def totalPagesInWords? (total : UInt64) (size : UInt32) : Option UInt64 :=
  let size := size.toUInt64
  if size = 0 then some 0
  else if total % size = 0 then some (total / size)
  else Word64.sum? (total / size) 1

/-- Whether there is a page behind the one with a number, in words. -/
def hasNextInWords? (total : UInt64) (size number : UInt32) : Option Bool :=
  match Word64.sum? number.toUInt64 1, totalPagesInWords? total size with
  | some next, some pages => some (next < pages)
  | _, _ => none

/-- The number of results before a page, in words. -/
def offsetInWords? (size number : UInt32) : Option UInt64 :=
  Word64.product? number.toUInt64 size.toUInt64

/-- A product of two numbers of 32 bits has 64. -/
theorem mul_toNat_lt (a b : UInt32) : a.toNat * b.toNat < 18446744073709551616 := by
  have ha : a.toNat ≤ 4294967295 := Nat.le_of_lt_succ a.toNat_lt
  have hb : b.toNat ≤ 4294967295 := Nat.le_of_lt_succ b.toNat_lt
  calc a.toNat * b.toNat ≤ 4294967295 * 4294967295 := Nat.mul_le_mul ha hb
    _ < 18446744073709551616 := by decide

/-- A quotient that is rounded up, from the quotient and the remainder. -/
theorem ceil_div_eq {n d : Nat} (hd : 0 < d) :
    (n + (d - 1)) / d = if n % d = 0 then n / d else n / d + 1 := by
  have hn : d * (n / d) + n % d = n := Nat.div_add_mod n d
  have hrest : n % d < d := Nat.mod_lt n hd
  split
  · next h =>
    rw [Nat.div_eq_iff hd, Nat.mul_comm (n / d) d]
    omega
  · next h =>
    rw [Nat.div_eq_iff hd, Nat.succ_mul, Nat.mul_comm (n / d) d]
    omega

section

variable {α : Type} (data : List α) (total : UInt64) (size number : UInt32)

theorem offsetInWords?_eq :
    (offsetInWords? size number).map (·.toNat) = some (number.toNat * size.toNat) := by
  unfold offsetInWords? Word64.product?
  rw [UInt32.toNat_toUInt64, UInt32.toNat_toUInt64]
  exact Word64.map_toNat_of? (mul_toNat_lt number size)

/-- The rounded quotient never leaves the words. -/
theorem totalPagesInWords?_eq :
    (totalPagesInWords? total size).map (·.toNat) =
      some (ResultPage.totalPages ⟨data, total.toNat, size, number⟩) := by
  have htotal : total.toNat < 18446744073709551616 := total.toNat_lt
  have hzero : size.toUInt64 = 0 ↔ size.toNat = 0 := by
    rw [← UInt64.toNat_inj, UInt32.toNat_toUInt64]
    rfl
  have hrest : total % size.toUInt64 = 0 ↔ total.toNat % size.toNat = 0 := by
    rw [← UInt64.toNat_inj, UInt64.toNat_mod, UInt32.toNat_toUInt64]
    rfl
  have hquotient : (total / size.toUInt64).toNat = total.toNat / size.toNat := by
    rw [UInt64.toNat_div, UInt32.toNat_toUInt64]
  unfold totalPagesInWords? ResultPage.totalPages
  simp only [hzero, hrest]
  by_cases hsize : size.toNat = 0
  · simp only [hsize, if_true]
    rfl
  · rw [if_neg hsize, if_neg hsize, ceil_div_eq (Nat.pos_of_ne_zero hsize)]
    split
    · rw [Option.map_some, hquotient]
    · next h =>
      -- Something remains, so the divisor is two at least and the quotient at most a half.
      have hdivisor : 2 ≤ size.toNat := by
        by_contra hone
        apply h
        rw [show size.toNat = 1 by omega, Nat.mod_one]
      have hhalf : total.toNat / size.toNat ≤ total.toNat / 2 :=
        Nat.div_le_div_left hdivisor (by decide)
      unfold Word64.sum?
      rw [hquotient]
      exact Word64.map_toNat_of? (by show _ + 1 < _; omega)

theorem hasNextInWords?_eq :
    hasNextInWords? total size number =
      some (ResultPage.hasNext ⟨data, total.toNat, size, number⟩) := by
  have hnumber : number.toNat < 4294967296 := number.toNat_lt
  have hsum : (Word64.sum? number.toUInt64 1).map (·.toNat) = some (number.toNat + 1) := by
    unfold Word64.sum?
    rw [UInt32.toNat_toUInt64]
    exact Word64.map_toNat_of? (by show _ + 1 < _; omega)
  obtain ⟨next, hnext, hnextNat⟩ := Option.map_eq_some_iff.mp hsum
  obtain ⟨pages, hpages, hpagesNat⟩ :=
    Option.map_eq_some_iff.mp (totalPagesInWords?_eq data total size number)
  unfold hasNextInWords? ResultPage.hasNext
  simp only [hnext, hpages, ← hnextNat, ← hpagesNat, UInt64.lt_iff_toNat_lt]

end

/-! ### What is sent -/

theorem Page.offset_lt (p : Page) : p.offset < 18446744073709551616 :=
  mul_toNat_lt p.number p.size

/-- The body of a request begins where its page does, told as an integer. -/
theorem Request.get?_from_body (r : Request) :
    ∃ wide, r.body.get? "from" = some (.number (.integer r.page.offset wide)) := by
  refine ⟨⟨by omega, Int.ofNat_lt.mpr r.page.offset_lt⟩, ?_⟩
  rw [← Json.Number.ofNat_eq_integer r.page.offset_lt]
  rfl

/-! ### All together -/

namespace ResultPage

/-- **The arithmetic of pages is exact**, for as many results as a word counts, for every size
and every number of a page.  The pages are the fewest that hold all results, and there is a
next one exactly when its offset lies among the results; pages that hold nothing have no
number and no next one.  Changing the results changes none of this.  In words no step fails,
and each comes to the natural number; a request tells the offset of its page as it is. -/
theorem arithmetic_exact {α β : Type} (data : List α) (f : α → β) (total : UInt64)
    (size number : UInt32) :
    let r : ResultPage α := ⟨data, total.toNat, size, number⟩
    (0 < size.toNat → IsLeast {n | total.toNat ≤ n * size.toNat} r.totalPages ∧
        (r.hasNext = true ↔ (number.toNat + 1) * size.toNat < total.toNat)) ∧
      (size.toNat = 0 → r.totalPages = 0 ∧ r.hasNext = false) ∧
      ((r.map f).totalPages = r.totalPages ∧ (r.map f).hasNext = r.hasNext ∧
        (r.map f).data.length = data.length) ∧
      ((totalPagesInWords? total size).map (·.toNat) = some r.totalPages ∧
        hasNextInWords? total size number = some r.hasNext ∧
        (offsetInWords? size number).map (·.toNat) = some (number.toNat * size.toNat)) ∧
      ∀ (p : Page) (index : String) (q : Query), p.offset = p.number.toNat * p.size.toNat ∧
        ∃ wide, (Request.body ⟨index, q, p⟩).get? "from" =
          some (.number (.integer p.offset wide)) := by
  intro r
  refine ⟨fun hsize => ⟨⟨?_, ?_⟩, r.hasNext_iff hsize⟩, fun hsize => ?_, ?_, ?_, ?_⟩
  · exact (r.totalPages_le_iff hsize _).mp (Nat.le_refl _)
  · intro n hn
    exact (r.totalPages_le_iff hsize n).mpr hn
  · exact ⟨r.totalPages_of_size_zero hsize, r.hasNext_of_size_zero hsize⟩
  · exact ⟨r.totalPages_map f, r.hasNext_map f, r.length_data_map f⟩
  · exact ⟨totalPagesInWords?_eq data total size number,
      hasNextInWords?_eq data total size number, offsetInWords?_eq size number⟩
  · intro p index q
    exact ⟨rfl, Request.get?_from_body ⟨index, q, p⟩⟩

/-- The most results that a word counts fill pages of the largest size, and behind the page
of the largest number there is one more that is not empty. -/
theorem arithmetic_exact_largest :
    let total : UInt64 := 18446744073709551615
    let size : UInt32 := 4294967295
    let r : ResultPage Json := ⟨[], total.toNat, size, size⟩
    0 < size.toNat ∧ IsLeast {n | total.toNat ≤ n * size.toNat} 4294967297 ∧
      r.hasNext = true := by
  intro total size r
  have hsize : 0 < size.toNat := by decide
  have hpages : r.totalPages = 4294967297 := by decide
  obtain ⟨hleast, hnext⟩ := (arithmetic_exact ([] : List Json) id total size size).1 hsize
  exact ⟨hsize, hpages ▸ hleast, hnext.mpr (by decide)⟩

end ResultPage

end DocSearch
