import DocSearch.Proofs.Number.Digits

/-!
# Integers as doubles

An integer has a double nearest to it, and the larger of two integers never has the smaller
one.  The rank of the nearest double is a quotient rounded to 53 bits with the number of bits
dropped in front of it.  While the same number of bits is dropped, the quotient decides; when
more are dropped, the whole range of ranks lies behind the one before.

## Main definitions

* `roundedKey` — the place of the double nearest to an integer in the order of the doubles.
* `nearestKey?` — the same, unless the integer is too large to have a double.

## Main results

* `nearestRank_mono` — **rounding to the nearest double keeps the order.**
* `unitsOf_nearestRank` — an integer of 53 bits is its own double.
* `roundedKey_mono` — the same for integers with their sign.
* `Binary64.map_key_ofInt?` — the double nearest to an integer.
* `exists_decimal_of_integerOf?` — a text that is an integer is a decimal number, too.
* `Decimal.map_key_toBinary64?` — the double of such a text is that of the integer.
-/

namespace DocSearch.Number

/-! ### Rounded quotients -/

theorem div_le_nearestQuotient (num den : Nat) : num / den ≤ nearestQuotient num den := by
  simp only [nearestQuotient]
  split
  · omega
  · split
    · omega
    · split <;> omega

theorem nearestQuotient_le (num den : Nat) : nearestQuotient num den ≤ num / den + 1 := by
  simp only [nearestQuotient]
  split
  · omega
  · split
    · omega
    · split <;> omega

theorem nearestQuotient_mono {a b : Nat} (h : a ≤ b) (den : Nat) :
    nearestQuotient a den ≤ nearestQuotient b den := by
  rcases Nat.lt_or_eq_of_le (Nat.div_le_div_right (c := den) h) with hlt | heq
  · have := nearestQuotient_le a den
    have := div_le_nearestQuotient b den
    omega
  · have hmod : a % den ≤ b % den := by
      have ha := Nat.div_add_mod a den
      have hb := Nat.div_add_mod b den
      rw [heq] at ha
      omega
    simp only [nearestQuotient, heq]
    grind

/-! ### Dropping bits -/

theorem log2_mono {m n : Nat} (h : m ≤ n) : m.log2 ≤ n.log2 := by
  rcases Nat.eq_zero_or_pos m with rfl | hm
  · simp
  · exact (Nat.le_log2 (by omega)).2 (Nat.le_trans (Nat.log2_self_le (by omega)) h)

/-- No more than 53 bits are left. -/
theorem shiftRight_log2_lt (n : Nat) : n >>> (n.log2 - 52) < 2 * binade := by
  rw [Nat.shiftRight_eq_div_pow, Nat.div_lt_iff_lt_mul (Nat.two_pow_pos _)]
  have hn : n < 2 ^ (n.log2 + 1) := Nat.lt_log2_self
  have hpow : 2 ^ (n.log2 + 1) ≤ 2 ^ (53 + (n.log2 - 52)) :=
    Nat.pow_le_pow_right (by decide) (by omega)
  rw [Nat.pow_add 2 53] at hpow
  exact Nat.lt_of_lt_of_le hn hpow

/-- Of a number of 53 bits or more no fewer than 53 are left. -/
theorem le_shiftRight_log2 {n : Nat} (h : 52 ≤ n.log2) : binade ≤ n >>> (n.log2 - 52) := by
  have hne : n ≠ 0 := by
    rintro rfl
    simp at h
  rw [Nat.shiftRight_eq_div_pow, Nat.le_div_iff_mul_le (Nat.two_pow_pos _)]
  have hn : 2 ^ n.log2 ≤ n := Nat.log2_self_le hne
  have hpow : 2 ^ (52 + (n.log2 - 52)) = 2 ^ n.log2 := by rw [Nat.add_sub_cancel' h]
  rw [Nat.pow_add] at hpow
  exact Nat.le_trans (Nat.le_of_eq hpow) hn

theorem div_shiftLeft (num den k : Nat) : num / (den <<< k) = (num / den) >>> k := by
  rw [Nat.shiftLeft_eq, Nat.shiftRight_eq_div_pow, Nat.div_div_eq_div_mul]

/-- **Rounding to the nearest double keeps the order.** -/
theorem nearestRank_mono {a b : Nat} (h : a ≤ b) (den : Nat) :
    nearestRank a den ≤ nearestRank b den := by
  have hscaled : a <<< 1074 ≤ b <<< 1074 := by
    rw [Nat.shiftLeft_eq, Nat.shiftLeft_eq]
    exact Nat.mul_le_mul_right _ h
  have hlog := log2_mono (Nat.div_le_div_right (c := den) hscaled)
  simp only [nearestRank]
  generalize a <<< 1074 = m at *
  generalize b <<< 1074 = n at *
  rcases Nat.eq_or_lt_of_le (Nat.sub_le_sub_right hlog 52) with heq | hlt
  · rw [heq]
    exact Nat.add_le_add_left (nearestQuotient_mono hscaled _) _
  · -- The ranks of the smaller one end where those of the larger one begin.
    have hm := nearestQuotient_le m (den <<< ((m / den).log2 - 52))
    have hn := div_le_nearestQuotient n (den <<< ((n / den).log2 - 52))
    rw [div_shiftLeft] at hm hn
    have hm' := shiftRight_log2_lt (m / den)
    have hn' := le_shiftRight_log2 (n := n / den) (by omega)
    have hshift := Nat.mul_le_mul_right binade (Nat.succ_le_of_lt hlt)
    rw [Nat.succ_mul] at hshift
    omega

/-! ### Exact quotients -/

theorem nearestRank_zero (den : Nat) : nearestRank 0 den = 0 := by
  simp [nearestRank, nearestQuotient]

theorem nearestQuotient_mul_left {c : Nat} (hc : 0 < c) (num den : Nat) :
    nearestQuotient (c * num) (c * den) = nearestQuotient num den := by
  simp only [nearestQuotient, Nat.mul_div_mul_left _ _ hc, Nat.mul_mod_mul_left,
    Nat.mul_left_comm 2 c, Nat.mul_lt_mul_left hc]

/-- A quotient is rounded alike after both of its parts are shifted. -/
theorem nearestRank_shiftLeft (num den k : Nat) :
    nearestRank (num <<< k) (den <<< k) = nearestRank num den := by
  have hpos : 0 < 2 ^ k := Nat.two_pow_pos k
  have hshift (n : Nat) : n <<< k = 2 ^ k * n := by rw [Nat.shiftLeft_eq, Nat.mul_comm]
  have hmul (n j : Nat) : (2 ^ k * n) <<< j = 2 ^ k * n <<< j := by
    rw [Nat.shiftLeft_eq, Nat.shiftLeft_eq, Nat.mul_assoc]
  simp only [nearestRank, hshift, hmul, Nat.mul_div_mul_left _ _ hpos,
    nearestQuotient_mul_left hpos]

theorem shiftLeft_mul_shiftLeft (a b j k : Nat) : (a <<< j) * (b <<< k) = (a * b) <<< (j + k) := by
  rw [Nat.shiftLeft_eq, Nat.shiftLeft_eq, Nat.shiftLeft_eq, Nat.pow_add, Nat.mul_mul_mul_comm]

/-- An exact quotient is not rounded. -/
theorem nearestQuotient_mul_self {den : Nat} (hden : 0 < den) (q : Nat) :
    nearestQuotient (q * den) den = q := by
  simp [nearestQuotient, Nat.mul_div_cancel _ hden, hden]

theorem log2_shiftLeft {n : Nat} (hn : n ≠ 0) (k : Nat) : (n <<< k).log2 = n.log2 + k := by
  have := (Nat.log2_eq_iff (n := n <<< k) (k := n.log2 + k) (by simpa using hn)).2
  apply this
  rw [Nat.shiftLeft_eq, Nat.pow_add, show n.log2 + k + 1 = n.log2 + 1 + k by omega, Nat.pow_add]
  exact ⟨Nat.mul_le_mul_right _ (Nat.log2_self_le hn),
    Nat.mul_lt_mul_of_pos_right Nat.lt_log2_self (Nat.two_pow_pos k)⟩

/-- The magnitude of a rank from the half-open range of 53 bits. -/
theorem unitsOf_binade {shift q : Nat} (hlow : binade ≤ q) (hhigh : q < 2 * binade) :
    unitsOf (shift * binade + q) = q <<< shift := by
  have hpos : 0 < binade := by decide
  have hdiv : (shift * binade + q) / binade = shift + 1 := by
    rw [Nat.div_eq_iff hpos, Nat.add_mul]
    omega
  have hmod : (shift * binade + q) % binade = q - binade := by
    have := Nat.div_add_mod (shift * binade + q) binade
    rw [hdiv, Nat.mul_comm, Nat.add_mul] at this
    omega
  rw [unitsOf, if_neg (by omega), hdiv, hmod, Nat.add_sub_cancel' hlow, Nat.add_sub_cancel]

/-- Integers of up to 53 bits are doubles. -/
theorem unitsOf_nearestRank {n : Nat} (h : n < 2 * binade) :
    unitsOf (nearestRank n 1) = n <<< 1074 := by
  rcases Nat.eq_zero_or_pos n with rfl | hn
  · rw [nearestRank_zero]
    rfl
  · have hlog : n.log2 < 53 := (Nat.log2_lt (by omega)).2 (Nat.lt_of_lt_of_eq h (by decide))
    have hscaled : (n <<< 1074).log2 - 52 = n.log2 + 1022 := by
      rw [log2_shiftLeft (by omega)]
      omega
    have hexact : n <<< 1074 = (n <<< (52 - n.log2)) * (1 <<< (n.log2 + 1022)) := by
      rw [Nat.shiftLeft_eq, Nat.shiftLeft_eq, Nat.shiftLeft_eq, Nat.one_mul, Nat.mul_assoc,
        ← Nat.pow_add, show 52 - n.log2 + (n.log2 + 1022) = 1074 by omega]
    have hlow : binade ≤ n <<< (52 - n.log2) := by
      rw [Nat.shiftLeft_eq]
      calc binade = 2 ^ n.log2 * 2 ^ (52 - n.log2) := by
            rw [← Nat.pow_add, show n.log2 + (52 - n.log2) = 52 by omega]
            rfl
        _ ≤ n * 2 ^ (52 - n.log2) := Nat.mul_le_mul_right _ (Nat.log2_self_le (by omega))
    have hhigh : n <<< (52 - n.log2) < 2 * binade := by
      rw [Nat.shiftLeft_eq]
      calc n * 2 ^ (52 - n.log2) < 2 ^ (n.log2 + 1) * 2 ^ (52 - n.log2) :=
            Nat.mul_lt_mul_of_pos_right Nat.lt_log2_self (Nat.two_pow_pos _)
        _ = 2 * binade := by
            rw [← Nat.pow_add, show n.log2 + 1 + (52 - n.log2) = 53 by omega]
            rfl
    simp only [nearestRank, Nat.div_one, hscaled]
    rw [hexact, nearestQuotient_mul_self (by rw [Nat.one_shiftLeft]; exact Nat.two_pow_pos _),
      unitsOf_binade hlow hhigh]
    rw [Nat.shiftLeft_eq, Nat.shiftLeft_eq 1, Nat.one_mul]

/-! ### Integers -/

/-- Integers of up to 128 bits are far from the largest double. -/
theorem nearestRank_lt {n : Nat} (h : n < tenTo 40) : nearestRank n 1 < infiniteRank :=
  Nat.lt_of_le_of_lt (nearestRank_mono (Nat.le_of_lt h) 1) (by decide +kernel)

/-- The place of the double nearest to an integer in the order of the doubles. -/
def roundedKey (z : Int) : Int :=
  if z < 0 then -(nearestRank z.natAbs 1 : Int) else nearestRank z.natAbs 1

/-- **The larger of two integers never has the smaller double.** -/
theorem roundedKey_mono {a b : Int} (h : a ≤ b) : roundedKey a ≤ roundedKey b := by
  unfold roundedKey
  split
  · split
    · have := nearestRank_mono (show b.natAbs ≤ a.natAbs by omega) 1
      omega
    · omega
  · split
    · omega
    · have := nearestRank_mono (show a.natAbs ≤ b.natAbs by omega) 1
      omega

/-- The place of the double nearest to an integer, unless it is out of range. -/
def nearestKey? (z : Int) : Option Int :=
  if nearestRank z.natAbs 1 < infiniteRank then some (roundedKey z) else none

theorem nearestKey?_eq_some_iff {z k : Int} :
    nearestKey? z = some k ↔ nearestRank z.natAbs 1 < infiniteRank ∧ k = roundedKey z := by
  rw [nearestKey?]
  split
  · next h => simp [h, eq_comm]
  · next h => simp [h]

/-- Integers of up to 128 bits have a double. -/
theorem nearestKey?_of_lt {z : Int} (h : z.natAbs < tenTo 40) :
    nearestKey? z = some (roundedKey z) :=
  nearestKey?_eq_some_iff.2 ⟨nearestRank_lt h, rfl⟩

/-- Integers of more than 310 digits have none. -/
theorem nearestKey?_of_le {z : Int} (h : tenTo 310 ≤ z.natAbs) : nearestKey? z = none := by
  have hlarge : infiniteRank ≤ nearestRank (tenTo 310) 1 := by decide +kernel
  exact if_neg (Nat.not_lt.2 (Nat.le_trans hlarge (nearestRank_mono h 1)))

theorem natAbs_signed (negative : Bool) (n : Nat) :
    (if negative then -(n : Int) else n).natAbs = n := by
  cases negative
  · exact Int.natAbs_natCast n
  · exact (Int.natAbs_neg _).trans (Int.natAbs_natCast n)

/-- The double nearest to an integer that is given by its sign and its magnitude; a zero may
have either sign. -/
theorem Binary64.map_key_ofRatio? (negative : Bool) (n : Nat) :
    (ofRatio? negative n 1).map key = nearestKey? (if negative then -(n : Int) else n) := by
  rw [ofRatio?, nearestKey?, natAbs_signed]
  split
  · have hnonneg : ¬ (n : Int) < 0 := by omega
    cases negative with
    | false => simp only [Option.map_some, key, roundedKey, Bool.false_eq_true, if_false,
        if_neg hnonneg, Int.natAbs_natCast]
    | true =>
      rcases Nat.eq_zero_or_pos n with rfl | hpos
      · simp [key, roundedKey, nearestRank_zero]
      · have hneg : -(n : Int) < 0 := by omega
        simp only [Option.map_some, key, roundedKey, if_true, if_pos hneg, Int.natAbs_neg,
          Int.natAbs_natCast]
  · rfl

theorem Binary64.map_key_ofInt? (z : Int) : (ofInt? z).map key = nearestKey? z := by
  rw [ofInt?, map_key_ofRatio?]
  congr 1
  by_cases hneg : z < 0
  · simp only [hneg, decide_true, if_true]
    omega
  · simp only [hneg, decide_false, Bool.false_eq_true, if_false]
    omega

/-! ### Texts of integers -/

/-- A text that is an integer is that integer as a decimal number. -/
theorem exists_decimal_of_integerOf? {cs : List Char} {z : Int} (h : integerOf? cs = some z) :
    ∃ d : Decimal, decimalOf? cs = some d ∧ d.power = 0 ∧
      z = if d.negative then -(d.coefficient : Int) else d.coefficient := by
  rcases hs : sign cs with ⟨negative, ds⟩
  simp only [integerOf?, hs] at h
  split at h
  · cases h
  · next hdigits =>
    simp only [Bool.or_eq_true, Bool.not_eq_true', not_or, Bool.not_eq_true,
      Bool.not_eq_false, List.isEmpty_eq_false_iff, List.all_eq_true] at hdigits
    obtain ⟨hne, hall⟩ := hdigits
    have htake : ds.takeWhile isDigit = ds := List.takeWhile_eq_self_iff.2 hall
    have hdrop : ds.dropWhile isDigit = [] := List.dropWhile_eq_nil_iff.2 hall
    have hempty : ds.isEmpty = false := List.isEmpty_eq_false_iff.2 hne
    refine ⟨⟨negative, valueOf ds, 0⟩, ?_, rfl, (Option.some.inj h).symm⟩
    simp [decimalOf?, hs, htake, hdrop, fractionDigits, hempty]

/-- The double nearest to an integer that is given as a decimal number, with any number of
digits. -/
theorem Decimal.map_key_toBinary64? {d : Decimal} (hpower : d.power = 0) :
    d.toBinary64?.map Binary64.key =
      nearestKey? (if d.negative then -(d.coefficient : Int) else d.coefficient) := by
  obtain ⟨negative, n, power⟩ := d
  obtain rfl : power = 0 := hpower
  by_cases hzero : n = 0
  · subst hzero
    have hkey : nearestKey? 0 = some 0 := nearestKey?_of_lt (by decide)
    cases negative <;> simp [toBinary64?, Binary64.key, hkey]
  · have hsmall : ¬ ((digitsOf n).length : Int) < -330 := by omega
    by_cases hlarge : (310 : Int) < (digitsOf n).length
    · -- So many digits stand for a number that has no double.
      have hten : tenTo 310 ≤ n := by
        by_contra hlt
        have := length_digitsOf_le (by decide) (Nat.lt_of_not_le hlt)
        omega
      rw [nearestKey?_of_le (by rwa [natAbs_signed])]
      simp [toBinary64?, hzero, hsmall, hlarge]
    · have hten : n * tenTo 0 = n := Nat.mul_one n
      rw [← Binary64.map_key_ofRatio?]
      simp [toBinary64?, hzero, hsmall, hlarge, hten]

end DocSearch.Number
