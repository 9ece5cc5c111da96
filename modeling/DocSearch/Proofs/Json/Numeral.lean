import DocSearch.Json.Numeral
import DocSearch.Proofs.Number.Numerals

/-!
# What numerals stand for

How a numeral is spelled, told as a grammar, and the number that it stands for.  An integer of
64 bits is that integer.  Any other numeral is a double: the nearest one as long as its digits
make up a number of 53 bits and its power of ten is not far from zero, for then that number and
the power are doubles themselves and rounding takes place once; else a double that is made step
by step, from as many digits as fit 64 bits and the power of ten, where each step rounds.  So
what a long numeral stands for can miss the double nearest to it.

## Main definitions

* `FractionText`, `UnsignedText`, `NumeralText` — the spelling of numerals.
* `Leading`, `Scaled`, `Stepwise` — the double that is made of a numeral step by step.
* `Short` — decimal numbers with few digits and a small power of ten.
* `StandsFor` — the number of a numeral.

## Main results

* `isNumeral_iff` — the spelling is recognised.
* `double?_of_short` — **a short numeral is read as the double nearest to it.**
* `double?_eq_some_iff` — any numeral is read as a double step by step.
* `numeral?_eq_some_iff` — **what numerals stand for.**
-/

namespace DocSearch.Json

open DocSearch.Number

/-! ### Spelling -/

/-- A fraction: a point with digits behind it, or nothing. -/
inductive FractionText : List Char → Prop
  /-- Nothing. -/
  | none : FractionText []
  /-- A point and digits. -/
  | pointed {ds : List Char} (hne : ds ≠ []) (hds : ∀ c ∈ ds, isDigit c = true) :
      FractionText ('.' :: ds)

/-- A numeral without its sign. -/
inductive UnsignedText : List Char → Prop
  /-- A whole part, a fraction and a power of ten. -/
  | parts {ds fs ps : List Char} (hds : PlainDigits ds) (hfs : FractionText fs)
      (hps : PowerText ps) : UnsignedText (ds ++ (fs ++ ps))

/-- A numeral. -/
inductive NumeralText : List Char → Prop
  /-- Without a sign. -/
  | plain {cs : List Char} (h : UnsignedText cs) : NumeralText cs
  /-- Behind a minus. -/
  | minus {cs : List Char} (h : UnsignedText cs) : NumeralText ('-' :: cs)

theorem isWholePart_iff {ds : List Char} (hds : ∀ c ∈ ds, isDigit c = true) :
    isWholePart ds = true ↔ PlainDigits ds := by
  constructor
  · intro h
    refine ⟨?_, hds, ?_⟩
    · rintro rfl
      cases h
    · intro hzero
      match ds with
      | ['0'] => rfl
      | c :: d :: ds =>
        obtain rfl : c = '0' := Option.some.inj hzero
        cases h
  · intro h
    match ds with
    | [] => exact absurd rfl h.nonempty
    | c :: ds =>
      by_cases hc : c = '0'
      · rw [h.plain (congrArg some hc)]
        rfl
      · unfold isWholePart
        split
        · next heq => cases heq
        · rfl
        · next heq =>
          cases heq
          simpa using hc

theorem FractionText.digitsEnd {fs ps : List Char} (hfs : FractionText fs) (hps : PowerText ps) :
    DigitsEnd (fs ++ ps) := by
  cases hfs with
  | none => exact hps.digitsEnd
  | pointed => exact digitsEnd_cons (by decide)

theorem isNumeralTail_iff {cs : List Char} : isNumeralTail cs = true ↔
    ∃ fs ps, cs = fs ++ ps ∧ FractionText fs ∧ PowerText ps := by
  constructor
  · intro h
    unfold isNumeralTail at h
    split at h
    · next rest =>
      rw [fractionDigits] at h
      simp only [Bool.and_eq_true, Bool.not_eq_true', List.isEmpty_eq_false_iff] at h
      obtain ⟨hne, hpower⟩ := h
      refine ⟨'.' :: rest.takeWhile isDigit, rest.dropWhile isDigit, ?_,
        .pointed hne fun c hc => List.mem_takeWhile_imp hc, powerOf?_isSome_iff.1 hpower⟩
      rw [List.cons_append, List.takeWhile_append_dropWhile]
    · exact ⟨[], cs, rfl, .none, powerOf?_isSome_iff.1 h⟩
  · rintro ⟨fs, ps, rfl, hfs, hps⟩
    cases hfs with
    | none =>
      -- A power does not begin with a point.
      rw [List.nil_append]
      unfold isNumeralTail
      split
      · cases hps with
        | power he => rcases he with he | he <;> cases he
      · exact powerOf?_isSome_iff.2 hps
    | @pointed ds hne hds =>
      rw [List.cons_append, isNumeralTail, fractionDigits]
      simp only [takeWhile_isDigit_append hds hps.digitsEnd,
        dropWhile_isDigit_append hds hps.digitsEnd, Bool.and_eq_true, Bool.not_eq_true',
        List.isEmpty_eq_false_iff]
      exact ⟨hne, powerOf?_isSome_iff.2 hps⟩

theorem unsignedText_iff {cs : List Char} :
    (isWholePart (cs.takeWhile isDigit) && isNumeralTail (cs.dropWhile isDigit)) = true ↔
      UnsignedText cs := by
  rw [Bool.and_eq_true, isWholePart_iff fun c hc => List.mem_takeWhile_imp hc, isNumeralTail_iff]
  constructor
  · rintro ⟨hds, fs, ps, hrest, hfs, hps⟩
    rw [← List.takeWhile_append_dropWhile (p := isDigit) (l := cs), hrest]
    exact .parts hds hfs hps
  · rintro ⟨hds, hfs, hps⟩
    rw [takeWhile_isDigit_append hds.digits (hfs.digitsEnd hps),
      dropWhile_isDigit_append hds.digits (hfs.digitsEnd hps)]
    exact ⟨hds, _, _, rfl, hfs, hps⟩

/-- A numeral without its sign begins with a digit. -/
theorem UnsignedText.isDigit_head {c : Char} {cs : List Char} (h : UnsignedText (c :: cs)) :
    isDigit c = true := by
  generalize hcs : c :: cs = ds at h
  obtain ⟨hds, -, -⟩ := h
  obtain ⟨d, ds, rfl⟩ := List.exists_cons_of_ne_nil hds.nonempty
  obtain rfl : c = d := (List.cons.inj hcs).1
  exact hds.digits _ List.mem_cons_self

theorem isNumeral_iff {cs : List Char} : isNumeral cs = true ↔ NumeralText cs := by
  unfold isNumeral
  simp only [unsignedText_iff]
  split
  · next rest =>
    constructor
    · exact .minus
    · rintro (h | h)
      · cases h.isDigit_head
      · exact h
  · next hminus =>
    constructor
    · exact .plain
    · rintro (h | h)
      · exact h
      · exact absurd rfl (hminus _)

/-! ### Leading digits -/

theorem le_valueFrom (n : Nat) (ds : List Char) : n ≤ valueFrom n ds := by
  induction ds generalizing n with
  | nil => exact Nat.le_refl n
  | cons d ds ih => exact Nat.le_trans (by omega) (ih (10 * n + digitValue d))

/-- The first of some digits, as many as can be put behind `m` within 64 bits: the number that
they make up with it, and how many they are. -/
structure Leading (m : Nat) (ds : List Char) (n k : Nat) : Prop where
  /-- There are so many digits. -/
  le_length : k ≤ ds.length
  /-- The number. -/
  value_eq : n = valueFrom m (ds.take k)
  /-- It fits 64 bits. -/
  lt : n < 18446744073709551616
  /-- With one more digit it does not. -/
  stops : k < ds.length → 18446744073709551616 ≤ valueFrom m (ds.take (k + 1))

theorem leading_absorb {m : Nat} (hm : m < 18446744073709551616) (ds : List Char) :
    Leading m ds (absorb m ds).1 (absorb m ds).2 := by
  induction ds generalizing m with
  | nil => exact ⟨Nat.le_refl _, rfl, hm, fun h => absurd h (Nat.lt_irrefl _)⟩
  | cons d ds ih =>
    rw [absorb]
    split
    · next hfits =>
      obtain ⟨hle, hvalue, hlt, hstops⟩ := ih hfits
      refine ⟨Nat.succ_le_succ hle, ?_, hlt, fun h => ?_⟩
      · rw [List.take_succ_cons, valueFrom_cons]
        exact hvalue
      · rw [List.take_succ_cons, valueFrom_cons]
        exact hstops (Nat.lt_of_succ_lt_succ h)
    · next hfits =>
      refine ⟨Nat.zero_le _, rfl, hm, fun _ => ?_⟩
      rw [List.take_succ_cons, List.take_zero, valueFrom_cons]
      exact Nat.le_of_not_lt hfits

theorem valueFrom_take_le (m : Nat) (ds : List Char) {j k : Nat} (h : j ≤ k) :
    valueFrom m (ds.take j) ≤ valueFrom m (ds.take k) := by
  have htake : ds.take j ++ (ds.take k).drop j = ds.take k := by
    have hj : (ds.take k).take j = ds.take j := by rw [List.take_take, Nat.min_eq_left h]
    rw [← hj, List.take_append_drop]
  rw [← htake, valueFrom_append]
  exact le_valueFrom _ _

/-- No more digits can be put behind a number than the first ones. -/
theorem Leading.le {m : Nat} {ds : List Char} {n k n' k' : Nat} (h : Leading m ds n k)
    (h' : Leading m ds n' k') : k' ≤ k := by
  by_contra hlt
  have hstops := h.stops (Nat.lt_of_lt_of_le (Nat.lt_of_not_le hlt) h'.le_length)
  have hle := valueFrom_take_le m ds (Nat.lt_of_not_le hlt)
  rw [← h'.value_eq] at hle
  exact absurd h'.lt (Nat.not_lt.2 (Nat.le_trans hstops hle))

theorem Leading.absorb_eq {m : Nat} {ds : List Char} {n k : Nat}
    (hm : m < 18446744073709551616) (h : Leading m ds n k) : absorb m ds = (n, k) := by
  have habsorb := leading_absorb hm ds
  have hk : (absorb m ds).2 = k := Nat.le_antisymm (h.le habsorb) (habsorb.le h)
  have hn : (absorb m ds).1 = n := by rw [habsorb.value_eq, h.value_eq, hk]
  exact Prod.ext hn hk

/-- Digits that fit 64 bits are all put behind a number. -/
theorem absorb_eq {n : Nat} {ds : List Char} (h : valueFrom n ds < 18446744073709551616) :
    absorb n ds = (valueFrom n ds, ds.length) := by
  have hall : Leading n ds (valueFrom n ds) ds.length :=
    ⟨Nat.le_refl _, by rw [List.take_length], h, fun hlt => absurd hlt (Nat.lt_irrefl _)⟩
  exact hall.absorb_eq (Nat.lt_of_le_of_lt (le_valueFrom n ds) h)

/-! ### Short numerals -/

/-- The first powers of ten are doubles. -/
theorem unitsOf_powerRank {k : Nat} (hk : k ≤ 22) : unitsOf (powerRank k) = tenTo k <<< 1074 := by
  have hall : ∀ k : Fin 23, unitsOf (powerRank k) = tenTo k <<< 1074 := by decide +kernel
  exact hall ⟨k, by omega⟩

/-- The first powers of ten times an integer of up to 53 bits are rounded once only. -/
theorem timesTen_nearestRank {n : Nat} (hn : n < 2 * binade) {power : Int} (hlow : -22 ≤ power)
    (hhigh : power ≤ 22) : timesTen (nearestRank n 1) power =
      if 0 ≤ power then nearestRank (n * tenTo power.toNat) 1
      else nearestRank n (tenTo (-power).toNat) := by
  rw [timesTen, unitsOf_nearestRank hn]
  split
  · rw [unitsOf_powerRank (by omega), shiftLeft_mul_shiftLeft, nearestRank_shiftLeft]
  · rw [unitsOf_powerRank (by omega), nearestRank_shiftLeft]

theorem scaledRank_nearestRank {n : Nat} (hn : n < 2 * binade) {power : Int} (hlow : -22 ≤ power)
    (hhigh : power ≤ 22) : scaledRank (nearestRank n 1) power =
      if 0 ≤ power then nearestRank (n * tenTo power.toNat) 1
      else nearestRank n (tenTo (-power).toNat) := by
  rw [scaledRank, if_pos (by omega), timesTen_nearestRank hn hlow hhigh]

/-- The rank of the double nearest to a decimal number whose power of ten is not far from zero. -/
def shortRank (d : Decimal) : Nat :=
  if 0 ≤ d.power then nearestRank (d.coefficient * tenTo d.power.toNat) 1
  else nearestRank d.coefficient (tenTo (-d.power).toNat)

theorem toBinary64?_of_short {d : Decimal} (hcoefficient : d.coefficient < 2 * binade)
    (hlow : -22 ≤ d.power) (hhigh : d.power ≤ 22) : d.toBinary64? =
      if h : shortRank d < infiniteRank then some ⟨d.negative, shortRank d, h⟩ else none := by
  obtain ⟨negative, n, power⟩ := d
  rw [Decimal.toBinary64?]
  by_cases hzero : n = 0
  · subst hzero
    have hrank : shortRank ⟨negative, 0, power⟩ = 0 := by
      simp only [shortRank, Nat.zero_mul, nearestRank_zero, ite_self]
    simp only [hrank, true_or, if_true, infiniteRank_pos, dite_true]
  · have hlength : (digitsOf n).length ≤ 16 :=
      length_digitsOf_le (by decide) (Nat.lt_trans hcoefficient (by decide))
    simp only [hzero, false_or]
    rw [if_neg (by simp only at hlow hhigh ⊢; omega), if_neg (by simp only at hlow hhigh ⊢; omega)]
    simp only [Binary64.ofRatio?, shortRank]
    split <;> rfl

/-- Where its digits fit 64 bits a numeral is read as the double nearest to them, scaled. -/
theorem double?_of_fits {cs : List Char} {d : Decimal} (h : decimalOf? cs = some d)
    (hfits : d.coefficient < 18446744073709551616) : double? cs =
      if h : scaledRank (nearestRank d.coefficient 1) d.power < infiniteRank then
        some ⟨d.negative, scaledRank (nearestRank d.coefficient 1) d.power, h⟩
      else none := by
  obtain ⟨negative, body, hsign⟩ : ∃ negative body, sign cs = (negative, body) := ⟨_, _, rfl⟩
  obtain ⟨whole, hwhole⟩ : ∃ whole, body.takeWhile isDigit = whole := ⟨_, rfl⟩
  obtain ⟨fraction, rest, hfraction⟩ : ∃ fraction rest,
    fractionDigits (body.dropWhile isDigit) = (fraction, rest) := ⟨_, _, rfl⟩
  simp only [decimalOf?, hsign, hwhole, hfraction] at h
  split at h
  · cases h
  · obtain ⟨power, hpower, rfl⟩ := Option.map_eq_some_iff.1 h
    -- The digits fit 64 bits, so none of them is left out.
    have hvalue : valueFrom (valueFrom 0 whole) fraction = valueOf (whole ++ fraction) :=
      (valueFrom_append 0 whole fraction).symm
    rw [← hvalue] at hfits
    have hfirst := absorb_eq (Nat.lt_of_le_of_lt (le_valueFrom _ fraction) hfits)
    have hscale : power + ((whole.length - whole.length : Nat) : Int) - fraction.length =
        power - fraction.length := by omega
    simp only [double?, hsign, hwhole, hfraction, hpower, Option.bind_some, hfirst,
      absorb_eq hfits, hvalue, hscale]

/-- **A short numeral is read as the double nearest to it.** -/
theorem double?_of_short {cs : List Char} {d : Decimal} (h : decimalOf? cs = some d)
    (hcoefficient : d.coefficient < 2 * binade) (hlow : -22 ≤ d.power) (hhigh : d.power ≤ 22) :
    double? cs = d.toBinary64? := by
  have hrank : scaledRank (nearestRank d.coefficient 1) d.power = shortRank d :=
    scaledRank_nearestRank hcoefficient hlow hhigh
  rw [toBinary64?_of_short hcoefficient hlow hhigh,
    double?_of_fits h (Nat.lt_trans hcoefficient (by decide))]
  simp only [hrank]

/-! ### Step by step -/

/-- The double of a rank times a power of ten, rounded at each step; the power of ten is rounded
itself. -/
inductive Scaled : Nat → Int → Nat → Prop
  /-- A product with a power of ten. -/
  | product {rank : Nat} {power : Int} (hlow : 0 ≤ power) (hhigh : power ≤ 308) :
      Scaled rank power
        (nearestRank (unitsOf rank * unitsOf (nearestRank (tenTo power.toNat) 1)) (1 <<< 2148))
  /-- A quotient by a power of ten. -/
  | quotient {rank : Nat} {power : Int} (hlow : -308 ≤ power) (hhigh : power < 0) :
      Scaled rank power
        (nearestRank (unitsOf rank) (unitsOf (nearestRank (tenTo (-power).toNat) 1)))
  /-- Zero, which stays what it is. -/
  | zero {power : Int} (h : power < -308 ∨ 308 < power) : Scaled 0 power 0
  /-- A quotient by the largest power of ten that is a double, and then further on. -/
  | further {rank result : Nat} {power : Int} (hrank : rank ≠ 0) (hpower : power < -308)
      (h : Scaled (nearestRank (unitsOf rank) (unitsOf (nearestRank (tenTo 308) 1)))
        (power + 308) result) : Scaled rank power result

theorem scaledRank_of_scaled {rank result : Nat} {power : Int} (h : Scaled rank power result) :
    scaledRank rank power = result := by
  induction h with
  | product hlow hhigh =>
    rw [scaledRank, if_pos ⟨Int.le_trans (by decide) hlow, hhigh⟩, timesTen, if_pos hlow]
    rfl
  | quotient hlow hhigh =>
    rw [scaledRank, if_pos ⟨hlow, by omega⟩, timesTen, if_neg (by omega)]
    rfl
  | zero h => rw [scaledRank, if_neg (by omega), if_pos rfl]
  | further hrank hpower h ih =>
    rw [scaledRank, if_neg (by omega), if_neg hrank, if_neg (by omega), timesTen,
      if_neg (by decide)]
    exact ih

theorem scaled_scaledRank (rank : Nat) (power : Int) (h : scaledRank rank power < infiniteRank) :
    Scaled rank power (scaledRank rank power) := by
  fun_induction scaledRank rank power with
  | case1 rank power hpower =>
    rw [timesTen]
    split
    · exact .product (by assumption) hpower.2
    · exact .quotient hpower.1 (by omega)
  | case2 power hpower => exact .zero (by omega)
  | case3 => exact absurd h (Nat.lt_irrefl _)
  | case4 rank power hpower hrank hneg ih => exact .further hrank (by omega) (ih h)

/-- The double that is made of a numeral step by step: its first digits make up a number of 64
bits, and the double nearest to this is scaled by the power of ten that is left. -/
inductive Stepwise (cs : List Char) (x : Binary64) : Prop
  /-- The parts of the numeral, with the digits of the whole part and of the fraction. -/
  | parts {body whole fraction rest : List Char} {power : Int} {m n j k : Nat}
      (hsign : sign cs = (x.negative, body)) (hwhole : body.takeWhile isDigit = whole)
      (hfraction : fractionDigits (body.dropWhile isDigit) = (fraction, rest))
      (hpower : powerOf? rest = some power) (hm : Leading 0 whole m j)
      (hn : Leading m fraction n k)
      (h : Scaled (nearestRank n 1) (power + (whole.length - j : Nat) - k) x.rank)

/-- **A numeral is read as a double step by step.** -/
theorem double?_eq_some_iff {cs : List Char} {x : Binary64} :
    double? cs = some x ↔ Stepwise cs x := by
  constructor
  · intro h
    rw [double?] at h
    simp only [Option.bind_eq_some_iff] at h
    obtain ⟨power, hpower, h⟩ := h
    split at h
    · next hfinite =>
      cases h
      have hm := leading_absorb (by decide : 0 < 18446744073709551616)
        ((sign cs).2.takeWhile isDigit)
      exact .parts rfl rfl rfl hpower hm (leading_absorb hm.lt _) (scaled_scaledRank _ _ hfinite)
    · cases h
  · rintro ⟨hsign, hwhole, hfraction, hpower, hm, hn, h⟩
    have hrank := scaledRank_of_scaled h
    simp only [double?, hsign, hwhole, hfraction, hpower, hm.absorb_eq (by decide),
      hn.absorb_eq hm.lt, Option.bind_some, hrank, x.finite, dite_true]

/-! ### Numbers -/

/-- Few digits, and a power of ten that is not far from zero. -/
structure Short (d : Decimal) : Prop where
  /-- The digits make up a number of 53 bits. -/
  coefficient_lt : d.coefficient < 9007199254740992
  /-- The power is not far below zero. -/
  le_power : -22 ≤ d.power
  /-- The power is not far above zero. -/
  power_le : d.power ≤ 22

/-- The number that a numeral stands for. -/
inductive StandsFor (cs : List Char) : Number → Prop
  /-- An integer of 64 bits. -/
  | integer {z : Int} (h : Wide z) (hcs : cs = intText z) : StandsFor cs (.integer z h)
  /-- The double nearest to a short decimal number. -/
  | nearest {d : Decimal} {x : Binary64} (hcs : ∀ z, Wide z → cs ≠ intText z)
      (hd : decimalOf? cs = some d) (hshort : Short d) (hx : d.toBinary64? = some x) :
      StandsFor cs (.binary x)
  /-- The double that is made of another decimal number step by step. -/
  | stepwise {d : Decimal} {x : Binary64} (hcs : ∀ z, Wide z → cs ≠ intText z)
      (hd : decimalOf? cs = some d) (hlong : ¬ Short d) (hx : Stepwise cs x) :
      StandsFor cs (.binary x)

theorem UnsignedText.plainDigits {cs : List Char} (h : UnsignedText cs)
    (hcs : ∀ c ∈ cs, isDigit c = true) : PlainDigits cs := by
  have hwhole := (Bool.and_eq_true_iff.1 (unsignedText_iff.2 h)).1
  rw [List.takeWhile_eq_self_iff.2 hcs] at hwhole
  exact (isWholePart_iff hcs).1 hwhole

/-- A numeral that is an integer is written plainly, unless it is a zero behind a minus. -/
theorem NumeralText.plainNumeral {cs : List Char} {z : Int} (h : NumeralText cs)
    (hz : Numeral cs z) : PlainNumeral cs ∨ cs = ['-', '0'] := by
  cases hz with
  | plain hne hds =>
    cases h with
    | plain h => exact .inl (.natural (h.plainDigits hds))
    | minus => cases hds _ List.mem_cons_self
  | plus =>
    cases h with
    | plain h => cases h.isDigit_head
  | @minus ds hne hds =>
    cases h with
    | plain h => cases h.isDigit_head
    | minus h =>
      by_cases hzero : ds = ['0']
      · exact .inr (by rw [hzero])
      · exact .inl (.negative (h.plainDigits hds) hzero)

/-- An integer is a numeral. -/
theorem numeralText_intText (z : Int) : NumeralText (intText z) := by
  have hunsigned {ds : List Char} (h : PlainDigits ds) : UnsignedText ds := by
    have hparts := UnsignedText.parts h .none .none
    rwa [List.append_nil, List.append_nil] at hparts
  generalize intText z = cs, plainNumeral_intText z = h
  cases h with
  | natural h => exact .plain (hunsigned h)
  | negative h => exact .minus (hunsigned h)

theorem numeral?_intText {z : Int} (h : Wide z) : numeral? (intText z) = some (.integer z h) := by
  have hminus : ¬ (z = 0 ∧ (intText z).head? = some '-') := by
    rintro ⟨rfl, hhead⟩
    have hzero : intText 0 = ['0'] := digitsOf_zero
    rw [hzero] at hhead
    cases hhead
  rw [numeral?, isNumeral_iff.2 (numeralText_intText z),
    integerOf?_eq_some_iff.2 (numeral_intText z)]
  simp only [Bool.not_true, Bool.false_eq_true, if_false, if_neg hminus, Number.ofInt?, dif_pos h]

theorem numeral?_of_ne_intText {cs : List Char} (h : NumeralText cs)
    (hcs : ∀ z, Wide z → cs ≠ intText z) : numeral? cs = (double? cs).map .binary := by
  rw [numeral?, isNumeral_iff.2 h]
  simp only [Bool.not_true, Bool.false_eq_true, if_false]
  split
  · next z hz =>
    have hz := integerOf?_eq_some_iff.1 hz
    split
    · rfl
    · next hminus =>
      split
      · next n hn =>
        have hwide : Wide z := by
          by_contra hwide
          rw [Number.ofInt?, dif_neg hwide] at hn
          cases hn
        rcases h.plainNumeral hz with hplain | rfl
        · exact absurd ((intText_eq_self_iff hz).2 hplain).symm (hcs z hwide)
        · have hzero : integerOf? ['-', '0'] = some 0 := rfl
          rw [← integerOf?_eq_some_iff, hzero] at hz
          exact absurd ⟨(Option.some.inj hz).symm, rfl⟩ hminus
      · rfl
  · rfl

theorem numeral?_eq_none {cs : List Char} (h : ¬ NumeralText cs) : numeral? cs = none := by
  rw [← isNumeral_iff, Bool.not_eq_true] at h
  rw [numeral?, h]
  rfl

theorem UnsignedText.exists_coefficient {cs : List Char} (h : UnsignedText cs) :
    ∃ ds ps, cs = ds ++ ps ∧ Coefficient ds ∧ PowerText ps := by
  obtain ⟨hds, hfs, hps⟩ := h
  cases hfs with
  | none => exact ⟨_, _, rfl, .whole hds.nonempty hds.digits, hps⟩
  | pointed hne hes =>
    refine ⟨_, _, ?_, .pointed (.inl hds.nonempty) hds.digits hes, hps⟩
    rw [List.append_assoc]

/-- A numeral is a decimal number. -/
theorem NumeralText.exists_decimal {cs : List Char} (h : NumeralText cs) :
    ∃ d, decimalOf? cs = some d := by
  rw [← Option.isSome_iff_exists, decimalOf?_isSome_iff]
  cases h with
  | plain h =>
    obtain ⟨ds, ps, hcs, hds, hps⟩ := h.exists_coefficient
    obtain ⟨hwhole, -, -⟩ := h
    rw [sign_digits hwhole.nonempty hwhole.digits]
    exact ⟨ds, ps, hcs, hds, hps⟩
  | minus h => exact h.exists_coefficient

/-- **What numerals stand for.** -/
theorem numeral?_eq_some_iff {cs : List Char} {n : Number} :
    numeral? cs = some n ↔ NumeralText cs ∧ StandsFor cs n := by
  by_cases htext : NumeralText cs
  · by_cases hinteger : ∃ z, Wide z ∧ cs = intText z
    · obtain ⟨z, hz, rfl⟩ := hinteger
      rw [numeral?_intText hz]
      constructor
      · rintro ⟨⟩
        exact ⟨htext, .integer hz rfl⟩
      · rintro ⟨-, ⟨h, hcs⟩ | ⟨hcs, -, -, -⟩ | ⟨hcs, -, -, -⟩⟩
        · obtain rfl := intText_injective hcs
          rfl
        all_goals exact absurd rfl (hcs z hz)
    · have hcs : ∀ z, Wide z → cs ≠ intText z := fun z hz heq => hinteger ⟨z, hz, heq⟩
      rw [numeral?_of_ne_intText htext hcs, Option.map_eq_some_iff]
      obtain ⟨d, hd⟩ := htext.exists_decimal
      constructor
      · rintro ⟨x, hx, rfl⟩
        refine ⟨htext, ?_⟩
        by_cases hshort : Short d
        · rw [double?_of_short hd hshort.coefficient_lt hshort.le_power hshort.power_le] at hx
          exact .nearest hcs hd hshort hx
        · exact .stepwise hcs hd hshort (double?_eq_some_iff.1 hx)
      · rintro ⟨-, ⟨hz, rfl⟩ | ⟨-, hd', hshort, hx⟩ | ⟨-, -, -, hx⟩⟩
        · exact absurd rfl (hcs _ hz)
        · rw [← double?_of_short hd' hshort.coefficient_lt hshort.le_power hshort.power_le] at hx
          exact ⟨_, hx, rfl⟩
        · exact ⟨_, double?_eq_some_iff.2 hx, rfl⟩
  · rw [numeral?_eq_none htext]
    exact iff_of_false (by simp) fun h => htext h.1

end DocSearch.Json
