import DocSearch.Proofs.Scalar.Integral

/-!
# Texts that are numbers

An integer is written with the digits that it needs, and with a minus in front of a negative
number only.  Among the texts that are read as integers these are the ones that come back when
the integer is written again.  A decimal number has digits with a point among them, and a power
of ten behind them.

## Main definitions

* `PlainDigits`, `PlainNumeral` — natural numbers and integers written without anything that
  they do not need.
* `Coefficient`, `PowerText` — the two halves of a decimal number without its sign.

## Main results

* `digitsOf_valueOf` — digits come back from their value.
* `intText_eq_self_iff` — **the plain numerals are those that come back from their integer.**
* `decimalOf?_isSome_iff` — **the texts that are read as decimal numbers.**
-/

namespace DocSearch.Number

/-- Decimal digits, without zeros in front. -/
structure PlainDigits (ds : List Char) : Prop where
  /-- There is a digit. -/
  nonempty : ds ≠ []
  /-- There are only digits. -/
  digits : ∀ c ∈ ds, isDigit c = true
  /-- A zero stands in front of nothing. -/
  plain : ds.head? = some '0' → ds = ['0']

/-- An integer in plain digits, with a minus at most, and that in front of no zero. -/
inductive PlainNumeral : List Char → Prop
  /-- Digits alone. -/
  | natural {ds : List Char} (h : PlainDigits ds) : PlainNumeral ds
  /-- Digits behind a minus. -/
  | negative {ds : List Char} (h : PlainDigits ds) (hzero : ds ≠ ['0']) : PlainNumeral ('-' :: ds)

/-! ### Digits -/

theorem digitChar_digitValue {c : Char} (h : isDigit c = true) :
    digitValue c < 10 ∧ digitChar (digitValue c) = c := by
  simp only [isDigit, Bool.and_eq_true, decide_eq_true_eq] at h
  obtain ⟨hlow, hhigh⟩ := h
  have hlow : 48 ≤ c.toNat := hlow
  have hhigh : c.toNat ≤ 57 := hhigh
  have hsum : 48 + (c.toNat - 48) = c.toNat := by omega
  refine ⟨show c.toNat - 48 < 10 by omega, ?_⟩
  show Char.ofNat (48 + (c.toNat - 48)) = c
  rw [hsum, Char.ofNat_toNat]

theorem digitsOf_zero : digitsOf 0 = ['0'] := by
  rw [digitsOf]
  rfl

theorem valueOf_append_singleton (ds : List Char) (d : Char) :
    valueOf (ds ++ [d]) = 10 * valueOf ds + digitValue d := by
  rw [valueOf, valueFrom_append, valueFrom_cons, valueFrom_nil, ← valueOf]

/-- The digits of a number do not begin with a zero that they do not need. -/
theorem plainDigits_digitsOf (n : Nat) : PlainDigits (digitsOf n) := by
  refine ⟨digitsOf_ne_nil n, isDigit_of_mem_digitsOf, ?_⟩
  induction n using Nat.strongRecOn with
  | _ n ih =>
    intro h
    rw [digitsOf] at h ⊢
    split
    · next hn =>
      rw [if_pos hn] at h
      rw [Option.some.inj h]
    · next hn =>
      -- A zero in front would be the only digit of what is left of the number, which is not zero.
      rw [if_neg hn, List.head?_append_of_ne_nil _ (digitsOf_ne_nil _)] at h
      have hvalue := valueOf_digitsOf (n / 10)
      rw [ih (n / 10) (by omega) h] at hvalue
      have hzero : valueOf ['0'] = 0 := rfl
      omega

/-- Digits come back from their value. -/
theorem digitsOf_valueOf {ds : List Char} (h : PlainDigits ds) : digitsOf (valueOf ds) = ds := by
  induction ds using List.reverseRecOn with
  | nil => exact absurd rfl h.nonempty
  | append_singleton es d ih =>
    obtain ⟨hlt, hd⟩ := digitChar_digitValue (h.digits d (by simp))
    rw [valueOf_append_singleton, digitsOf]
    by_cases hes : es = []
    · subst hes
      rw [valueOf_nil, Nat.mul_zero, Nat.zero_add, if_pos hlt, hd]
      rfl
    · -- The digits in front are plain as well, and no zero, since they stand in front of one.
      have hhead : es.head? ≠ some '0' := fun hhead => by
        have hall := h.plain (by rw [List.head?_append_of_ne_nil _ hes, hhead])
        exact hes (by simpa using congrArg List.dropLast hall)
      have hrest := ih ⟨hes, fun c hc => h.digits c (List.mem_append_left _ hc),
        fun hzero => absurd hzero hhead⟩
      have hpos : valueOf es ≠ 0 := fun hzero => by
        rw [hzero] at hrest
        rw [← hrest, digitsOf_zero] at hhead
        exact hhead rfl
      have hdiv : (10 * valueOf es + digitValue d) / 10 = valueOf es := by omega
      have hmod : (10 * valueOf es + digitValue d) % 10 = digitValue d := by omega
      rw [if_neg (by omega), hdiv, hmod, hrest, hd]

/-! ### Integers -/

/-- An integer is written plainly. -/
theorem plainNumeral_intText (z : Int) : PlainNumeral (intText z) := by
  rw [intText]
  split
  · next hz =>
    refine .negative (plainDigits_digitsOf _) fun h => ?_
    have hvalue := valueOf_digitsOf z.natAbs
    rw [h] at hvalue
    have hzero : valueOf ['0'] = 0 := rfl
    omega
  · exact .natural (plainDigits_digitsOf _)

/-- What is written for an integer is that integer. -/
theorem numeral_intText (z : Int) : Numeral (intText z) z := by
  rw [intText]
  split
  · next hz =>
    have h := Numeral.minus (digitsOf_ne_nil z.natAbs) isDigit_of_mem_digitsOf
    have hvalue : -((valueOf (digitsOf z.natAbs) : Nat) : Int) = z := by
      rw [valueOf_digitsOf]
      omega
    rwa [hvalue] at h
  · next hz =>
    have h := Numeral.plain (digitsOf_ne_nil z.natAbs) isDigit_of_mem_digitsOf
    have hvalue : ((valueOf (digitsOf z.natAbs) : Nat) : Int) = z := by
      rw [valueOf_digitsOf]
      omega
    rwa [hvalue] at h

theorem intText_injective : Function.Injective intText := fun y z h => by
  have hy := integerOf?_eq_some_iff.2 (numeral_intText y)
  rw [h, integerOf?_eq_some_iff.2 (numeral_intText z)] at hy
  exact (Option.some.inj hy).symm

/-- A plain numeral is an integer, and comes back from it. -/
theorem PlainNumeral.exists_numeral {cs : List Char} (h : PlainNumeral cs) :
    ∃ z, Numeral cs z ∧ intText z = cs := by
  cases h with
  | natural h =>
    refine ⟨valueOf cs, .plain h.nonempty h.digits, ?_⟩
    rw [intText, if_neg (by omega), Int.natAbs_natCast, digitsOf_valueOf h]
  | @negative ds h hzero =>
    refine ⟨-(valueOf ds : Int), .minus h.nonempty h.digits, ?_⟩
    have hpos : valueOf ds ≠ 0 := fun hvalue => by
      have hds := digitsOf_valueOf h
      rw [hvalue, digitsOf_zero] at hds
      exact hzero hds.symm
    rw [intText, if_pos (by omega), Int.natAbs_neg, Int.natAbs_natCast, digitsOf_valueOf h]

/-- **The plain numerals are those that come back from their integer.** -/
theorem intText_eq_self_iff {cs : List Char} {z : Int} (h : Numeral cs z) :
    intText z = cs ↔ PlainNumeral cs := by
  constructor
  · intro hcs
    rw [← hcs]
    exact plainNumeral_intText z
  · intro hplain
    obtain ⟨y, hy, hcs⟩ := hplain.exists_numeral
    have hsame := (integerOf?_eq_some_iff.2 hy).symm.trans (integerOf?_eq_some_iff.2 h)
    rw [← Option.some.inj hsame, hcs]

/-! ### Decimal numbers -/

/-- Decimal digits, with a point before, among or behind them or without one. -/
inductive Coefficient : List Char → Prop
  /-- Without a point. -/
  | whole {ds : List Char} (hne : ds ≠ []) (hds : ∀ c ∈ ds, isDigit c = true) : Coefficient ds
  /-- With a point. -/
  | pointed {ds es : List Char} (hne : ds ≠ [] ∨ es ≠ []) (hds : ∀ c ∈ ds, isDigit c = true)
    (hes : ∀ c ∈ es, isDigit c = true) : Coefficient (ds ++ '.' :: es)

/-- A power of ten as it stands behind a coefficient, or nothing. -/
inductive PowerText : List Char → Prop
  /-- Nothing. -/
  | none : PowerText []
  /-- A letter for the ten, and the integer that is its power. -/
  | power {e : Char} {cs : List Char} {z : Int} (he : e = 'e' ∨ e = 'E') (h : Numeral cs z) :
    PowerText (e :: cs)

theorem powerOf?_isSome_iff {cs : List Char} : (powerOf? cs).isSome = true ↔ PowerText cs := by
  cases cs with
  | nil => exact iff_of_true rfl .none
  | cons e cs =>
    rw [powerOf?]
    by_cases he : e = 'e' ∨ e = 'E'
    · rw [if_pos (by simpa using he), Option.isSome_iff_exists]
      constructor
      · intro h
        obtain ⟨z, hz⟩ := h
        exact .power he (integerOf?_eq_some_iff.1 hz)
      · intro h
        cases h with
        | power _ h => exact ⟨_, integerOf?_eq_some_iff.2 h⟩
    · rw [if_neg (by simpa using he)]
      refine iff_of_false (by simp) fun h => ?_
      cases h with
      | power he' => exact he he'

theorem PowerText.digitsEnd {cs : List Char} (h : PowerText cs) : DigitsEnd cs := by
  cases h with
  | none => exact digitsEnd_nil
  | power he =>
    rcases he with rfl | rfl
    · exact digitsEnd_cons (by decide)
    · exact digitsEnd_cons (by decide)

/-- No point stands at the beginning of a power. -/
theorem PowerText.fractionDigits_eq {cs : List Char} (h : PowerText cs) :
    fractionDigits cs = ([], cs) := by
  cases h with
  | none => rfl
  | power he => rcases he with rfl | rfl <;> rfl

theorem fractionDigits_cases (cs : List Char) :
    (∃ es, cs = '.' :: es ∧ fractionDigits cs = (es.takeWhile isDigit, es.dropWhile isDigit)) ∨
      fractionDigits cs = ([], cs) := by
  unfold fractionDigits
  split
  · exact .inl ⟨_, rfl, rfl⟩
  · exact .inr rfl

/-- The digits in front of a point, those behind it, and the rest, of digits with a power. -/
theorem Coefficient.exists_parts {ds ps : List Char} (h : Coefficient ds) (hps : PowerText ps) :
    (((ds ++ ps).takeWhile isDigit).isEmpty &&
        (fractionDigits ((ds ++ ps).dropWhile isDigit)).1.isEmpty) = false ∧
      (fractionDigits ((ds ++ ps).dropWhile isDigit)).2 = ps := by
  cases h with
  | whole hne hds =>
    rw [takeWhile_isDigit_append hds hps.digitsEnd, dropWhile_isDigit_append hds hps.digitsEnd,
      hps.fractionDigits_eq, List.isEmpty_eq_false_iff.2 hne]
    exact ⟨rfl, rfl⟩
  | @pointed ds es hne hds hes =>
    have hend : DigitsEnd ('.' :: (es ++ ps)) := digitsEnd_cons (by decide)
    rw [List.append_assoc, List.cons_append, takeWhile_isDigit_append hds hend,
      dropWhile_isDigit_append hds hend, fractionDigits,
      takeWhile_isDigit_append hes hps.digitsEnd, dropWhile_isDigit_append hes hps.digitsEnd]
    refine ⟨?_, rfl⟩
    rw [Bool.and_eq_false_iff, List.isEmpty_eq_false_iff, List.isEmpty_eq_false_iff]
    exact hne

/-- **The texts that are read as decimal numbers**: a sign or none, digits with a point or
without one, and a power of ten or nothing. -/
theorem decimalOf?_isSome_iff {cs : List Char} : (decimalOf? cs).isSome = true ↔
    ∃ ds ps, (sign cs).2 = ds ++ ps ∧ Coefficient ds ∧ PowerText ps := by
  simp only [decimalOf?]
  generalize (sign cs).2 = body
  constructor
  · intro h
    split at h
    · cases h
    · next hempty =>
      rw [Option.isSome_map, powerOf?_isSome_iff] at h
      have hwhole : ∀ c ∈ body.takeWhile isDigit, isDigit c = true :=
        fun c hc => List.mem_takeWhile_imp hc
      have hbody : body.takeWhile isDigit ++ body.dropWhile isDigit = body :=
        List.takeWhile_append_dropWhile
      generalize body.takeWhile isDigit = whole at hwhole hbody hempty
      generalize body.dropWhile isDigit = rest at hbody hempty h
      subst hbody
      -- What follows the digits begins with a point, or it is the power.
      rcases fractionDigits_cases rest with ⟨es, rfl, hrest⟩ | hrest
      · rw [hrest] at hempty h
        rw [Bool.not_eq_true, Bool.and_eq_false_iff, List.isEmpty_eq_false_iff,
          List.isEmpty_eq_false_iff] at hempty
        refine ⟨whole ++ '.' :: es.takeWhile isDigit, es.dropWhile isDigit, ?_,
          .pointed hempty hwhole fun c hc => List.mem_takeWhile_imp hc, h⟩
        rw [List.append_assoc, List.cons_append, List.takeWhile_append_dropWhile]
      · rw [hrest] at hempty h
        refine ⟨whole, rest, rfl, .whole ?_ hwhole, h⟩
        simpa [List.isEmpty_iff] using hempty
  · rintro ⟨ds, ps, rfl, hds, hps⟩
    obtain ⟨hsome, hrest⟩ := hds.exists_parts hps
    rw [if_neg (by rw [hsome]; decide), Option.isSome_map, hrest, powerOf?_isSome_iff]
    exact hps

end DocSearch.Number
