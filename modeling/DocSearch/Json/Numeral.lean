import DocSearch.Json.Basic

/-!
# Numerals of documents

A numeral without a fraction and without a power of ten is read as an integer, if it fits one.
Any other numeral is read as a double, and that in two steps: its digits, as many of them as fit
64 bits, are rounded to a double, and this is multiplied with a power of ten or divided by one,
which rounds once more.  So what a long numeral is read as need not be the double nearest to it.

That a power of ten leaves the integers of 32 bits, for which a numeral must have two billion
digits, is left out.

## Main definitions

* `Json.isNumeral` — how numerals are spelled.
* `Json.absorb` — digits added to a number for as long as it fits 64 bits.
* `Json.timesTen`, `Json.scaledRank` — a double times a power of ten.
* `Json.double?` — the double of a numeral.
* `Json.numeral?` — the number of a numeral.

## References

Numbers as the JSON library reads them when it is not asked to read every double back.
-/

namespace DocSearch.Json

open DocSearch.Number

/-! ### Spelling -/

/-- The characters that numerals are made of. -/
def isNumeralChar (c : Char) : Bool :=
  isDigit c || c == '-' || c == '+' || c == '.' || c == 'e' || c == 'E'

/-- Whether the digits of a whole part are spelled without a superfluous zero. -/
def isWholePart : List Char → Bool
  | [] => false
  | ['0'] => true
  | c :: _ => c != '0'

/-- Whether the text behind the whole part of a numeral is spelled correctly. -/
def isNumeralTail (cs : List Char) : Bool :=
  match cs with
  | '.' :: _ =>
    let (ds, rest) := fractionDigits cs
    !ds.isEmpty && (powerOf? rest).isSome
  | rest => (powerOf? rest).isSome

/-- Whether a text is a numeral: an optional minus, a whole part, and optionally a
fraction and a power of ten. -/
def isNumeral (cs : List Char) : Bool :=
  let cs :=
    match cs with
    | '-' :: rest => rest
    | rest => rest
  isWholePart (cs.takeWhile isDigit) && isNumeralTail (cs.dropWhile isDigit)

/-! ### Doubles -/

/-- The number that is left of `m` when digits are put behind it for as long as it fits 64 bits,
and how many of them are. -/
def absorb (m : Nat) : List Char → Nat × Nat
  | [] => (m, 0)
  | d :: ds =>
    if 10 * m + digitValue d < 18446744073709551616 then
      let r := absorb (10 * m + digitValue d) ds
      (r.1, r.2 + 1)
    else (m, 0)

/-- The rank of the double nearest to a power of ten. -/
def powerRank (k : Nat) : Nat := nearestRank (tenTo k) 1

/-- The rank of a double of some rank, multiplied with a power of ten or divided by one; the
power is a double, too, and the result is rounded. -/
def timesTen (rank : Nat) (power : Int) : Nat :=
  if 0 ≤ power then
    nearestRank (unitsOf rank * unitsOf (powerRank power.toNat)) (1 <<< 2148)
  else nearestRank (unitsOf rank) (unitsOf (powerRank (-power).toNat))

/-- The rank of a double of some rank times any power of ten, and that of infinity where it is
out of range.  Below the powers that doubles have there is more than one division. -/
def scaledRank (rank : Nat) (power : Int) : Nat :=
  if -308 ≤ power ∧ power ≤ 308 then timesTen rank power
  else if rank = 0 then 0
  else if 0 < power then infiniteRank
  else scaledRank (timesTen rank (-308)) (power + 308)
termination_by (-power).toNat

/-- The double of a numeral, unless it is out of range. -/
def double? (cs : List Char) : Option Binary64 :=
  let (negative, cs) := sign cs
  let whole := cs.takeWhile isDigit
  let (fraction, rest) := fractionDigits (cs.dropWhile isDigit)
  let first := absorb 0 whole
  let all := absorb first.1 fraction
  (powerOf? rest).bind fun power =>
    let rank :=
      scaledRank (nearestRank all.1 1) (power + (whole.length - first.2 : Nat) - all.2)
    if h : rank < infiniteRank then some ⟨negative, rank, h⟩ else none

/-! ### Numbers -/

/-- The number of a numeral.  One without fraction and power that fits an integer is an
integer, except `-0`; every other one is a double, if it has one. -/
def numeral? (cs : List Char) : Option Json.Number :=
  if !isNumeral cs then none
  else
    let double := (double? cs).map Number.binary
    match integerOf? cs with
    | some z =>
      if z = 0 ∧ cs.head? = some '-' then double
      else
        match Number.ofInt? z with
        | some n => some n
        | none => double
    | none => double

end DocSearch.Json
