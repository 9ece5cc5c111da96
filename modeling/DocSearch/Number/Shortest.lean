import DocSearch.Number.Binary64
import DocSearch.Number.Digits

/-!
# Shortest decimal text of a double

A double is written with the fewest digits that read back as the same double, and among
those with the digits nearest to it.  Of two equally near ones the even last digit is
taken, or the larger one, as the layout says.  The reals that read back as a given double
form an interval around it, whose ends belong to it exactly when the rank is even.

Everything is exact: magnitudes are counted in units of `10 ^ -400 * 2 ^ -1075`, so the
double, the ends of its interval and every decimal grid of interest are natural numbers.

## Main definitions

* `Interval.ofRank` — the magnitudes that read back as the double of a rank.
* `shortestOf` — the shortest coefficient and its power of ten.
* `Layout`, `Binary64.text` — how the digits are laid out, and the resulting text.
* `Layout.exact`, `Layout.plain` — the layouts in use.

## References

The doubles that are written in documents, in settings and in messages.
-/

namespace DocSearch.Number

/-- The scale in which doubles and decimals are both natural numbers. -/
def decimalScale : Nat := tenTo 400

/-- A magnitude with the ends of the interval that rounds to it. -/
structure Interval where
  /-- The lower end. -/
  low : Nat
  /-- The magnitude itself. -/
  mid : Nat
  /-- The upper end. -/
  high : Nat
  /-- Whether the ends round to the magnitude too. -/
  closed : Bool

/-- The magnitudes that round to the double of a rank above zero. -/
def Interval.ofRank (rank : Nat) : Interval where
  low := (unitsOf (rank - 1) + unitsOf rank) * decimalScale
  mid := 2 * unitsOf rank * decimalScale
  high := (unitsOf rank + unitsOf (rank + 1)) * decimalScale
  closed := rank % 2 == 0

/-- Whether a magnitude rounds to the interval's own. -/
def Interval.has (i : Interval) (x : Nat) : Bool :=
  if i.closed then i.low ≤ x && x ≤ i.high else i.low < x && x < i.high

/-- The nearest multiple of `step` to the middle that lies in the interval, counted in
steps; of two equally near ones the larger if ties go up, and else the even. -/
def Interval.onGrid (i : Interval) (tiesUp : Bool) (step : Nat) : Option Nat :=
  let below := i.mid / step
  let above := below + 1
  let down := i.mid - below * step
  let up := above * step - i.mid
  match i.has (below * step), i.has (above * step) with
  | false, false => none
  | true, false => some below
  | false, true => some above
  | true, true =>
    some (if down < up then below else if up < down then above
      else if !tiesUp && below % 2 == 0 then below else above)

/-- The power of ten of the first digit of the interval's middle. -/
def Interval.leading (i : Interval) : Int :=
  (digitsOf (i.mid >>> 1075)).length - 401

/-- The shortest decimal in the interval with at most `count` more digits than `tried`
many, as a coefficient and a power of ten. -/
def Interval.shortest (i : Interval) (tiesUp : Bool) (tried : Nat) : Nat → Nat × Int
  | 0 => (0, 0)
  | count + 1 =>
    let power := i.leading - tried
    match i.onGrid tiesUp (tenTo (400 + power).toNat <<< 1075) with
    | some coefficient => strip coefficient power
    | none => i.shortest tiesUp (tried + 1) count

/-- The shortest coefficient, and its power of ten, that reads back as the double of a
rank above zero.  Seventeen digits always suffice. -/
def shortestOf (tiesUp : Bool) (rank : Nat) : Nat × Int :=
  (Interval.ofRank rank).shortest tiesUp 0 17

/-- How the digits of a number are chosen and laid out. -/
structure Layout where
  /-- Whether of two equally near shortest numbers the larger is taken, and not the even. -/
  tiesUp : Bool
  /-- Whether a number whose first digit stands for this power of ten is written out
  in full, without a power of ten behind it. -/
  inFull : Int → Bool
  /-- Whether an integral number keeps a point and a zero. -/
  keepsPoint : Bool

/-- Numbers in documents and messages: ties go to the even digit; in full from `0.00001` to
below `10 ^ 16`, always with a fraction, and otherwise with a signed power of ten. -/
def Layout.exact : Layout := ⟨false, fun e => decide (-5 ≤ e ∧ e ≤ 15), true⟩

/-- Numbers turned into settings: ties go up; always in full, with a fraction only where
there is one. -/
def Layout.plain : Layout := ⟨true, fun _ => true, false⟩

/-- The digits `ds`, the first of which stands for `10 ^ e`, written in full. -/
def fullText (keepsPoint : Bool) (ds : List Char) (e : Int) : List Char :=
  if e < 0 then '0' :: '.' :: (List.replicate (-e - 1).toNat '0' ++ ds)
  else
    let whole := e.toNat + 1
    if ds.length ≤ whole then
      ds ++ List.replicate (whole - ds.length) '0' ++ (if keepsPoint then ['.', '0'] else [])
    else ds.take whole ++ '.' :: ds.drop whole

/-- The digits `ds`, the first of which stands for `10 ^ e`, with the power of ten behind. -/
def scientificText (ds : List Char) (e : Int) : List Char :=
  let mantissa :=
    match ds with
    | d :: r :: rs => d :: '.' :: r :: rs
    | ds => ds
  mantissa ++ 'e' :: (if e < 0 then '-' else '+') :: digitsOf e.natAbs

/-- The text of a magnitude in a layout. -/
def magnitudeText (layout : Layout) (rank : Nat) : List Char :=
  if rank = 0 then fullText layout.keepsPoint ['0'] 0
  else
    let (coefficient, power) := shortestOf layout.tiesUp rank
    let ds := digitsOf coefficient
    let e := power + ds.length - 1
    if layout.inFull e then fullText layout.keepsPoint ds e else scientificText ds e

/-- The text of a double in a layout. -/
def Binary64.text (layout : Layout) (x : Binary64) : List Char :=
  if x.negative then '-' :: magnitudeText layout x.rank else magnitudeText layout x.rank

end DocSearch.Number
