import DocSearch.Number.Shortest

/-!
# Decimal numerals and all doubles

Reading numbers from text.  A numeral is read into its exact decimal value first; only
then is that value rounded to a double.  Beside the finite doubles there are the two
infinities and the value that is not a number.

## Main definitions

* `Decimal`, `Decimal.toBinary64?` — an exact decimal number and the double nearest to it.
* `integerOf?` — an optional sign and at least one digit, the whole text.
* `decimalOf?` — an optional sign, digits with an optional point on either side of them,
  and an optional power of ten, the whole text.
* `Double`, `Double.text` — any double, and its text in a layout.

## References

The numbers that `as_f64` and `as_integer` find in texts.
-/

namespace DocSearch.Number

/-- The number `± coefficient * 10 ^ power`. -/
structure Decimal where
  /-- Whether the sign is minus. -/
  negative : Bool
  /-- The digits, read as one natural number. -/
  coefficient : Nat
  /-- The power of ten that scales the coefficient. -/
  power : Int
  deriving DecidableEq, Repr

/-- The double nearest to a decimal number, unless it is out of range.  A number whose
order of magnitude lies far outside the range is decided by that order alone. -/
def Decimal.toBinary64? (d : Decimal) : Option Binary64 :=
  let magnitude := (digitsOf d.coefficient).length + d.power
  if d.coefficient = 0 ∨ magnitude < -330 then some ⟨d.negative, 0, infiniteRank_pos⟩
  else if 310 < magnitude then none
  else if 0 ≤ d.power then
    Binary64.ofRatio? d.negative (d.coefficient * tenTo d.power.toNat) 1
  else Binary64.ofRatio? d.negative d.coefficient (tenTo (-d.power).toNat)

/-- A leading sign, if there is one, and what follows; `true` stands for minus. -/
def sign : List Char → Bool × List Char
  | '-' :: cs => (true, cs)
  | '+' :: cs => (false, cs)
  | cs => (false, cs)

/-- The integer written by a whole text: an optional sign, then digits only. -/
def integerOf? (cs : List Char) : Option Int :=
  let (negative, ds) := sign cs
  if ds.isEmpty || !ds.all isDigit then none
  else some (if negative then -(valueOf ds : Int) else valueOf ds)

/-- The power of ten written after a coefficient; nothing stands for zero. -/
def powerOf? : List Char → Option Int
  | [] => some 0
  | c :: cs => if c = 'e' || c = 'E' then integerOf? cs else none

/-- The digits after a point, and what follows them. -/
def fractionDigits : List Char → List Char × List Char
  | '.' :: cs => (cs.takeWhile isDigit, cs.dropWhile isDigit)
  | cs => ([], cs)

/-- The decimal number written by a whole text. -/
def decimalOf? (cs : List Char) : Option Decimal :=
  let (negative, cs) := sign cs
  let whole := cs.takeWhile isDigit
  let (fraction, rest) := fractionDigits (cs.dropWhile isDigit)
  if whole.isEmpty && fraction.isEmpty then none
  else
    (powerOf? rest).map fun power =>
      ⟨negative, valueOf (whole ++ fraction), power - fraction.length⟩

@[simp] theorem sign_nil : sign [] = (false, []) := rfl

@[simp] theorem sign_minus (cs : List Char) : sign ('-' :: cs) = (true, cs) := rfl

@[simp] theorem sign_plus (cs : List Char) : sign ('+' :: cs) = (false, cs) := rfl

@[simp] theorem powerOf?_nil : powerOf? [] = some 0 := rfl

@[simp] theorem integerOf?_nil : integerOf? [] = none := rfl

/-! ### All doubles -/

/-- A double. -/
inductive Double
  /-- A finite one. -/
  | finite (x : Binary64)
  /-- An infinity, with its sign. -/
  | infinite (negative : Bool)
  /-- The value that is not a number. -/
  | nan
  deriving DecidableEq, Repr

/-- The double, when it is finite. -/
def Double.finite? : Double → Option Binary64
  | .finite x => some x
  | _ => none

/-- The text of a double. -/
def Double.text (layout : Layout) : Double → List Char
  | .finite x => x.text layout
  | .infinite negative => if negative then ['-', 'i', 'n', 'f'] else ['i', 'n', 'f']
  | .nan => ['N', 'a', 'N']

/-- The double nearest to a decimal number; an infinity when it is out of range. -/
def Decimal.toDouble (d : Decimal) : Double :=
  match d.toBinary64? with
  | some x => .finite x
  | none => .infinite d.negative

@[simp] theorem Double.finite?_finite (x : Binary64) : (Double.finite x).finite? = some x := rfl

end DocSearch.Number
