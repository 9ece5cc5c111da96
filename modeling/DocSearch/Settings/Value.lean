import DocSearch.Number.Decimal
import DocSearch.Text.LowerCase

/-!
# Values of settings

What files and variables give for a setting, before it is known what the setting asks for.
A value of one sort is taken for another where that makes sense: a text of digits for a
number, a number for a text, a word such as `yes` for a truth value.

## Main definitions

* `Setting` — the values.
* `Setting.toNat64?`, `Setting.toNat32?` — a value taken as a natural number of so many bits.
* `Setting.toBool?`, `Setting.toText?` — a value taken as a truth value, as a text.
* `Setting.toTexts?` — a list of texts.

## References

The values of the library for settings, and what it takes them for.
-/

namespace DocSearch

open Number

/-- The value of a setting. -/
inductive Setting
  /-- No value. -/
  | nil
  /-- A truth value. -/
  | bool (b : Bool)
  /-- An integer. -/
  | integer (z : Int)
  /-- A double. -/
  | real (x : Double)
  /-- A text. -/
  | text (s : String)
  /-- A list. -/
  | list (items : List Setting)
  /-- Values under names. -/
  | table (entries : List (String × Setting))
  deriving Inhabited, Repr

/-- The largest natural number of 64 bits. -/
def maxNat64 : Nat := 18446744073709551615

/-- The natural number written by a text: an optional plus, then digits only. -/
def naturalOf? (cs : List Char) : Option Nat :=
  let ds := if cs.head? = some '+' then cs.drop 1 else cs
  if ds.isEmpty || !ds.all isDigit then none else some (valueOf ds)

/-- A magnitude in units of `2 ^ -1074`, rounded to an integer, a half upwards. -/
def roundUnits (units : Nat) : Nat := (units >>> 1073 + 1) / 2

/-- A double rounded to a natural number of 64 bits, the nearest there is. -/
def Number.Double.toNat64 : Double → Nat
  | .finite x => if x.negative then 0 else min (roundUnits (unitsOf x.rank)) maxNat64
  | .infinite negative => if negative then 0 else maxNat64
  | .nan => 0

/-- A double that is not zero; the value that is not a number is none either. -/
def Number.Double.isNonzero : Double → Bool
  | .finite x => x.rank != 0
  | _ => true

namespace Setting

/-- The words for yes. -/
def yesWords : List String := ["true", "on", "yes"]

/-- The words for no. -/
def noWords : List String := ["false", "off", "no"]

/-- A text in lower case. -/
def lowered (s : String) : String := String.ofList (Text.lower s.toList)

/-- The value as a natural number of 64 bits. -/
def toNat64? : Setting → Option Nat
  | .bool b => some (if b then 1 else 0)
  | .integer z => if 0 ≤ z then some z.toNat else none
  | .real x => some x.toNat64
  | .text s =>
    if lowered s ∈ yesWords then some 1
    else if lowered s ∈ noWords then some 0
    else (naturalOf? s.toList).filter fun n => decide (IsNat64 n)
  | _ => none

/-- The value as a natural number of 32 bits. -/
def toNat32? (v : Setting) : Option Nat := v.toNat64?.filter fun n : Nat => decide (IsNat32 n)

/-- The value as a truth value. -/
def toBool? : Setting → Option Bool
  | .bool b => some b
  | .integer z => some (z != 0)
  | .real x => some x.isNonzero
  | .text s =>
    if lowered s ∈ "1" :: yesWords then some true
    else if lowered s ∈ "0" :: noWords then some false
    else none
  | _ => none

/-- The value as a text. -/
def toText? : Setting → Option String
  | .bool b => some (if b then "true" else "false")
  | .integer z => some (String.ofList (intText z))
  | .real x => some (String.ofList (x.text .plain))
  | .text s => some s
  | _ => none

/-- The value as a list of texts. -/
def toTexts? : Setting → Option (List String)
  | .list items => items.mapM toText?
  | _ => none

/-- The value as an optional text. -/
def toOptionalText? : Setting → Option (Option String)
  | .nil => some none
  | v => v.toText?.map some

end Setting

end DocSearch
