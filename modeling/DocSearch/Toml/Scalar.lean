import DocSearch.Calendar.Text
import DocSearch.Number.Digits
import DocSearch.Settings.Value

/-!
# Scalars of settings files

The words that stand for values in a settings file: truth values, integers, doubles, and
dates and times.  Each is told by the whole word.

## Main definitions

* `Toml.Scalar` — a value without parts.
* `Toml.ungroup?` — digits with single underscores between them.
* `Toml.integerOf?`, `Toml.realOf?` — numbers.
* `Toml.MomentRules`, `Toml.momentOf?` — dates and times, which count as texts.
* `Toml.scalarOf?` — any of them.

## References

The values in files that `load` of `Config` reads, by the grammar of TOML.
-/

namespace DocSearch.Toml

open DocSearch.Number

/-- A value without parts. -/
inductive Scalar
  /-- A text in quotes. -/
  | text (s : String)
  /-- A truth value. -/
  | bool (b : Bool)
  /-- An integer. -/
  | integer (z : Int)
  /-- A double. -/
  | real (x : Double)
  /-- A date, a time, or both, in their written form. -/
  | moment (s : String)

/-- A value without parts as the value of a setting. -/
def Scalar.setting : Scalar → Setting
  | .text s => .text s
  | .bool b => .bool b
  | .integer z => .integer z
  | .real x => .real x
  | .moment s => .text s

/-! ### Numbers -/

/-- The digits of a group of digits, where single underscores may stand between two. -/
def ungroup? (ok : Char → Bool) : List Char → Option (List Char)
  | [] => none
  | [c] => if ok c then some [c] else none
  | c :: d :: cs =>
    if !ok c then none
    else if d = '_' then (ungroup? ok cs).map (c :: ·)
    else (ungroup? ok (d :: cs)).map (c :: ·)

/-- Decimal digits without a superfluous zero. -/
def wholeDigits? (cs : List Char) : Option (List Char) :=
  (ungroup? isDigit cs).filter fun ds => ds.length == 1 || ds.head? != some '0'

/-- The value of a digit in a base up to sixteen. -/
def digitIn? (base : Nat) (c : Char) : Option Nat :=
  let n :=
    if isDigit c then digitValue c
    else if 'a'.toNat ≤ c.toNat ∧ c.toNat ≤ 'f'.toNat then c.toNat - 'a'.toNat + 10
    else if 'A'.toNat ≤ c.toNat ∧ c.toNat ≤ 'F'.toNat then c.toNat - 'A'.toNat + 10
    else base
  if n < base then some n else none

/-- The number that grouped digits denote in a base. -/
def inBase? (base : Nat) (cs : List Char) : Option Nat :=
  (ungroup? (fun c => (digitIn? base c).isSome) cs).map fun ds =>
    ds.foldl (fun n c => n * base + (digitIn? base c).getD 0) 0

/-- An integer, in any of the bases. -/
def integerOf? (cs : List Char) : Option Int :=
  let z : Option Int :=
    match cs with
    | '0' :: 'x' :: ds => (inBase? 16 ds).map Int.ofNat
    | '0' :: 'o' :: ds => (inBase? 8 ds).map Int.ofNat
    | '0' :: 'b' :: ds => (inBase? 2 ds).map Int.ofNat
    | cs =>
      let (negative, ds) := sign cs
      (wholeDigits? ds).map fun ds => if negative then -(valueOf ds : Int) else valueOf ds
  z.filter fun z => decide (IsInt64 z)

/-- A power of ten behind a number: an optional sign and grouped digits. -/
def powerDigits? (cs : List Char) : Option (List Char) :=
  match cs with
  | '+' :: ds => (ungroup? isDigit ds).map ('+' :: ·)
  | '-' :: ds => (ungroup? isDigit ds).map ('-' :: ·)
  | ds => ungroup? isDigit ds

/-- What follows the whole part of a double, without underscores. -/
def realTail? (cs : List Char) : Option (List Char) :=
  let isGroup (c : Char) : Bool := isDigit c || c == '_'
  match cs with
  | '.' :: cs =>
    (ungroup? isDigit (cs.takeWhile isGroup)).bind fun ds =>
      match cs.dropWhile isGroup with
      | [] => some ('.' :: ds)
      | e :: ps =>
        if e = 'e' ∨ e = 'E' then (powerDigits? ps).map fun p => '.' :: (ds ++ 'e' :: p)
        else none
  | e :: ps => if e = 'e' ∨ e = 'E' then (powerDigits? ps).map ('e' :: ·) else none
  | [] => none

/-- A double; one out of range must be negative. -/
def realOf? (cs : List Char) : Option Double :=
  let (negative, body) := sign cs
  if body = "inf".toList then some (.infinite negative)
  else if body = "nan".toList then some .nan
  else
    let isGroup (c : Char) : Bool := isDigit c || c == '_'
    (wholeDigits? (body.takeWhile isGroup)).bind fun whole =>
      (realTail? (body.dropWhile isGroup)).bind fun tail =>
        (decimalOf? (whole ++ tail)).bind fun d =>
          match ({ d with negative } : Decimal).toDouble with
          | .infinite false => none
          | x => some x

/-! ### Dates and times -/

/-- Which dates and times are taken. -/
structure MomentRules where
  /-- The last hour of a day. -/
  lastHour : Nat
  /-- Whether a time zone may lie so many hours and minutes off. -/
  hasOffset : Nat → Nat → Bool
  /-- Whether a time zone may stand behind a day without a time. -/
  zonedDays : Bool

/-- The rules for a word of its own. -/
def MomentRules.bare : MomentRules := ⟨23, fun h m => decide (h ≤ 23 ∧ m ≤ 59), false⟩

/-- The rules for a text in quotes that is said to be a date or a time; its time zone may
lie up to a day off. -/
def MomentRules.quoted : MomentRules := ⟨24, fun h m => decide (60 * h + m ≤ 1440), true⟩

/-- Two digits up to a bound, and what follows. -/
def twoDigits? (low high : Nat) : List Char → Option (Nat × List Char)
  | a :: b :: cs =>
    let n := valueOf [a, b]
    if isDigit a && isDigit b && decide (low ≤ n ∧ n ≤ high) then some (n, cs) else none
  | _ => none

/-- A given character. -/
def sign? (c : Char) : List Char → Option (List Char)
  | d :: cs => if d = c then some cs else none
  | [] => none

/-- A day, and what follows. -/
def dateText? (cs : List Char) : Option (List Char × List Char) := do
  let year := cs.take 4
  if year.length = 4 ∧ year.all isDigit then
    let rest ← sign? '-' (cs.drop 4)
    let (month, rest) ← twoDigits? 1 12 rest
    let rest ← sign? '-' rest
    let (day, rest) ← twoDigits? 1 31 rest
    let d ← Date.of? (valueOf year) month day
    return (d.text, rest)
  else none

/-- A fraction without trailing zeros and beyond nine digits, and what follows. -/
def secondsFraction? : List Char → Option (List Char × List Char)
  | '.' :: cs =>
    let ds := cs.takeWhile isDigit
    if ds.isEmpty then none
    else
      let kept := ((ds.take 9).reverse.dropWhile (· == '0')).reverse
      some (if kept.isEmpty then [] else '.' :: kept, cs.dropWhile isDigit)
  | cs => some ([], cs)

/-- A time of day, and what follows. -/
def timeText? (rules : MomentRules) (cs : List Char) :
    Option (List Char × List Char) := do
  let (hour, rest) ← twoDigits? 0 rules.lastHour cs
  let rest ← sign? ':' rest
  let (minute, rest) ← twoDigits? 0 59 rest
  let rest ← sign? ':' rest
  let (second, rest) ← twoDigits? 0 60 rest
  let (fraction, rest) ← secondsFraction? rest
  return (padTo 2 hour ++ ':' :: (padTo 2 minute ++ ':' :: (padTo 2 second ++ fraction)), rest)

/-- A time zone or nothing, the whole text. -/
def zoneText? (rules : MomentRules) : List Char → Option (List Char)
  | [] => some []
  | [c] => if c = 'Z' ∨ c = 'z' then some ['Z'] else none
  | c :: cs =>
    if c = '+' ∨ c = '-' then do
      let (hour, rest) ← twoDigits? 0 99 cs
      let rest ← sign? ':' rest
      match ← twoDigits? 0 99 rest with
      | (minute, []) =>
        if rules.hasOffset hour minute then
          let off := 60 * hour + minute
          let c := if off = 0 then '+' else c
          return c :: (padTo 2 (off / 60) ++ ':' :: padTo 2 (off % 60))
        else none
      | _ => none
    else none

/-- A date, a time, or both, the latter also with a time zone. -/
def momentOf? (rules : MomentRules) (cs : List Char) : Option (List Char) :=
  match dateText? cs with
  | some (date, []) => some date
  | some (date, c :: rest) =>
    if c = 'T' ∨ c = 't' ∨ c = ' ' then do
      let (time, rest) ← timeText? rules rest
      return date ++ 'T' :: (time ++ (← zoneText? rules rest))
    else if rules.zonedDays then (zoneText? rules (c :: rest)).map (date ++ ·)
    else none
  | none =>
    match timeText? rules cs with
    | some (time, []) => some time
    | _ => none

/-! ### Words -/

/-- The value that a word stands for. -/
def scalarOf? (cs : List Char) : Option Scalar :=
  if cs = "true".toList then some (.bool true)
  else if cs = "false".toList then some (.bool false)
  else
    match integerOf? cs with
    | some z => some (.integer z)
    | none =>
      match realOf? cs with
      | some x => some (.real x)
      | none => (momentOf? .bare cs).map fun t => .moment (String.ofList t)

end DocSearch.Toml
