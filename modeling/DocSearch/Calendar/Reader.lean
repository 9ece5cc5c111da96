import DocSearch.Calendar.Text
import DocSearch.Text.Blank

/-!
# Reading dates and times

Each reader takes what it needs from the front of a text and returns the rest, or says why
it cannot.  A text is read through a form, of which there are five:

* `DateTime.plain?` — `2022-09-18T08:40:00.25`, where blanks may stand before a number and
  months, days, hours, minutes and seconds may have one digit.
* `DateTime.strict?` — the same with all digits in place, and a time zone.
* `DateTime.midnightOf?` — a day alone.
* `DateTime.stored` — a plain moment, with blanks behind it, or the fault in it.
* `DateTime.zoned` — a moment with a time zone, spelled more freely, or the fault in it.

`DateTime.of?` tries the first three of them on a text without its outer blanks.

## References

`parse_datetime`, which tries three forms, and the forms in which the fields of entities are
stored.
-/

namespace DocSearch

open Number

/-- Why a text is not read as a moment. -/
inductive TimeFault
  /-- A character other than the expected one. -/
  | malformed
  /-- The text ends where more is expected. -/
  | tooShort
  /-- A number that no clock or calendar shows. -/
  | outOfRange
  /-- Something stands behind the moment. -/
  | trailing
  /-- The moment lies beyond the ends of the calendar in universal time. -/
  | beyond
  deriving DecidableEq, Repr

/-- The wording of a fault. -/
def TimeFault.message : TimeFault → String
  | .malformed => "input contains invalid characters"
  | .tooShort => "premature end of input"
  | .outOfRange => "input is out of range"
  | .trailing => "trailing input"
  | .beyond => "no possible date and time matching input"

/-- The value of what has been read, and the rest of the text. -/
abbrev Scan (α : Type) := Except TimeFault (α × List Char)

/-! ### Parts -/

/-- One of the given characters. -/
def scanOneOf (expected : List Char) : List Char → Scan Unit
  | [] => .error .tooShort
  | c :: cs => if c ∈ expected then .ok ((), cs) else .error .malformed

/-- One or more digits, `width` of them at most. -/
def scanDigits (width : Nat) (cs : List Char) : Scan Nat :=
  let ds := (cs.take width).takeWhile isDigit
  if ds.isEmpty then .error (if cs.isEmpty then .tooShort else .malformed)
  else if !decide (IsInt64 (valueOf ds)) then .error .outOfRange
  else .ok (valueOf ds, cs.drop ds.length)

/-- Exactly `width` digits. -/
def scanExactly (width : Nat) (cs : List Char) : Scan Nat :=
  let ds := cs.take width
  if ds.length < width then .error .tooShort
  else if ds.all isDigit then .ok (valueOf ds, cs.drop width)
  else .error .malformed

/-- A number between two bounds. -/
def within (low high : Nat) (r : Scan Nat) : Scan Nat :=
  match r with
  | .error e => .error e
  | .ok (n, rest) => if low ≤ n ∧ n ≤ high then .ok (n, rest) else .error .outOfRange

/-- Blanks, then a number of one or two digits between two bounds. -/
def scanField (low high : Nat) (cs : List Char) : Scan Nat :=
  within low high (scanDigits 2 (Text.trimLeft cs))

/-- Blanks, then a year: up to four digits, or a sign and any number of digits. -/
def scanYear (cs : List Char) : Scan Int :=
  let signed (sign : Int) (rest : List Char) : Scan Int :=
    match scanDigits rest.length rest with
    | .error e => .error e
    | .ok (n, rest) =>
      if IsInt32 (sign * n) then .ok (sign * n, rest)
      else .error .outOfRange
  match Text.trimLeft cs with
  | '-' :: rest => signed (-1) rest
  | '+' :: rest => signed 1 rest
  | rest =>
    match scanDigits 4 rest with
    | .error e => .error e
    | .ok (n, rest) => .ok (n, rest)

/-- An optional point with digits behind it, as nanoseconds; digits beyond the ninth are
passed over. -/
def scanFraction : List Char → Scan Nat
  | '.' :: cs =>
    match scanDigits 9 cs with
    | .error e => .error e
    | .ok (n, rest) =>
      .ok (n * tenTo (9 - (cs.length - rest.length)), rest.dropWhile isDigit)
  | cs => .ok (0, cs)

/-! ### Days and times -/

/-- The numbers of a day. -/
structure DayParts where
  /-- The year. -/
  year : Int
  /-- The month. -/
  month : Nat
  /-- The day of the month. -/
  day : Nat

/-- The numbers of a time; second `60` is a leap second. -/
structure ClockParts where
  /-- The hour. -/
  hour : Nat
  /-- The minute. -/
  minute : Nat
  /-- The second. -/
  second : Nat
  /-- The nanoseconds of the second. -/
  nanos : Nat

/-- The day with the given numbers. -/
def DayParts.date (p : DayParts) : Except TimeFault Date :=
  match Date.of? p.year p.month p.day with
  | some d => .ok d
  | none => .error .outOfRange

/-- The time with the given numbers. -/
def ClockParts.time (p : ClockParts) : Except TimeFault Time :=
  match
    if p.second = 60 then Time.of? p.hour p.minute 59 (1000000000 + p.nanos)
    else Time.of? p.hour p.minute p.second p.nanos with
  | some t => .ok t
  | none => .error .outOfRange

/-- The moment with the given numbers. -/
def momentOf (d : DayParts) (t : ClockParts) : Except TimeFault DateTime :=
  match d.date with
  | .error e => .error e
  | .ok date =>
    match t.time with
    | .error e => .error e
    | .ok time => .ok ⟨date, time⟩

/-- How the parts of a moment are spelled. -/
structure Spelling where
  /-- The year. -/
  year : List Char → Scan Int
  /-- A month, day, hour, minute or second between two bounds. -/
  field : Nat → Nat → List Char → Scan Nat
  /-- What may be passed over before a sign between two numbers. -/
  skip : List Char → List Char
  /-- What may stand between the day and the time. -/
  between : List Char

/-- Numbers with blanks before them, and a capital `T`. -/
def Spelling.plain : Spelling := ⟨scanYear, scanField, id, ['T']⟩

/-- Numbers of fixed width. -/
def Spelling.strict : Spelling where
  year cs :=
    match scanExactly 4 cs with
    | .error e => .error e
    | .ok (n, rest) => .ok (n, rest)
  field low high cs := within low high (scanExactly 2 cs)
  skip := id
  between := ['T', 't', ' ']

/-- Numbers and signs with blanks before them. -/
def Spelling.loose : Spelling := ⟨scanYear, scanField, Text.trimLeft, ['T', 't', ' ']⟩

/-- The numbers of a day. -/
def scanDay (s : Spelling) (cs : List Char) : Except TimeFault (DayParts × List Char) := do
  let (year, cs) ← s.year cs
  let (_, cs) ← scanOneOf ['-'] (s.skip cs)
  let (month, cs) ← s.field 1 12 cs
  let (_, cs) ← scanOneOf ['-'] (s.skip cs)
  let (day, cs) ← s.field 1 31 cs
  return (⟨year, month, day⟩, cs)

/-- The numbers of a time of day. -/
def scanClock (s : Spelling) (cs : List Char) : Except TimeFault (ClockParts × List Char) := do
  let (hour, cs) ← s.field 0 23 cs
  let (_, cs) ← scanOneOf [':'] (s.skip cs)
  let (minute, cs) ← s.field 0 59 cs
  let (_, cs) ← scanOneOf [':'] (s.skip cs)
  let (second, cs) ← s.field 0 60 cs
  let (nanos, cs) ← scanFraction cs
  return (⟨hour, minute, second, nanos⟩, cs)

/-- The numbers of a day and a time of day. -/
def scanMoment (s : Spelling) (cs : List Char) :
    Except TimeFault ((DayParts × ClockParts) × List Char) := do
  let (day, cs) ← scanDay s cs
  let (_, cs) ← scanOneOf s.between cs
  let (clock, cs) ← scanClock s cs
  return ((day, clock), cs)

/-! ### Time zones -/

/-- Two digits of an offset; `isTens` says which tens are in range. -/
def scanOffsetPart (isTens : Char → Bool) : List Char → Scan Nat
  | a :: b :: cs =>
    if isDigit a && isDigit b then
      if isTens a then .ok (valueOf [a, b], cs) else .error .outOfRange
    else .error .malformed
  | [c] => .error (if c.toNat < 0x80 then .tooShort else .malformed)
  | [] => .error .tooShort

/-- The offset in seconds behind its sign. -/
def scanOffsetBody (separator : List Char → Scan Unit) (cs : List Char) :
    Except TimeFault (Nat × List Char) := do
  let (hours, cs) ← scanOffsetPart (fun _ => true) cs
  let (_, cs) ← separator cs
  let (minutes, cs) ← scanOffsetPart (fun c => Nat.ble c.toNat '5'.toNat) cs
  return (hours * 3600 + minutes * 60, cs)

/-- A time zone: a `Z`, or a sign with hours and minutes; in seconds ahead of universal
time. -/
def scanOffset (separator : List Char → Scan Unit) : List Char → Scan Int
  | [] => .error .tooShort
  | c :: cs =>
    if c = 'Z' ∨ c = 'z' then .ok (0, cs)
    else if c = '+' then (scanOffsetBody separator cs).map fun r => (r.1, r.2)
    else if c = '-' ∨ c = '\u2212' then
      (scanOffsetBody separator cs).map fun r => (-(r.1 : Int), r.2)
    else .error .malformed

/-- A time zone that may also be `UTC`. -/
def scanZone (cs : List Char) : Scan Int :=
  match cs with
  | u :: t :: c :: rest =>
    if (u = 'U' ∨ u = 'u') ∧ (t = 'T' ∨ t = 't') ∧ (c = 'C' ∨ c = 'c') then .ok (0, rest)
    else scanOffset loose cs
  | _ => scanOffset loose cs
where
  /-- Colons and blanks, or nothing. -/
  loose (cs : List Char) : Scan Unit :=
    .ok ((), cs.dropWhile fun c => c = ':' || Text.isBlank c)

/-! ### Whole texts -/

namespace DateTime

/-- A plain moment, the whole text. -/
def plain? (cs : List Char) : Option DateTime :=
  match scanMoment .plain cs with
  | .ok ((day, clock), []) => (momentOf day clock).toOption
  | _ => none

/-- A moment with digits and time zone in full, the whole text, in universal time. -/
def strict? (cs : List Char) : Option DateTime :=
  match scanMoment .strict cs with
  | .error _ => none
  | .ok ((day, clock), rest) =>
    match scanOffset (scanOneOf [':']) rest with
    | .ok (offset, []) =>
      if offset.natAbs ≤ 23 * 3600 + 59 * 60 then
        (momentOf day clock).toOption.bind fun t => t.atOffset? offset
      else none
    | _ => none

/-- The beginning of a day, the whole text. -/
def midnightOf? (cs : List Char) : Option DateTime :=
  match scanDay .plain cs with
  | .ok (day, []) => day.date.toOption.map fun date => ⟨date, .midnight⟩
  | _ => none

/-- The moment that a text means, in any of the three forms. -/
def of? (cs : List Char) : Option DateTime :=
  let cs := Text.trim cs
  (plain? cs).or ((strict? cs).or (midnightOf? cs))

/-- A plain moment with blanks allowed behind it. -/
def stored (cs : List Char) : Except TimeFault DateTime := do
  let ((day, clock), rest) ← scanMoment .plain cs
  if Text.isBlankText rest then momentOf day clock else .error .trailing

/-- A moment with a time zone, freely spelled, in universal time. -/
def zoned (cs : List Char) : Except TimeFault DateTime := do
  let ((day, clock), rest) ← scanMoment .loose cs
  let (offset, rest) ← scanZone (Text.trimLeft rest)
  if !Text.isBlankText rest then .error .trailing
  else
    let t ← momentOf day clock
    if 86400 ≤ offset.natAbs then .error .outOfRange
    else
      match t.atOffset? offset with
      | some t => .ok t
      | none => .error .beyond

end DateTime

end DocSearch
