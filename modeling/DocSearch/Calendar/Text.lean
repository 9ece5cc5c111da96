import DocSearch.Calendar.Basic
import DocSearch.Number.Digits

/-!
# Writing dates and times

Moments are written as `2022-09-18T08:40:00.250`.  Years outside `0000` to `9999` carry a
sign; the fraction is left out, or has three, six or nine digits, as few as are exact.

## Main definitions

* `Date.text`, `Time.text`, `DateTime.text` — the written forms.
* `DateTime.utcText` — a moment in universal time, with a `Z` behind it.
* `Date.storedText`, `Time.storedText`, `DateTime.storedText` — the forms in which values of
  types are kept, written two digits at a time.

## References

`format_datetime`, and the forms in which moments are stored.
-/

namespace DocSearch

open Number

/-- A year: four digits at least, and a sign outside `0000` to `9999`. -/
def yearText (year : Int) : List Char :=
  if 0 ≤ year ∧ year ≤ 9999 then padTo 4 year.toNat
  else (if year < 0 then '-' else '+') :: padTo 4 year.natAbs

/-- A day. -/
def Date.text (d : Date) : List Char :=
  yearText d.year ++ '-' :: (padTo 2 d.month ++ '-' :: padTo 2 d.day)

/-- Nanoseconds of a second, as the shortest fraction of three, six or nine digits. -/
def fractionText (nanos : Nat) : List Char :=
  if nanos = 0 then []
  else if nanos % 1000000 = 0 then '.' :: padTo 3 (nanos / 1000000)
  else if nanos % 1000 = 0 then '.' :: padTo 6 (nanos / 1000)
  else '.' :: padTo 9 nanos

/-- A time of day. -/
def Time.text (t : Time) : List Char :=
  padTo 2 t.hour ++ ':' :: (padTo 2 t.minute ++ ':' :: (padTo 2 t.second ++
    fractionText t.fraction))

/-- A moment. -/
def DateTime.text (t : DateTime) : List Char := t.date.text ++ 'T' :: t.time.text

/-- A moment in universal time. -/
def DateTime.utcText (t : DateTime) : List Char := t.text ++ ['Z']

/-! ### Stored moments -/

/-- A number below a hundred, as two digits. -/
def twoDigits (n : Nat) : List Char := [digitChar (n / 10), digitChar (n % 10)]

/-- An integer behind its sign, filled up with zeros to a width that counts the sign. -/
def signedTo (width : Nat) (z : Int) : List Char :=
  (if z < 0 then '-' else '+') :: padTo (width - 1) z.natAbs

/-- A stored day. -/
def Date.storedText (d : Date) : List Char :=
  let year :=
    if 0 ≤ d.year ∧ d.year ≤ 9999 then
      twoDigits (d.year.toNat / 100) ++ twoDigits (d.year.toNat % 100)
    else signedTo 5 d.year
  year ++ '-' :: (twoDigits d.month ++ '-' :: twoDigits d.day)

/-- A stored time of day; a leap second is one second more and a second of nanoseconds less. -/
def Time.storedText (t : Time) : List Char :=
  let second := if t.isLeap then t.seconds % 60 + 1 else t.seconds % 60
  let nanos := if t.isLeap then t.nanos - 1000000000 else t.nanos
  twoDigits t.hour ++ ':' :: (twoDigits t.minute ++ ':' :: (twoDigits second ++
    fractionText nanos))

/-- A stored moment. -/
def DateTime.storedText (t : DateTime) : List Char :=
  t.date.storedText ++ 'T' :: t.time.storedText

end DocSearch
