/-!
# Dates and times

The proleptic Gregorian calendar with times of day to the nanosecond.  A leap second is
written as more than a second of nanoseconds on top of a second `59`.

## Main definitions

* `Date`, `Time`, `DateTime` — moments without a time zone, valid by construction.
* `DateTime.key`, `DateTime.order` — the chronological order.
* `DateTime.atOffset?` — the same moment in universal time, from a local time and the
  offset it was given with.
* `DateTime.unixSeconds` — the seconds since the beginning of 1970.

## References

The moments that `FilterValue` and `BaseEntity` hold, of the calendar library that they take
them from.
-/

namespace DocSearch

/-! ### Dates -/

/-- Whether a year has a 29th of February. -/
def isLeapYear (year : Int) : Bool := year % 4 == 0 && (year % 100 != 0 || year % 400 == 0)

/-- The number of days of a month. -/
def daysOfMonth (year : Int) (month : Nat) : Nat :=
  if month = 2 then (if isLeapYear year then 29 else 28)
  else if month = 4 ∨ month = 6 ∨ month = 9 ∨ month = 11 then 30
  else 31

/-- The first year of the calendar. -/
def firstYear : Int := -262143

/-- The last year of the calendar. -/
def lastYear : Int := 262142

/-- The days of the calendar. -/
abbrev IsDate (year : Int) (month day : Nat) : Prop :=
  (firstYear ≤ year ∧ year ≤ lastYear) ∧ (1 ≤ month ∧ month ≤ 12) ∧
    1 ≤ day ∧ day ≤ daysOfMonth year month

/-- A day of the calendar. -/
structure Date where
  /-- The year; the year before 1 is 0. -/
  year : Int
  /-- The month, from 1. -/
  month : Nat
  /-- The day of the month, from 1. -/
  day : Nat
  /-- The day is in the calendar. -/
  valid : IsDate year month day
  deriving DecidableEq, Repr

theorem daysOfMonth_le (year : Int) (month : Nat) : daysOfMonth year month ≤ 31 := by
  unfold daysOfMonth
  split <;> split <;> omega

namespace Date

/-- The day with the given numbers, if the calendar has it. -/
def of? (year : Int) (month day : Nat) : Option Date :=
  if h : IsDate year month day then some ⟨year, month, day, h⟩ else none

/-- The day after. -/
def next? (d : Date) : Option Date :=
  if d.day < daysOfMonth d.year d.month then of? d.year d.month (d.day + 1)
  else if d.month < 12 then of? d.year (d.month + 1) 1
  else of? (d.year + 1) 1 1

/-- The day before. -/
def previous? (d : Date) : Option Date :=
  if 1 < d.day then of? d.year d.month (d.day - 1)
  else if 1 < d.month then of? d.year (d.month - 1) (daysOfMonth d.year (d.month - 1))
  else of? (d.year - 1) 12 31

/-- A number that grows from day to day. -/
def key (d : Date) : Int := (d.year * 12 + (d.month - 1 : Nat)) * 31 + (d.day - 1 : Nat)

/-- The days since the first of January 1970.  Years are counted from March here, so that
the leap day is the last of its year. -/
def unixDays (d : Date) : Int :=
  let year := if d.month ≤ 2 then d.year - 1 else d.year
  let month := (d.month + 9) % 12
  365 * year + year / 4 - year / 100 + year / 400 + ((153 * month + 2) / 5 : Nat) +
    (d.day - 1 : Nat) - 719468

theorem day_le (d : Date) : d.day ≤ 31 :=
  Nat.le_trans d.valid.2.2.2 (daysOfMonth_le d.year d.month)

@[simp] theorem of?_self (d : Date) : of? d.year d.month d.day = some d := by
  unfold of?
  rw [dif_pos d.valid]

/-- Different days have different keys. -/
theorem key_inj {a b : Date} (h : a.key = b.key) : a = b := by
  have hda := a.day_le
  have hdb := b.day_le
  obtain ⟨ya, ma, da, ha⟩ := a
  obtain ⟨yb, mb, db, hb⟩ := b
  dsimp only at hda hdb
  obtain ⟨_, _, _, _⟩ := ha
  obtain ⟨_, _, _, _⟩ := hb
  simp only [key] at h
  have : ya = yb ∧ ma = mb ∧ da = db := by omega
  obtain ⟨rfl, rfl, rfl⟩ := this
  rfl

end Date

/-! ### Times of day -/

/-- The times of a day.  A leap second is the last one of a minute; times that are a second or
more on top of another second, which no text stands for, are left out. -/
abbrev IsTime (seconds nanos : Nat) : Prop :=
  seconds < 86400 ∧ nanos < 2000000000 ∧ (1000000000 ≤ nanos → seconds % 60 = 59)

/-- A time of day. -/
structure Time where
  /-- The whole seconds since midnight; a leap second is not counted. -/
  seconds : Nat
  /-- The nanoseconds on top; a whole second or more inside a leap second. -/
  nanos : Nat
  /-- The time exists. -/
  valid : IsTime seconds nanos
  deriving DecidableEq, Repr

namespace Time

/-- The beginning of a day. -/
def midnight : Time := ⟨0, 0, by decide⟩

/-- The time with the given numbers, if there is one. -/
def of? (hour minute second nanos : Nat) : Option Time :=
  if _ : hour < 24 ∧ minute < 60 ∧ second < 60 then
    if h : IsTime (hour * 3600 + minute * 60 + second) nanos then some ⟨_, nanos, h⟩ else none
  else none

/-- The hour of the day. -/
def hour (t : Time) : Nat := t.seconds / 3600

/-- The minute of the hour. -/
def minute (t : Time) : Nat := t.seconds / 60 % 60

/-- Whether the time lies in a leap second. -/
def isLeap (t : Time) : Bool := 1000000000 ≤ t.nanos

/-- The second of the minute, `60` in a leap second. -/
def second (t : Time) : Nat := t.seconds % 60 + (if t.isLeap then 1 else 0)

/-- The nanoseconds of the second. -/
def fraction (t : Time) : Nat := t.nanos % 1000000000

theorem hour_lt (t : Time) : t.hour < 24 := by
  have := t.valid.1
  unfold hour
  omega

theorem minute_lt (t : Time) : t.minute < 60 := Nat.mod_lt _ (by decide)

theorem second_le (t : Time) : t.second ≤ 60 := by
  unfold second
  split <;> omega

/-- A number that grows in the course of a day. -/
def key (t : Time) : Int := t.seconds * 2000000000 + t.nanos

theorem key_inj {a b : Time} (h : a.key = b.key) : a = b := by
  obtain ⟨sa, na, _, ha, _⟩ := a
  obtain ⟨sb, nb, _, hb, _⟩ := b
  simp only [key] at h
  have : sa = sb ∧ na = nb := by omega
  obtain ⟨rfl, rfl⟩ := this
  rfl

end Time

/-! ### Both together -/

/-- A moment without a time zone. -/
structure DateTime where
  /-- The day. -/
  date : Date
  /-- The time of the day. -/
  time : Time
  deriving DecidableEq, Repr

namespace DateTime

/-- A number that grows with time. -/
def key (t : DateTime) : Int := t.date.key * (86400 * 2000000000) + t.time.key

/-- The chronological order. -/
def order (a b : DateTime) : Ordering := compare a.key b.key

/-- The day that a number of seconds after the beginning of `d` falls on, from the day
before to the day after. -/
def dayOf? (d : Date) (seconds : Int) : Option Date :=
  if seconds < 0 then d.previous?
  else if seconds < 86400 then some d
  else d.next?

/-- The moment a number of seconds after the beginning of `d`. -/
def after? (d : Date) (seconds : Int) (nanos : Nat) : Option DateTime :=
  (dayOf? d seconds).bind fun day =>
    if h : IsTime (seconds % 86400).toNat nanos then some ⟨day, _, nanos, h⟩ else none

/-- The moment in universal time that a clock shows as `t` which is `offset` seconds ahead;
nothing beyond the ends of the calendar. -/
def atOffset? (t : DateTime) (offset : Int) : Option DateTime :=
  after? t.date (t.time.seconds - offset) t.time.nanos

/-- The whole seconds since the beginning of 1970, in universal time. -/
def unixSeconds (t : DateTime) : Int := t.date.unixDays * 86400 + t.time.seconds

/-- Different moments have different keys. -/
theorem key_inj {a b : DateTime} (h : a.key = b.key) : a = b := by
  obtain ⟨da, ta⟩ := a
  obtain ⟨db, tb⟩ := b
  obtain ⟨sa, na, hsa, hna, _⟩ := ta
  obtain ⟨sb, nb, hsb, hnb, _⟩ := tb
  simp only [key, Time.key] at h
  have hd : da.key = db.key := by omega
  have hs : sa = sb ∧ na = nb := by omega
  obtain ⟨rfl, rfl⟩ := hs
  rw [Date.key_inj hd]

theorem dayOf?_of_lt (d : Date) {seconds : Nat} (h : seconds < 86400) :
    dayOf? d seconds = some d := by
  unfold dayOf?
  rw [if_neg (by omega), if_pos (by omega)]

/-- A moment that is not ahead of universal time stays as it is. -/
theorem atOffset?_zero (t : DateTime) : t.atOffset? 0 = some t := by
  obtain ⟨d, s, n, h⟩ := t
  have e : ((s : Int) % 86400).toNat = s := by omega
  rw [atOffset?, Int.sub_zero, after?, dayOf?_of_lt d h.1, Option.bind_some]
  simp only [e]
  rw [dif_pos h]

end DateTime

end DocSearch
