import DocSearch.Calendar.Reader
import DocSearch.Proofs.Number.Digits

/-!
# Written moments are read back

The text of a moment is read by the plain form to the same moment, whatever stands behind
it as long as that does not go on with a digit or a point.  Each reader of a part undoes
the writer of that part and leaves the rest of the text as it is; the moment follows by
chaining the parts.

## Main definitions

* `Date.parts`, `Time.parts` — the numbers that are written for a day and a time.
* `Spelling.ReadsPlain` — the spellings that accept whatever the plain one writes.
* `FractionEnd` — a text that does not go on with a digit or a point.

## Main results

* `scanMoment_text` — the numbers of a moment are read from its text.
* `DateTime.of?_text` — the moment itself is read from its text.
-/

namespace DocSearch

open Number

/-! ### Runs of digits and signs -/

theorem scanOneOf_cons {expected : List Char} {c : Char} (h : c ∈ expected) (cs : List Char) :
    scanOneOf expected (c :: cs) = .ok ((), cs) := by
  rw [scanOneOf, if_pos h]

/-- A run of digits is read in full when the width admits it and no digit follows within
the width. -/
theorem scanDigits_append {w : Nat} {ds rest : List Char} (hne : ds ≠ [])
    (hd : ∀ c ∈ ds, isDigit c = true) (hw : ds.length ≤ w)
    (hend : DigitsEnd (rest.take (w - ds.length))) (hfits : IsInt64 (valueOf ds)) :
    scanDigits w (ds ++ rest) = .ok (valueOf ds, rest) := by
  -- The width cuts behind the run, never into it.
  have htake : ((ds ++ rest).take w).takeWhile isDigit = ds := by
    rw [List.take_append, List.take_of_length_le hw]
    exact takeWhile_isDigit_append hd hend
  have hempty : ds.isEmpty = false := List.isEmpty_eq_false_iff.2 hne
  have hdrop : (ds ++ rest).drop ds.length = rest := List.drop_left
  have hdecide : decide (IsInt64 (valueOf ds)) = true := decide_eq_true hfits
  simp only [scanDigits, htake, hempty, hdrop, hdecide, Bool.not_true, Bool.false_eq_true,
    if_false]

/-- A padded number of the full width is read whatever follows it. -/
theorem scanDigits_padTo {w n : Nat} (hw : 0 < w) (h : n < tenTo w) (hfits : IsInt64 n)
    (rest : List Char) : scanDigits w (padTo w n ++ rest) = .ok (n, rest) := by
  have hlen := length_padTo hw h
  have hend : DigitsEnd (rest.take (w - (padTo w n).length)) := by
    rw [hlen, Nat.sub_self]
    exact digitsEnd_nil
  have hread := scanDigits_append (padTo_ne_nil w n) (fun _ => isDigit_of_mem_padTo)
    (Nat.le_of_eq hlen) hend (by rwa [valueOf_padTo])
  rwa [valueOf_padTo] at hread

/-- A text that begins with a run of digits has no blanks in front. -/
theorem trimLeft_digits {ds : List Char} (hne : ds ≠ []) (hd : ∀ c ∈ ds, isDigit c = true)
    (rest : List Char) : Text.trimLeft (ds ++ rest) = ds ++ rest := by
  cases ds with
  | nil => exact absurd rfl hne
  | cons d ds => exact Text.trimLeft_cons (isBlank_of_isDigit (hd d List.mem_cons_self)) _

/-- Two digits within the bounds of a field are read by the field. -/
theorem scanField_padTo {low high n : Nat} (hlow : low ≤ n) (hhigh : n ≤ high)
    (hwidth : high < 100) (rest : List Char) :
    scanField low high (padTo 2 n ++ rest) = .ok (n, rest) := by
  have hn : n < tenTo 2 := Nat.lt_of_le_of_lt hhigh hwidth
  have hfits : IsInt64 n := by omega
  rw [scanField, trimLeft_digits (padTo_ne_nil 2 n) (fun _ => isDigit_of_mem_padTo),
    scanDigits_padTo (by decide) hn hfits]
  simp only [within, hlow, hhigh, and_self, if_true]

/-! ### Years -/

/-- How a year is written: without a sign up to `9999`, with one beyond. -/
theorem yearText_cases (year : Int) :
    (0 ≤ year ∧ year ≤ 9999 ∧ yearText year = padTo 4 year.natAbs) ∨
      (year < 0 ∧ yearText year = '-' :: padTo 4 year.natAbs) ∨
      (9999 < year ∧ yearText year = '+' :: padTo 4 year.natAbs) := by
  by_cases h : 0 ≤ year ∧ year ≤ 9999
  · have he : year.toNat = year.natAbs := by omega
    refine .inl ⟨h.1, h.2, ?_⟩
    rw [yearText, if_pos h, he]
  · by_cases hneg : year < 0
    · refine .inr (.inl ⟨hneg, ?_⟩)
      rw [yearText, if_neg h, if_pos hneg]
    · refine .inr (.inr ⟨by omega, ?_⟩)
      rw [yearText, if_neg h, if_neg hneg]

/-- A year without a sign is read as four digits at most. -/
theorem scanYear_digits {ds : List Char} (hne : ds ≠ []) (hd : ∀ c ∈ ds, isDigit c = true)
    {n : Nat} {rest rest' : List Char} (h : scanDigits 4 (ds ++ rest) = .ok (n, rest')) :
    scanYear (ds ++ rest) = .ok ((n : Int), rest') := by
  cases ds with
  | nil => exact absurd rfl hne
  | cons d ds =>
    have hdigit := hd d List.mem_cons_self
    have hminus : d ≠ '-' := ne_of_isDigit hdigit (by decide)
    have hplus : d ≠ '+' := ne_of_isDigit hdigit (by decide)
    rw [scanYear, trimLeft_digits hne hd]
    rw [List.cons_append] at h ⊢
    split
    · next he => exact absurd (List.cons.inj he).1 hminus
    · next he => exact absurd (List.cons.inj he).1 hplus
    · simp only [h]

/-- The years of the calendar are read from their text. -/
theorem scanYear_yearText {year : Int} (hlow : firstYear ≤ year) (hhigh : year ≤ lastYear)
    {rest : List Char} (hend : DigitsEnd rest) :
    scanYear (yearText year ++ rest) = .ok (year, rest) := by
  have hlow : -262143 ≤ year := hlow
  have hhigh : year ≤ 262142 := hhigh
  have hfits : IsInt64 year.natAbs := by omega
  -- Behind a sign the width is that of the whole text, so only the end of the digits counts.
  have hsigned : scanDigits (padTo 4 year.natAbs ++ rest).length (padTo 4 year.natAbs ++ rest) =
      .ok (year.natAbs, rest) := by
    have hread := scanDigits_append (padTo_ne_nil 4 year.natAbs)
      (fun _ => isDigit_of_mem_padTo)
      (show (padTo 4 year.natAbs).length ≤ (padTo 4 year.natAbs ++ rest).length by
        rw [List.length_append]; omega)
      (hend.take _) (by rwa [valueOf_padTo])
    rwa [valueOf_padTo] at hread
  rcases yearText_cases year with ⟨hpos, hsmall, h⟩ | ⟨hneg, h⟩ | ⟨hlarge, h⟩
  · have hn : year.natAbs < tenTo 4 := by
      have : tenTo 4 = 10000 := rfl
      omega
    have hvalue : ((year.natAbs : Nat) : Int) = year := by omega
    rw [h, scanYear_digits (padTo_ne_nil _ _) (fun _ => isDigit_of_mem_padTo)
      (scanDigits_padTo (by decide) hn hfits rest), hvalue]
  · have hvalue : -1 * ((year.natAbs : Nat) : Int) = year := by omega
    have h32 : IsInt32 year := by omega
    rw [h, List.cons_append, scanYear, Text.trimLeft_cons (by decide)]
    simp only [hsigned, hvalue]
    rw [if_pos h32]
  · have hvalue : 1 * ((year.natAbs : Nat) : Int) = year := by omega
    have h32 : IsInt32 year := by omega
    rw [h, List.cons_append, scanYear, Text.trimLeft_cons (by decide)]
    simp only [hsigned, hvalue]
    rw [if_pos h32]

/-! ### Fractions of a second -/

/-- The text goes on with neither a digit nor a point. -/
def FractionEnd (rest : List Char) : Prop := ∀ c ∈ rest.head?, isDigit c = false ∧ c ≠ '.'

@[simp] theorem fractionEnd_nil : FractionEnd [] := by
  intro c hc
  cases hc

theorem FractionEnd.digitsEnd {rest : List Char} (h : FractionEnd rest) : DigitsEnd rest :=
  fun c hc => (h c hc).1

/-- Digits behind a point count in the place that their number gives them. -/
theorem scanFraction_point {k n : Nat} (hk : 0 < k) (hk' : k ≤ 9) (h : n < tenTo k)
    (hfits : IsInt64 n) {rest : List Char} (hend : DigitsEnd rest) :
    scanFraction ('.' :: padTo k n ++ rest) = .ok (n * tenTo (9 - k), rest) := by
  have hlen := length_padTo hk h
  have hread : scanDigits 9 (padTo k n ++ rest) = .ok (n, rest) := by
    have hread := scanDigits_append (padTo_ne_nil k n) (fun _ => isDigit_of_mem_padTo)
      (show (padTo k n).length ≤ 9 by omega) (hend.take _) (by rwa [valueOf_padTo])
    rwa [valueOf_padTo] at hread
  have hused : (padTo k n ++ rest).length - rest.length = k := by
    rw [List.length_append]
    omega
  have hdrop : rest.dropWhile isDigit = rest := by
    have := dropWhile_isDigit_append (List.forall_mem_nil _) hend
    rwa [List.nil_append] at this
  rw [List.cons_append, scanFraction]
  simp only [hread, hused, hdrop]

/-- Nanoseconds of a second are read from their fraction. -/
theorem scanFraction_fractionText {n : Nat} (hn : n < 1000000000) {rest : List Char}
    (hend : FractionEnd rest) : scanFraction (fractionText n ++ rest) = .ok (n, rest) := by
  have hdigits := hend.digitsEnd
  have h3 : tenTo 3 = 1000 := rfl
  have h6 : tenTo 6 = 1000000 := rfl
  have h9 : tenTo 9 = 1000000000 := rfl
  -- A width is taken only when it is exact, so the place value makes up for what is left out.
  unfold fractionText
  split
  · next h =>
    rw [h, List.nil_append]
    unfold scanFraction
    split
    · next cs => exact absurd rfl (hend '.' rfl).2
    · rfl
  · split
    · next h =>
      rw [scanFraction_point (by decide) (by decide) (by omega) (by omega) hdigits]
      have : n / 1000000 * tenTo 6 = n := by
        rw [h6]
        omega
      rw [show 9 - 3 = 6 from rfl, this]
    · split
      · next h =>
        rw [scanFraction_point (by decide) (by decide) (by omega) (by omega) hdigits]
        have : n / 1000 * tenTo 3 = n := by
          rw [h3]
          omega
        rw [show 9 - 6 = 3 from rfl, this]
      · rw [scanFraction_point (by decide) (by decide) (by omega) (by omega) hdigits]
        have : n * tenTo 0 = n := Nat.mul_one n
        rw [show 9 - 9 = 0 from rfl, this]

/-! ### Moments -/

/-- The numbers that are written for a day. -/
def Date.parts (d : Date) : DayParts := ⟨d.year, d.month, d.day⟩

/-- The numbers that are written for a time. -/
def Time.parts (t : Time) : ClockParts := ⟨t.hour, t.minute, t.second, t.fraction⟩

theorem Date.parts_date (d : Date) : d.parts.date = .ok d := by
  simp only [DayParts.date, Date.parts, Date.of?_self]

theorem Time.of?_eq_some {hour minute second nanos : Nat} {t : Time} (hhour : hour < 24)
    (hminute : minute < 60) (hsecond : second < 60)
    (hseconds : hour * 3600 + minute * 60 + second = t.seconds) (hnanos : nanos = t.nanos) :
    Time.of? hour minute second nanos = some t := by
  obtain ⟨s, n, h⟩ := t
  obtain rfl : _ = s := hseconds
  obtain rfl : _ = n := hnanos
  rw [of?, dif_pos ⟨hhour, hminute, hsecond⟩, dif_pos h]

/-- The numbers of a time make up the time again, also in a leap second. -/
theorem Time.parts_time (t : Time) : t.parts.time = .ok t := by
  have hhour := t.hour_lt
  have hminute := t.minute_lt
  have hsplit : t.hour * 3600 + t.minute * 60 + t.seconds % 60 = t.seconds := by
    unfold hour minute
    omega
  by_cases h : 1000000000 ≤ t.nanos
  · -- A leap second is written as second `60`, and read on top of second `59`.
    have hlast := t.valid.2.2 h
    have hnanos := t.valid.2.1
    have hsecond : t.second = 60 := by
      simp only [second, isLeap, h, hlast, decide_true, if_true]
    rw [hlast] at hsplit
    have hread := of?_eq_some hhour hminute (by decide) hsplit
      (show 1000000000 + t.fraction = t.nanos by unfold fraction; omega)
    simp only [ClockParts.time, parts, hsecond, if_true, hread]
  · have hlt : t.seconds % 60 < 60 := Nat.mod_lt _ (by decide)
    have hsecond : t.second = t.seconds % 60 := by
      simp only [second, isLeap, h, decide_false, Bool.false_eq_true, if_false, Nat.add_zero]
    have hne : t.seconds % 60 ≠ 60 := by omega
    have hread := of?_eq_some hhour hminute hlt hsplit
      (show t.fraction = t.nanos from Nat.mod_eq_of_lt (by omega))
    simp only [ClockParts.time, parts, hsecond, hne, if_false, hread]

theorem momentOf_parts (t : DateTime) : momentOf t.date.parts t.time.parts = .ok t := by
  simp only [momentOf, Date.parts_date, Time.parts_time]

/-- A spelling that accepts whatever the plain one writes. -/
structure Spelling.ReadsPlain (s : Spelling) : Prop where
  /-- Years are read as they are in the plain form. -/
  year : s.year = scanYear
  /-- So are the other numbers. -/
  field : s.field = scanField
  /-- Nothing but blanks is passed over. -/
  skip : ∀ c cs, Text.isBlank c = false → s.skip (c :: cs) = c :: cs
  /-- A capital `T` may stand between the day and the time. -/
  between : 'T' ∈ s.between

theorem Spelling.readsPlain_plain : Spelling.plain.ReadsPlain :=
  ⟨rfl, rfl, fun _ _ _ => rfl, by decide⟩

theorem Spelling.readsPlain_loose : Spelling.loose.ReadsPlain :=
  ⟨rfl, rfl, fun _ cs h => Text.trimLeft_cons h cs, by decide⟩

section Moment

variable {s : Spelling}

theorem scanDay_text (hs : s.ReadsPlain) (d : Date) (rest : List Char) :
    scanDay s (d.text ++ rest) = .ok (d.parts, rest) := by
  obtain ⟨⟨hfirst, hlast⟩, ⟨hmonth, hmonth'⟩, hday, -⟩ := d.valid
  have hyear : ∀ cs, scanYear (yearText d.year ++ '-' :: cs) = .ok (d.year, '-' :: cs) :=
    fun cs => scanYear_yearText hfirst hlast (digitsEnd_cons (by decide))
  have hskip : ∀ cs, s.skip ('-' :: cs) = '-' :: cs := fun cs => hs.skip _ cs (by decide)
  have hdash : ∀ cs, scanOneOf ['-'] ('-' :: cs) = .ok ((), cs) :=
    scanOneOf_cons (by decide)
  simp only [scanDay, Date.text, List.append_assoc, List.cons_append, hs.year, hs.field, hyear,
    hskip, hdash, scanField_padTo hmonth hmonth' (by decide),
    scanField_padTo hday d.day_le (by decide), bind, Except.bind, pure, Except.pure, Date.parts]

theorem scanClock_text (hs : s.ReadsPlain) (t : Time) {rest : List Char}
    (hend : FractionEnd rest) : scanClock s (t.text ++ rest) = .ok (t.parts, rest) := by
  have hhour : t.hour ≤ 23 := Nat.le_of_lt_succ t.hour_lt
  have hminute : t.minute ≤ 59 := Nat.le_of_lt_succ t.minute_lt
  have hfraction : t.fraction < 1000000000 := Nat.mod_lt _ (by decide)
  have hskip : ∀ cs, s.skip (':' :: cs) = ':' :: cs := fun cs => hs.skip _ cs (by decide)
  have hcolon : ∀ cs, scanOneOf [':'] (':' :: cs) = .ok ((), cs) :=
    scanOneOf_cons (by decide)
  simp only [scanClock, Time.text, List.append_assoc, List.cons_append, hs.field, hskip, hcolon,
    scanField_padTo (Nat.zero_le _) hhour (by decide),
    scanField_padTo (Nat.zero_le _) hminute (by decide),
    scanField_padTo (Nat.zero_le _) t.second_le (by decide),
    scanFraction_fractionText hfraction hend, bind, Except.bind, pure, Except.pure, Time.parts]

/-- **The numbers of a moment are read from its text**, and what follows is left alone. -/
theorem scanMoment_text (hs : s.ReadsPlain) (t : DateTime) {rest : List Char}
    (hend : FractionEnd rest) :
    scanMoment s (t.text ++ rest) = .ok ((t.date.parts, t.time.parts), rest) := by
  have hT : ∀ cs, scanOneOf s.between ('T' :: cs) = .ok ((), cs) := scanOneOf_cons hs.between
  simp only [scanMoment, DateTime.text, List.append_assoc, List.cons_append, scanDay_text hs,
    hT, scanClock_text hs t.time hend, bind, Except.bind, pure, Except.pure]

end Moment

namespace DateTime

/-! ### Whole texts -/

/-- The whole text of a moment is read in the plain form. -/
theorem plain?_text (t : DateTime) : plain? t.text = some t := by
  have hread := scanMoment_text Spelling.readsPlain_plain t fractionEnd_nil
  rw [List.append_nil] at hread
  rw [plain?, hread]
  simp only [momentOf_parts, Except.toOption]

/-- The characters that moments are written with. -/
def IsMark (c : Char) : Prop := isDigit c = true ∨ c ∈ ['-', '+', ':', '.', 'T']

theorem isBlank_of_isMark {c : Char} (h : IsMark c) : Text.isBlank c = false := by
  rcases h with h | h
  · exact isBlank_of_isDigit h
  · simp only [List.mem_cons, List.not_mem_nil, or_false] at h
    rcases h with rfl | rfl | rfl | rfl | rfl <;> decide

theorem isMark_of_mem_padTo {w n : Nat} {c : Char} (h : c ∈ padTo w n) : IsMark c :=
  .inl (isDigit_of_mem_padTo h)

theorem isMark_of_mem_yearText {year : Int} {c : Char} (h : c ∈ yearText year) : IsMark c := by
  rcases yearText_cases year with ⟨-, -, he⟩ | ⟨-, he⟩ | ⟨-, he⟩
  · rw [he] at h
    exact isMark_of_mem_padTo h
  · rw [he] at h
    rcases List.mem_cons.1 h with rfl | h
    · exact .inr (by decide)
    · exact isMark_of_mem_padTo h
  · rw [he] at h
    rcases List.mem_cons.1 h with rfl | h
    · exact .inr (by decide)
    · exact isMark_of_mem_padTo h

theorem isMark_of_mem_fractionText {n : Nat} {c : Char} (h : c ∈ fractionText n) : IsMark c := by
  have hpoint : ∀ k m, c ∈ '.' :: padTo k m → IsMark c := by
    intro k m h
    rcases List.mem_cons.1 h with rfl | h
    · exact .inr (by decide)
    · exact isMark_of_mem_padTo h
  unfold fractionText at h
  split at h
  · cases h
  · split at h
    · exact hpoint _ _ h
    · split at h <;> exact hpoint _ _ h

theorem isMark_of_mem_text {t : DateTime} {c : Char} (h : c ∈ t.text) : IsMark c := by
  simp only [text, Date.text, Time.text, List.mem_append, List.mem_cons] at h
  rcases h with (h | rfl | h | rfl | h) | rfl | h | rfl | h | rfl | h | h
  · exact isMark_of_mem_yearText h
  · exact .inr (by decide)
  · exact isMark_of_mem_padTo h
  · exact .inr (by decide)
  · exact isMark_of_mem_padTo h
  · exact .inr (by decide)
  · exact isMark_of_mem_padTo h
  · exact .inr (by decide)
  · exact isMark_of_mem_padTo h
  · exact .inr (by decide)
  · exact isMark_of_mem_padTo h
  · exact isMark_of_mem_fractionText h

/-- No blanks stand around the text of a moment. -/
theorem trim_text (t : DateTime) : Text.trim t.text = t.text :=
  Text.trim_eq_self fun _ h => isBlank_of_isMark (isMark_of_mem_text h)

/-- **A moment is read from its text.** -/
theorem of?_text (t : DateTime) : of? t.text = some t := by
  simp only [of?, trim_text, plain?_text, Option.some_or]

end DateTime

end DocSearch
