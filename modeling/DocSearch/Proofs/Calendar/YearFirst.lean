import DocSearch.Calendar.Reader
import DocSearch.Proofs.Number.Digits

/-!
# Moments begin with their year

In each of the forms that a moment is read in, the year stands first: digits, behind a
sign or not, with a minus sign behind them.  No number has a minus sign there.  So a text
is read as a moment, or as a number, or as neither, but never as both.

## Main definitions

* `YearFirst` — a text whose digits have a minus sign behind them.
* `Spelling.Tight` — the spellings that pass over nothing inside a moment.

## Main results

* `DateTime.yearFirst_of_of?` — a text that is read as a moment begins with a year.
* `DateTime.integerOf?_of_of?`, `DateTime.decimalOf?_of_of?` — **it is neither an integer
  nor a decimal number.**
-/

namespace DocSearch

open Number

/-- Behind its sign, if it has one, the text goes on with digits and a minus sign. -/
def YearFirst (cs : List Char) : Prop :=
  ∃ ds rest, (sign cs).2 = ds ++ '-' :: rest ∧ ∀ c ∈ ds, isDigit c = true

namespace YearFirst

variable {cs : List Char}

theorem integerOf?_eq_none (h : YearFirst cs) : integerOf? cs = none := by
  obtain ⟨ds, rest, hsign, -⟩ := h
  refine Number.integerOf?_eq_none (c := '-') ?_ (by decide)
  rw [hsign]
  exact List.mem_append_right _ List.mem_cons_self

theorem decimalOf?_eq_none (h : YearFirst cs) : decimalOf? cs = none := by
  obtain ⟨ds, rest, hsign, hdigits⟩ := h
  exact Number.decimalOf?_eq_none hsign hdigits

end YearFirst

/-! ### What the readers take -/

/-- A reader of digits takes digits and nothing else. -/
theorem exists_digits_of_scanDigits {w n : Nat} {cs rest : List Char}
    (h : scanDigits w cs = .ok (n, rest)) :
    ∃ ds, cs = ds ++ rest ∧ ∀ c ∈ ds, isDigit c = true := by
  have htaken : (cs.take w).takeWhile isDigit <+: cs :=
    (List.takeWhile_prefix isDigit).trans (List.take_prefix w cs)
  simp only [scanDigits] at h
  split at h
  · cases h
  · split at h
    · cases h
    · cases h
      exact ⟨_, (List.prefix_iff_eq_append.mp htaken).symm, fun c hc =>
        List.mem_takeWhile_imp hc⟩

theorem exists_digits_of_scanExactly {w n : Nat} {cs rest : List Char}
    (h : scanExactly w cs = .ok (n, rest)) :
    ∃ ds, cs = ds ++ rest ∧ ds.length = w ∧ ∀ c ∈ ds, isDigit c = true := by
  simp only [scanExactly] at h
  split at h
  · cases h
  · next hlen =>
    split at h
    · next hall =>
      cases h
      rw [List.length_take] at hlen
      exact ⟨cs.take w, (List.take_append_drop w cs).symm, by rw [List.length_take]; omega,
        List.all_eq_true.mp hall⟩
    · cases h

theorem eq_cons_of_scanOneOf {c : Char} {u : Unit} {cs rest : List Char}
    (h : scanOneOf [c] cs = .ok (u, rest)) : cs = c :: rest := by
  cases cs with
  | nil => cases h
  | cons d cs =>
    rw [scanOneOf] at h
    split at h
    · next hd =>
      cases h
      rw [List.mem_singleton.mp hd]
    · cases h

/-- A year is read from a sign, where there is one, and digits. -/
theorem exists_digits_of_scanYear {y : Int} {cs rest : List Char}
    (htrim : Text.trimLeft cs = cs) (h : scanYear cs = .ok (y, rest)) :
    ∃ ds, (sign cs).2 = ds ++ rest ∧ ∀ c ∈ ds, isDigit c = true := by
  rw [scanYear, htrim] at h
  split at h
  case h_3 hminus hplus =>
    have hsign : sign cs = (false, cs) := by
      unfold sign
      split
      · exact absurd rfl (hminus _)
      · exact absurd rfl (hplus _)
      · rfl
    rw [hsign]
    split at h
    · cases h
    · next hread =>
      cases h
      exact exists_digits_of_scanDigits hread
  -- Behind a sign, whichever it is, the number must fit as well.
  all_goals
    beta_reduce at h
    split at h
    · cases h
    · next hread =>
      split at h
      · cases h
        exact exists_digits_of_scanDigits hread
      · cases h

/-! ### Spellings -/

/-- A spelling that passes over nothing inside a moment; its year is a sign, where there
is one, and digits. -/
structure Spelling.Tight (s : Spelling) : Prop where
  /-- A year without blanks before it is a sign and digits. -/
  year : ∀ {cs y rest}, Text.trimLeft cs = cs → s.year cs = .ok (y, rest) →
    ∃ ds, (sign cs).2 = ds ++ rest ∧ ∀ c ∈ ds, isDigit c = true
  /-- Nothing is passed over before a sign between two numbers. -/
  skip : s.skip = id

theorem Spelling.tight_plain : Spelling.plain.Tight :=
  ⟨exists_digits_of_scanYear, rfl⟩

theorem Spelling.tight_strict : Spelling.strict.Tight := by
  refine ⟨?_, rfl⟩
  intro cs y rest _ h
  simp only [strict] at h
  split at h
  · cases h
  · next hread =>
    cases h
    obtain ⟨ds, rfl, hlen, hdigits⟩ := exists_digits_of_scanExactly hread
    have hne : ds ≠ [] := by
      rintro rfl
      cases hlen
    exact ⟨ds, by rw [sign_digits hne hdigits], hdigits⟩

/-- The day of a moment begins with its year. -/
theorem yearFirst_of_scanDay {s : Spelling} (hs : s.Tight) {cs rest : List Char} {p : DayParts}
    (htrim : Text.trimLeft cs = cs) (h : scanDay s cs = .ok (p, rest)) : YearFirst cs := by
  rw [scanDay] at h
  cases hyear : s.year cs with
  | error e => rw [hyear] at h; cases h
  | ok r =>
    obtain ⟨ds, hsign, hdigits⟩ := hs.year htrim (show s.year cs = .ok (r.1, r.2) from hyear)
    cases hdash : scanOneOf ['-'] (s.skip r.2) with
    | error e =>
      rw [hyear] at h
      simp only [bind, Except.bind, hdash] at h
      cases h
    | ok u =>
      rw [hs.skip] at hdash
      exact ⟨ds, u.2, by rw [hsign, ← eq_cons_of_scanOneOf hdash]; rfl, hdigits⟩

theorem yearFirst_of_scanMoment {s : Spelling} (hs : s.Tight) {cs rest : List Char}
    {p : DayParts × ClockParts} (htrim : Text.trimLeft cs = cs)
    (h : scanMoment s cs = .ok (p, rest)) : YearFirst cs := by
  rw [scanMoment] at h
  cases hday : scanDay s cs with
  | error e => rw [hday] at h; cases h
  | ok r => exact yearFirst_of_scanDay hs htrim hday

/-! ### Whole texts -/

namespace DateTime

variable {cs : List Char} {t : DateTime}

theorem yearFirst_of_plain? (htrim : Text.trimLeft cs = cs) (h : plain? cs = some t) :
    YearFirst cs := by
  rw [plain?] at h
  split at h
  · next hread => exact yearFirst_of_scanMoment Spelling.tight_plain htrim hread
  · cases h

theorem yearFirst_of_strict? (htrim : Text.trimLeft cs = cs) (h : strict? cs = some t) :
    YearFirst cs := by
  rw [strict?] at h
  split at h
  · cases h
  · next hread => exact yearFirst_of_scanMoment Spelling.tight_strict htrim hread

theorem yearFirst_of_midnightOf? (htrim : Text.trimLeft cs = cs)
    (h : midnightOf? cs = some t) : YearFirst cs := by
  rw [midnightOf?] at h
  split at h
  · next hread => exact yearFirst_of_scanDay Spelling.tight_plain htrim hread
  · cases h

/-- **A text that is read as a moment begins with a year**, behind its blanks. -/
theorem yearFirst_of_of? (h : of? cs = some t) : YearFirst (Text.trim cs) := by
  have htrim := Text.trimLeft_trim cs
  simp only [of?, Option.or_eq_some_iff] at h
  rcases h with h | ⟨-, h | ⟨-, h⟩⟩
  · exact yearFirst_of_plain? htrim h
  · exact yearFirst_of_strict? htrim h
  · exact yearFirst_of_midnightOf? htrim h

/-- **A text that is read as a moment is not an integer.** -/
theorem integerOf?_of_of? (h : of? cs = some t) : integerOf? (Text.trim cs) = none :=
  (yearFirst_of_of? h).integerOf?_eq_none

/-- **A text that is read as a moment is not a decimal number.** -/
theorem decimalOf?_of_of? (h : of? cs = some t) : decimalOf? (Text.trim cs) = none :=
  (yearFirst_of_of? h).decimalOf?_eq_none

end DateTime

end DocSearch
