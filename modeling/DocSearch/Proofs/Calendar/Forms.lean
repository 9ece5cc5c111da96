import DocSearch.Proofs.Calendar.RoundTrip
import DocSearch.Proofs.Calendar.YearFirst

/-!
# The forms of a moment

A text is read as a moment in one of three forms: the plain one, the strict one with a time zone,
and a day alone.  No text has two of them, so it does not matter in which order they are tried.

Numbers of a fixed width are read by the plain form as by the strict one.  So whatever its form, a
text is read alike as far as both go on, and the forms differ in where it ends: a day alone ends
where in a moment the time follows, and a plain moment ends where in a strict one the time zone
follows.

## Main definitions

* `CoveredBy`, `Spelling.CoveredBy` — what one reader or spelling reads, another reads alike.
* `DateTime.Form`, `DateTime.Form.read?` — the three forms and their readers.
* `DateTime.Form.Ends` — where a text ends, taken as a plain moment.

## Main results

* `Spelling.strict_coveredBy_plain` — the plain spelling reads what the strict one reads.
* `DateTime.Form.eq_of_read?` — **no text has two forms.**
* `DateTime.findSome?_read?` — **the forms may be tried in any order.**
-/

namespace DocSearch

open Number

/-! ### Readers that agree -/

/-- Two readers, one behind the other, have a value where each of them has one. -/
theorem bind_eq_ok_iff {α β : Type} {x : Except TimeFault α} {f : α → Except TimeFault β} {b : β} :
    x >>= f = .ok b ↔ ∃ a, x = .ok a ∧ f a = .ok b := by
  cases x with
  | error e => exact iff_of_false nofun nofun
  | ok a =>
    constructor
    · intro h
      exact ⟨a, rfl, h⟩
    · rintro ⟨a', ha, h⟩
      cases ha
      exact h

/-- The right reader has the value that the left one has, unless that is a fault. -/
def CoveredBy {α : Type} (x y : Except TimeFault α) : Prop := ∀ a, x = .ok a → y = .ok a

namespace CoveredBy

variable {α β : Type}

theorem refl (x : Except TimeFault α) : CoveredBy x x := fun _ h => h

/-- Two readers in a row agree with two others if each of them does. -/
theorem bind {x y : Except TimeFault α} {f g : α → Except TimeFault β} (hxy : CoveredBy x y)
    (hfg : ∀ a, CoveredBy (f a) (g a)) : CoveredBy (x >>= f) (y >>= g) := by
  intro b h
  obtain ⟨a, ha, hb⟩ := bind_eq_ok_iff.1 h
  exact bind_eq_ok_iff.2 ⟨a, hxy a ha, hfg a b hb⟩

end CoveredBy

/-- Whatever the left spelling reads, the right one reads alike. -/
structure Spelling.CoveredBy (s t : Spelling) : Prop where
  /-- Years. -/
  year : ∀ cs, DocSearch.CoveredBy (s.year cs) (t.year cs)
  /-- The other numbers. -/
  field : ∀ low high cs, DocSearch.CoveredBy (s.field low high cs) (t.field low high cs)
  /-- They pass over the same. -/
  skip : s.skip = t.skip

section Parts

variable {s t : Spelling}

theorem scanDay_coveredBy (h : s.CoveredBy t) (cs : List Char) :
    CoveredBy (scanDay s cs) (scanDay t cs) := by
  unfold scanDay
  rw [h.skip]
  refine .bind (h.year cs) fun year => .bind (.refl _) fun _ => ?_
  refine .bind (h.field 1 12 _) fun month => .bind (.refl _) fun _ => ?_
  exact .bind (h.field 1 31 _) fun day => .refl _

theorem scanClock_coveredBy (h : s.CoveredBy t) (cs : List Char) :
    CoveredBy (scanClock s cs) (scanClock t cs) := by
  unfold scanClock
  rw [h.skip]
  refine .bind (h.field 0 23 cs) fun hour => .bind (.refl _) fun _ => ?_
  refine .bind (h.field 0 59 _) fun minute => .bind (.refl _) fun _ => ?_
  exact .bind (h.field 0 60 _) fun second => .refl _

end Parts

/-! ### Numbers of a fixed width -/

/-- A number of a fixed width has no blanks before it. -/
theorem trimLeft_of_scanExactly {w n : Nat} {cs rest : List Char} (hw : 0 < w)
    (h : scanExactly w cs = .ok (n, rest)) : Text.trimLeft cs = cs := by
  obtain ⟨ds, rfl, hlen, hdigits⟩ := exists_digits_of_scanExactly h
  exact trimLeft_digits (List.ne_nil_of_length_pos (hlen ▸ hw)) hdigits rest

/-- A number of a fixed width is read where digits up to that width are read. -/
theorem scanDigits_of_scanExactly {w n : Nat} {cs rest : List Char} (hw : 0 < w) (hw' : w ≤ 18)
    (h : scanExactly w cs = .ok (n, rest)) : scanDigits w cs = .ok (n, rest) := by
  simp only [scanExactly] at h
  split at h
  · cases h
  · next hlen =>
    split at h
    · next hall =>
      cases h
      have hdigits := List.all_eq_true.mp hall
      have hlen' : (cs.take w).length = w := by
        rw [List.length_take] at hlen ⊢
        omega
      have hfits : IsInt64 (valueOf (cs.take w)) := by
        have hlt := valueOf_lt hdigits
        have hle : tenTo (cs.take w).length ≤ tenTo 18 :=
          Nat.pow_le_pow_right (by decide) (Nat.le_trans (Nat.le_of_eq hlen') hw')
        have h18 : tenTo 18 = 1000000000000000000 := rfl
        omega
      have hne : cs.take w ≠ [] := List.ne_nil_of_length_pos (Nat.lt_of_lt_of_eq hw hlen'.symm)
      have hend : DigitsEnd ((cs.drop w).take (w - (cs.take w).length)) := by
        rw [hlen', Nat.sub_self]
        exact digitsEnd_nil
      have hread := scanDigits_append hne hdigits (Nat.le_of_eq hlen') hend hfits
      rwa [List.take_append_drop] at hread
    · cases h

/-- **The plain spelling reads what the strict one reads.** -/
theorem Spelling.strict_coveredBy_plain : Spelling.strict.CoveredBy .plain := by
  refine ⟨fun cs r h => ?_, fun low high cs r h => ?_, rfl⟩
  · simp only [strict] at h
    split at h
    · cases h
    · next hread =>
      cases h
      have hdigits := scanDigits_of_scanExactly (by decide) (by decide) hread
      obtain ⟨ds, rfl, hlen, hds⟩ := exists_digits_of_scanExactly hread
      exact scanYear_digits (List.ne_nil_of_length_pos (by rw [hlen]; decide)) hds hdigits
  · simp only [strict] at h
    cases hread : scanExactly 2 cs with
    | error e =>
      rw [hread] at h
      cases h
    | ok p =>
      have htrim := trimLeft_of_scanExactly (by decide) hread
      have hdigits := scanDigits_of_scanExactly (by decide) (by decide) hread
      rw [hread] at h
      show within low high (scanDigits 2 (Text.trimLeft cs)) = .ok r
      rw [htrim, hdigits]
      exact h

/-! ### Where a moment ends -/

/-- One of the expected characters has been read. -/
theorem exists_cons_of_scanOneOf {expected cs : List Char} {r : Unit × List Char}
    (h : scanOneOf expected cs = .ok r) : ∃ c, cs = c :: r.2 := by
  cases cs with
  | nil => cases h
  | cons c cs =>
    rw [scanOneOf] at h
    split at h
    · cases h
      exact ⟨c, rfl⟩
    · cases h

/-- A moment is a day and a time with a character between them. -/
theorem exists_parts_of_scanMoment {s : Spelling} {cs rest : List Char}
    {p : DayParts × ClockParts} (h : scanMoment s cs = .ok (p, rest)) :
    ∃ c mid, scanDay s cs = .ok (p.1, c :: mid) ∧ scanClock s mid = .ok (p.2, rest) := by
  rw [scanMoment] at h
  obtain ⟨⟨day, cs₁⟩, hday, h⟩ := bind_eq_ok_iff.1 h
  obtain ⟨⟨_, mid⟩, hbetween, h⟩ := bind_eq_ok_iff.1 h
  obtain ⟨⟨clock, cs₂⟩, hclock, h⟩ := bind_eq_ok_iff.1 h
  cases h
  obtain ⟨c, rfl⟩ := exists_cons_of_scanOneOf hbetween
  exact ⟨c, mid, hday, hclock⟩

namespace DateTime

/-- The forms of a moment. -/
inductive Form
  /-- A day and a time. -/
  | plain
  /-- A day and a time with all digits in place, and a time zone. -/
  | strict
  /-- A day alone. -/
  | midnight
  deriving DecidableEq, Repr

namespace Form

/-- The moment that a text means in a form, the whole text. -/
def read? : Form → List Char → Option DateTime
  | plain => plain?
  | strict => strict?
  | midnight => midnightOf?

/-- Where a text in a form ends, taken as a plain moment. -/
inductive Ends (cs : List Char) : Form → Prop
  /-- Behind the day. -/
  | midnight {day : DayParts} (h : scanDay .plain cs = .ok (day, [])) : Ends cs midnight
  /-- Behind the time. -/
  | plain {day : DayParts} {c : Char} {mid : List Char} {clock : ClockParts}
      (hday : scanDay .plain cs = .ok (day, c :: mid))
      (hclock : scanClock .plain mid = .ok (clock, [])) : Ends cs plain
  /-- Not behind the time. -/
  | strict {day : DayParts} {c z : Char} {mid zone : List Char} {clock : ClockParts}
      (hday : scanDay .plain cs = .ok (day, c :: mid))
      (hclock : scanClock .plain mid = .ok (clock, z :: zone)) : Ends cs strict

variable {f g : Form} {cs : List Char} {t u : DateTime}

theorem ends_plain (h : plain? cs = some t) : Ends cs plain := by
  rw [plain?] at h
  split at h
  · next hread =>
    obtain ⟨c, mid, hday, hclock⟩ := exists_parts_of_scanMoment hread
    exact .plain hday hclock
  · cases h

theorem ends_strict (h : strict? cs = some t) : Ends cs strict := by
  rw [strict?] at h
  split at h
  · cases h
  · next rest hread =>
    obtain ⟨c, mid, hday, hclock⟩ := exists_parts_of_scanMoment hread
    have hday := scanDay_coveredBy Spelling.strict_coveredBy_plain _ _ hday
    have hclock := scanClock_coveredBy Spelling.strict_coveredBy_plain _ _ hclock
    cases rest with
    | nil => cases h
    | cons z zone => exact .strict hday hclock

theorem ends_midnight (h : midnightOf? cs = some t) : Ends cs midnight := by
  rw [midnightOf?] at h
  split at h
  · next hread => exact .midnight hread
  · cases h

theorem ends_of_read? (h : f.read? cs = some t) : Ends cs f := by
  cases f with
  | plain => exact ends_plain h
  | strict => exact ends_strict h
  | midnight => exact ends_midnight h

/-- A text ends in one place. -/
theorem Ends.eq (hf : Ends cs f) (hg : Ends cs g) : f = g := by
  cases hf with
  | midnight h =>
    cases hg with
    | midnight => rfl
    | plain hday => cases h.symm.trans hday
    | strict hday => cases h.symm.trans hday
  | plain hday hclock =>
    cases hg with
    | midnight h => cases h.symm.trans hday
    | plain => rfl
    | strict hday' hclock' =>
      cases hday.symm.trans hday'
      cases hclock.symm.trans hclock'
  | strict hday hclock =>
    cases hg with
    | midnight h => cases h.symm.trans hday
    | plain hday' hclock' =>
      cases hday.symm.trans hday'
      cases hclock.symm.trans hclock'
    | strict => rfl

/-- **No text has two forms.** -/
theorem eq_of_read? (hf : f.read? cs = some t) (hg : g.read? cs = some u) : f = g :=
  (ends_of_read? hf).eq (ends_of_read? hg)

end Form

variable {cs : List Char} {t : DateTime}

theorem of?_eq_some_iff : of? cs = some t ↔ ∃ f : Form, f.read? (Text.trim cs) = some t := by
  simp only [of?, Option.or_eq_some_iff]
  constructor
  · rintro (h | ⟨-, h | ⟨-, h⟩⟩)
    · exact ⟨.plain, h⟩
    · exact ⟨.strict, h⟩
    · exact ⟨.midnight, h⟩
  · rintro ⟨f, h⟩
    -- The forms before the one that the text has do not read it.
    have hnone : ∀ g : Form, g ≠ f → g.read? (Text.trim cs) = none := fun g hne =>
      Option.eq_none_iff_forall_ne_some.2 fun u hu => hne (Form.eq_of_read? hu h)
    cases f with
    | plain => exact .inl h
    | strict => exact .inr ⟨hnone .plain (by decide), .inl h⟩
    | midnight =>
      exact .inr ⟨hnone .plain (by decide), .inr ⟨hnone .strict (by decide), h⟩⟩

/-- **The forms may be tried in any order**, as long as each of them is. -/
theorem findSome?_read? {fs : List Form} (hall : ∀ f, f ∈ fs) (cs : List Char) :
    fs.findSome? (fun f => f.read? (Text.trim cs)) = of? cs := by
  refine Option.ext fun t => ?_
  rw [of?_eq_some_iff]
  constructor
  · intro h
    obtain ⟨f, -, hf⟩ := List.exists_of_findSome?_eq_some h
    exact ⟨f, hf⟩
  · rintro ⟨f, hf⟩
    -- Some form reads the text, and there is no other that does.
    have hsome : (fs.findSome? fun f => f.read? (Text.trim cs)).isSome = true :=
      List.findSome?_isSome_iff.2 ⟨f, hall f, by rw [hf]; rfl⟩
    obtain ⟨u, hu⟩ := Option.isSome_iff_exists.1 hsome
    obtain ⟨g, -, hg⟩ := List.exists_of_findSome?_eq_some hu
    obtain rfl := Form.eq_of_read? hf hg
    rw [hu, ← hg, hf]

end DateTime

end DocSearch
