import DocSearch.Decoding.Record

/-!
# Records from their members

An object decodes to what its fields build exactly when every field that it has a member for
accepts that member.  The order in which the fields are tested plays no part in that, so
what a record reads from an object follows from what its parts read.

## Main definitions

* `Record.Reads` — a record reads a value from the members of an object.

## Main results

* `Record.mem_byName` — sorting the fields of a record by name keeps them.
* `Record.Reads.field`, `Record.Reads.both`, `Record.Reads.map` — the parts of a record.
* `Record.reads_field_iff`, `Record.reads_optional_iff`, `Record.reads_both_iff`,
  `Record.reads_map_iff` — what the parts read, told by the members.
* `Record.Reads.ofMembers` — the object decodes to what is read.
* `Record.ofMembers_eq_ok_iff` — and to nothing else.
-/

namespace DocSearch

variable {α β : Type}

/-- A value that is decoded passes the test. -/
theorem Decoder.check_eq_ok {decode : Decoder α} {j : Json} {a : α} (h : decode j = .ok a) :
    decode.check j = .ok () := by
  rw [Decoder.check, h]
  rfl

namespace Record

/-! ### The order of the tests -/

theorem mem_insertSlot {s t : Slot} {slots : List Slot} :
    s ∈ insertSlot t slots ↔ s = t ∨ s ∈ slots := by
  induction slots with
  | nil => simp [insertSlot]
  | cons u us ih =>
    rw [insertSlot]
    split
    · rw [List.mem_cons, ih, List.mem_cons]
      exact or_left_comm
    · exact List.mem_cons

/-- Sorting the fields keeps them. -/
theorem mem_byName {s : Slot} {slots : List Slot} : s ∈ byName slots ↔ s ∈ slots := by
  induction slots with
  | nil => exact Iff.rfl
  | cons t ts ih =>
    have hcons : byName (t :: ts) = insertSlot t (byName ts) := rfl
    rw [hcons, mem_insertSlot, ih, List.mem_cons]

/-- The tests pass in any order when each passes on its own. -/
theorem checkAll_eq_ok {find : String → Option Json} {slots : List Slot}
    (h : ∀ s ∈ slots, ∀ j, find s.name = some j → s.check j = .ok ()) :
    checkAll find slots = .ok () := by
  induction slots with
  | nil => rfl
  | cons s ss ih =>
    have htail := ih fun t ht => h t (List.mem_cons_of_mem s ht)
    rw [checkAll]
    cases hfind : find s.name with
    | none => exact htail
    | some j =>
      rw [Option.map_some, h s List.mem_cons_self j hfind]
      exact htail

/-- Once the tests pass, each passes on its own. -/
theorem check_eq_ok_of_checkAll {find : String → Option Json} {slots : List Slot}
    (h : checkAll find slots = .ok ()) {s : Slot} (hs : s ∈ slots) {j : Json}
    (hj : find s.name = some j) : s.check j = .ok () := by
  induction slots with
  | nil => cases hs
  | cons t ts ih =>
    rw [checkAll] at h
    rcases List.mem_cons.1 hs with rfl | hs
    · rw [hj, Option.map_some] at h
      cases hcheck : s.check j with
      | error e =>
        rw [hcheck] at h
        cases h
      | ok => rfl
    · split at h
      · cases h
      · exact ih h hs

/-! ### Reading members -/

/-- The record reads `a` from the members: they pass the tests of their fields, and `a` is
built of them. -/
structure Reads (r : Record α) (ms : List (String × Json)) (a : α) : Prop where
  /-- The members pass the tests of their fields. -/
  checks : ∀ s ∈ r.slots, ∀ j, ms.lookup s.name = some j → s.check j = .ok ()
  /-- The value is what the fields build. -/
  builds : r.build ⟨fun name => ms.lookup name, .missingField⟩ = .ok a

variable {ms : List (String × Json)}

theorem Reads.field {name : String} {decode : Decoder α} {j : Json} {a : α}
    (hj : ms.lookup name = some j) (ha : decode j = .ok a) : (field name decode).Reads ms a := by
  constructor
  · intro s hs j' hj'
    obtain rfl := List.mem_singleton.1 hs
    obtain rfl := Option.some.inj (hj.symm.trans hj')
    exact Decoder.check_eq_ok ha
  · simp only [Record.field, hj, ha]

theorem Reads.both {r : Record α} {t : Record β} {a : α} {b : β} (hr : r.Reads ms a)
    (ht : t.Reads ms b) : (r.both t).Reads ms (a, b) := by
  constructor
  · intro s hs j hj
    rcases List.mem_append.1 hs with hs | hs
    · exact hr.checks s hs j hj
    · exact ht.checks s hs j hj
  · simp only [Record.both, hr.builds, ht.builds]

theorem Reads.map (f : α → β) {r : Record α} {a : α} (hr : r.Reads ms a) :
    (r.map f).Reads ms (f a) := by
  constructor
  · exact hr.checks
  · simp only [Record.map, hr.builds, Except.map]

/-- **An object decodes to what its record reads.** -/
theorem Reads.ofMembers {r : Record α} {a : α} (h : r.Reads ms a) : r.ofMembers ms = .ok a := by
  have hall : checkAll (fun name => ms.lookup name) (byName r.slots) = .ok () :=
    checkAll_eq_ok fun s hs => h.checks s (mem_byName.1 hs)
  rw [Record.ofMembers, hall]
  exact h.builds

/-- An object decodes to a value exactly when its record reads it. -/
theorem ofMembers_eq_ok_iff {r : Record α} {a : α} : r.ofMembers ms = .ok a ↔ r.Reads ms a := by
  constructor
  · intro h
    rw [Record.ofMembers] at h
    cases hall : checkAll (fun name => ms.lookup name) (byName r.slots) with
    | error e =>
      rw [hall] at h
      cases h
    | ok =>
      rw [hall] at h
      exact ⟨fun s hs _ hj => check_eq_ok_of_checkAll hall (mem_byName.2 hs) hj, h⟩
  · exact Reads.ofMembers

/-! ### What the parts read -/

/-- A field reads what its member is decoded to. -/
theorem reads_field_iff {name : String} {decode : Decoder α} {a : α} :
    (Record.field name decode).Reads ms a ↔ ∃ j, ms.lookup name = some j ∧ decode j = .ok a := by
  constructor
  · intro h
    have hbuild := h.builds
    cases hj : ms.lookup name with
    | none =>
      simp only [Record.field, hj] at hbuild
      cases hbuild
    | some j =>
      simp only [Record.field, hj] at hbuild
      exact ⟨j, rfl, hbuild⟩
  · rintro ⟨j, hj, ha⟩
    exact .field hj ha

/-- A field that may be absent reads what its member is decoded to, and its default without a
member. -/
theorem reads_optional_iff {name : String} {decode : Decoder α} {default a : α} :
    (optional name decode default).Reads ms a ↔
      (ms.lookup name = none ∧ a = default) ∨
        ∃ j, ms.lookup name = some j ∧ decode j = .ok a := by
  constructor
  · intro h
    have hbuild := h.builds
    cases hj : ms.lookup name with
    | none =>
      simp only [optional, hj] at hbuild
      exact .inl ⟨rfl, (Except.ok.inj hbuild).symm⟩
    | some j =>
      simp only [optional, hj] at hbuild
      exact .inr ⟨j, rfl, hbuild⟩
  · rintro (⟨hnone, rfl⟩ | ⟨j, hj, ha⟩)
    · constructor
      · intro s hs j hj
        obtain rfl := List.mem_singleton.1 hs
        exact nomatch hnone.symm.trans hj
      · simp only [optional, hnone]
    · exact ⟨(Reads.field hj ha).checks, by simp only [optional, hj, ha]⟩

/-- Two records read together what each of them reads. -/
theorem reads_both_iff {r : Record α} {t : Record β} {a : α} {b : β} :
    (r.both t).Reads ms (a, b) ↔ r.Reads ms a ∧ t.Reads ms b := by
  constructor
  · intro h
    have hleft := fun s hs => h.checks s (List.mem_append_left t.slots hs)
    have hright := fun s hs => h.checks s (List.mem_append_right r.slots hs)
    have hbuild := h.builds
    simp only [Record.both] at hbuild
    split at hbuild
    · cases hbuild
    · next hr =>
      split at hbuild
      · cases hbuild
      · next ht =>
        cases hbuild
        exact ⟨⟨hleft, hr⟩, ⟨hright, ht⟩⟩
  · rintro ⟨hr, ht⟩
    exact hr.both ht

/-- What is read through a function comes from something read without it. -/
theorem reads_map_iff {f : α → β} {r : Record α} {b : β} :
    (r.map f).Reads ms b ↔ ∃ a, r.Reads ms a ∧ f a = b := by
  constructor
  · intro h
    have hbuild := h.builds
    simp only [Record.map] at hbuild
    cases hr : r.build ⟨fun name => ms.lookup name, .missingField⟩ with
    | error e =>
      rw [hr] at hbuild
      cases hbuild
    | ok a =>
      rw [hr] at hbuild
      exact ⟨a, ⟨h.checks, hr⟩, Except.ok.inj hbuild⟩
  · rintro ⟨a, hr, rfl⟩
    exact hr.map f

end Record

end DocSearch
