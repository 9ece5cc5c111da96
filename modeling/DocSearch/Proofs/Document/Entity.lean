import DocSearch.Document.Entity
import DocSearch.Proofs.Decoding.Record
import DocSearch.Proofs.Scalar.Printed

/-!
# Entities are decoded from their documents

A plain moment and a moment in universal time are written in two forms, and each form has a
reader of its own.  Both readers give the moment back, whatever its year, its fraction or its
second.  A document is an object, and what a record reads from it does not depend on the order
of its members; so an entity whose members go in among those of its identity is decoded to
itself.

## Main results

* `DateTime.stored_text` — a plain moment is read from its text.
* `DateTime.zoned_utcText` — a moment in universal time is read from its text.
* `Identity.reads` — an identity is read from an object that has its members.
* `Tepix.decode_toJson` — **a value is decoded from its document.**
-/

namespace DocSearch

/-! ### Moments -/

/-- **A plain moment is read from its text.** -/
theorem DateTime.stored_text (t : DateTime) : stored t.text = .ok t := by
  have hread := scanMoment_text Spelling.readsPlain_plain t fractionEnd_nil
  rw [List.append_nil] at hread
  simp only [stored, hread, bind, Except.bind]
  exact momentOf_parts t

/-- **A moment in universal time is read from its text.** -/
theorem DateTime.zoned_utcText (t : DateTime) : zoned t.utcText = .ok t := by
  have hend : FractionEnd ['Z'] := by
    rintro c ⟨⟩
    decide
  have hread := scanMoment_text Spelling.readsPlain_loose t hend
  have hzone : scanZone (Text.trimLeft ['Z']) = .ok (0, []) := by rfl
  have hblank : Text.isBlankText [] = true := rfl
  simp only [zoned, utcText, hread, hzone, hblank, momentOf_parts, bind, Except.bind]
  rw [atOffset?_zero]
  rfl

theorem Decoder.dateTime_storedText (t : DateTime) :
    dateTime (.string (String.ofList t.storedText)) = .ok t := by
  rw [dateTime, String.toList_ofList, t.storedText_eq, DateTime.stored_text]
  rfl

theorem Decoder.instant_utcText (t : DateTime) :
    instant (.string (String.ofList t.utcText)) = .ok t := by
  rw [instant, String.toList_ofList, DateTime.zoned_utcText]
  rfl

/-! ### Entities -/

/-- An identity is read from an object that has its members, among whatever others. -/
theorem Identity.reads {κ : Type} {decode : Decoder κ} {write : κ → Json}
    (hid : ∀ id, decode (write id) = .ok id) (e : Identity κ) {ms : List (String × Json)}
    (hms : ∀ m ∈ e.members write, ms.lookup m.1 = some m.2) :
    (Identity.record decode).Reads ms e := by
  have hmembers := List.forall_mem_cons.1 hms
  have hidField : (Record.field "id" decode).Reads ms e.id := .field hmembers.1 (hid e.id)
  have hstamp : (Record.field "timeStamp" Decoder.instant).Reads ms e.timeStamp :=
    .field (hmembers.2 _ List.mem_cons_self) (Decoder.instant_utcText e.timeStamp)
  exact (hidField.both hstamp).map fun r : κ × DateTime => (⟨r.1, r.2⟩ : Identity κ)

/-- An identity alone is decoded from its document. -/
theorem Identity.decode_toJson {κ : Type} {decode : Decoder κ} {write : κ → Json}
    (hid : ∀ id, decode (write id) = .ok id) (e : Identity κ) :
    Identity.decode decode (e.toJson write) = .ok e := by
  refine (Identity.reads hid e fun m hm => ?_).ofMembers
  simp only [members, List.mem_cons, List.not_mem_nil, or_false] at hm
  rcases hm with rfl | rfl <;> rfl

/-- **A value is decoded from its document**, its own members as well as those of its
identity. -/
theorem Tepix.decode_toJson (t : Tepix) : decode t.toJson = .ok t := by
  obtain ⟨ms, hms⟩ : ∃ ms, t.toJson = .object ms := ⟨_, rfl⟩
  have hlookup : ms.lookup "dateTime" = some (.string (String.ofList t.dateTime.storedText)) ∧
      ms.lookup "insertDateTime" = some (.string (String.ofList t.insertDateTime.storedText)) ∧
      ms.lookup "indexValue" = some (.string t.indexValue) ∧
      ∀ m ∈ t.base.members .string, ms.lookup m.1 = some m.2 := by
    rw [toJson, Json.object.injEq] at hms
    subst hms
    refine ⟨rfl, rfl, rfl, fun m hm => ?_⟩
    simp only [Identity.members, List.mem_cons, List.not_mem_nil, or_false] at hm
    rcases hm with rfl | rfl <;> rfl
  obtain ⟨hdate, hinsert, hvalue, hbase⟩ := hlookup
  have hown : record.Reads ms (t.dateTime, t.insertDateTime, t.indexValue) :=
    .both (.field hdate (Decoder.dateTime_storedText _))
      (.both (.field hinsert (Decoder.dateTime_storedText _)) (.field hvalue rfl))
  have hidentity : (Identity.record Decoder.text).Reads ms t.base :=
    Identity.reads Decoder.text_string t.base hbase
  rw [hms, decode]
  simp only [hown.ofMembers, hidentity.ofMembers]

end DocSearch
