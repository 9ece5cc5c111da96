import DocSearch.Filter.Reader
import DocSearch.Proofs.Decoding.Basic
import DocSearch.Proofs.Decoding.Record

/-!
# The grammar of filters

What a document has to look like to be a filter, told by its members and without reading
it.  The lenient reader takes exactly the documents of this grammar and gives the filter
that they are; any other document is refused because of its first item that is no
predicate, or because it lists no items at all.

The uniform reader knows a predicate by place as well as by name, so the two readers
part where an item is a list, and at `filters` being the absent value.  On objects that
list only objects they take the same documents.

## Main definitions

* `Scalar.Written`, `Predicate.Written`, `Filter.Written` — the grammar.
* `Filter.Lists` — the items that a document lists as predicates.
* `Predicate.Refused` — how a document that is no predicate is refused.
* `Filter.ListsObjects` — the objects that list only objects.

## Main results

* `Predicate.ofJson_eq_ok_iff`, `Predicate.decode_object_eq_ok_iff` — the readers of
  predicates take the grammar.
* `Filter.ofJson_grammar` — **the lenient reader takes exactly the grammar**, and refuses
  anything else because of its first fault.
* `Filter.readers_agree` — **the two readers agree** on objects that list only objects.
-/

namespace DocSearch

/-! ### The grammar -/

/-- The document is the scalar, written out.  A moment is not written as itself. -/
inductive Scalar.Written : Json → Scalar → Prop
  /-- A truth value. -/
  | bool (b : Bool) : Written (.bool b) (.bool b)
  /-- A number. -/
  | number (n : Json.Number) : Written (.number n) (.number n)
  /-- A text. -/
  | text (s : String) : Written (.string s) (.text s)

/-- The document is the predicate, written out as an object; members of other names may stand
beside these. -/
inductive Predicate.Written : Json → Predicate → Prop
  /-- A field has a value. -/
  | equals {ms : List (String × Json)} {name : String} {j : Json} {value : Scalar}
      (hkind : ms.lookup "kind" = some (.string "and"))
      (hname : ms.lookup "propertyName" = some (.string name))
      (hj : ms.lookup "propertyValue" = some j) (hvalue : Scalar.Written j value) :
      Written (.object ms) (.equals name value)
  /-- A field does not have a value. -/
  | differs {ms : List (String × Json)} {name : String} {j : Json} {value : Scalar}
      (hkind : ms.lookup "kind" = some (.string "andNot"))
      (hname : ms.lookup "propertyName" = some (.string name))
      (hj : ms.lookup "propertyValue" = some j) (hvalue : Scalar.Written j value) :
      Written (.object ms) (.differs name value)
  /-- A field has a value between two others. -/
  | between {ms : List (String × Json)} {name : String} {i j : Json} {low high : Scalar}
      (hkind : ms.lookup "kind" = some (.string "between"))
      (hname : ms.lookup "propertyName" = some (.string name))
      (hi : ms.lookup "leftValue" = some i) (hlow : Scalar.Written i low)
      (hj : ms.lookup "rightValue" = some j) (hhigh : Scalar.Written j high) :
      Written (.object ms) (.between name low high)

/-- The error with which a document that is no predicate is refused. -/
inductive Predicate.Refused (j : Json) : SearchError → Prop
  /-- Its kind is a text, but none of the three. -/
  | unknownKind {s : String} (hs : j.get? "kind" = some (.string s))
      (hunknown : s ∉ ["and", "andNot", "between"]) : Refused j (.unsupportedKind s)
  /-- Something else is wrong with it. -/
  | malformed (fault : FilterFault) (hj : ∀ p, ¬ Written j p)
      (hkind : ∀ s, j.get? "kind" = some (.string s) → s ∈ ["and", "andNot", "between"]) :
      Refused j (.invalidFilter fault)

namespace Filter

/-- The items that a document lists as predicates. -/
inductive Lists : Json → List Json → Prop
  /-- A list lists its items. -/
  | items (items : List Json) : Lists (.array items) items
  /-- An object lists the items of its member `filters`. -/
  | member {ms : List (String × Json)} {items : List Json}
      (h : ms.lookup "filters" = some (.array items)) : Lists (.object ms) items
  /-- An object lists nothing when that member is the absent value. -/
  | null {ms : List (String × Json)} (h : ms.lookup "filters" = some .null) :
      Lists (.object ms) []
  /-- An object without that member lists nothing. -/
  | absent {ms : List (String × Json)} (h : ms.lookup "filters" = none) :
      Lists (.object ms) []

/-- The document is the filter, written out: it lists the predicates in order. -/
def Written (j : Json) (f : Filter) : Prop :=
  ∃ items, Lists j items ∧ List.Forall₂ Predicate.Written items f.predicates

/-- The document is an object, and if it has a member `filters`, then that is a list of
objects. -/
def ListsObjects (j : Json) : Prop :=
  ∃ ms, j = .object ms ∧ ∀ filters, ms.lookup "filters" = some filters →
    ∃ items, filters = .array items ∧ ∀ item ∈ items, item.isObject = true

end Filter

/-! ### Scalars -/

namespace Scalar

theorem decode_eq_ok_iff {j : Json} {v : Scalar} : decode j = .ok v ↔ Written j v := by
  constructor
  · intro h
    cases j with
    | bool b => exact Except.ok.inj h ▸ .bool b
    | number n => exact Except.ok.inj h ▸ .number n
    | string s => exact Except.ok.inj h ▸ .text s
    | null | array _ | object _ => cases h
  · rintro (_ | _ | _) <;> rfl

theorem ofJson?_eq_some_iff {j : Json} {v : Scalar} : ofJson? j = some v ↔ Written j v := by
  constructor
  · intro h
    cases j with
    | bool b => exact Option.some.inj h ▸ .bool b
    | number n => exact Option.some.inj h ▸ .number n
    | string s => exact Option.some.inj h ▸ .text s
    | null | array _ | object _ => cases h
  · rintro (_ | _ | _) <;> rfl

end Scalar

/-! ### Predicates -/

theorem FilterKind.ofName?_eq_none_iff {s : String} :
    ofName? s = none ↔ s ∉ ["and", "andNot", "between"] := by
  simp only [ofName?]
  grind

namespace Predicate

variable {ms : List (String × Json)} {p : Predicate}

theorem reads_singleRecord_iff {name : String} {value : Scalar} :
    singleRecord.Reads ms (name, value) ↔
      ms.lookup "propertyName" = some (.string name) ∧
        ∃ j, ms.lookup "propertyValue" = some j ∧ Scalar.Written j value := by
  simp [singleRecord, Record.reads_both_iff, Record.reads_field_iff, Decoder.text_eq_ok_iff,
    Scalar.decode_eq_ok_iff]

theorem reads_rangeRecord_iff {name : String} {low high : Scalar} :
    rangeRecord.Reads ms (name, low, high) ↔
      ms.lookup "propertyName" = some (.string name) ∧
        (∃ i, ms.lookup "leftValue" = some i ∧ Scalar.Written i low) ∧
          ∃ j, ms.lookup "rightValue" = some j ∧ Scalar.Written j high := by
  simp [rangeRecord, Record.reads_both_iff, Record.reads_field_iff, Decoder.text_eq_ok_iff,
    Scalar.decode_eq_ok_iff]

/-- An object is a predicate exactly when it names a kind and has the fields of that kind. -/
theorem written_object_iff :
    Written (.object ms) p ↔
      ∃ k : FilterKind, ms.lookup "kind" = some (.string k.name) ∧ (record k).Reads ms p := by
  constructor
  · rintro (⟨hkind, hname, hj, hvalue⟩ | ⟨hkind, hname, hj, hvalue⟩ |
      ⟨hkind, hname, hi, hlow, hj, hhigh⟩)
    · exact ⟨.and, hkind, (reads_singleRecord_iff.2 ⟨hname, _, hj, hvalue⟩).map _⟩
    · exact ⟨.andNot, hkind, (reads_singleRecord_iff.2 ⟨hname, _, hj, hvalue⟩).map _⟩
    · exact ⟨.between, hkind,
        (reads_rangeRecord_iff.2 ⟨hname, ⟨_, hi, hlow⟩, _, hj, hhigh⟩).map _⟩
  · rintro ⟨k, hkind, hreads⟩
    cases k with
    | and =>
      obtain ⟨⟨name, value⟩, hr, rfl⟩ := Record.reads_map_iff.1 hreads
      obtain ⟨hname, j, hj, hvalue⟩ := reads_singleRecord_iff.1 hr
      exact .equals hkind hname hj hvalue
    | andNot =>
      obtain ⟨⟨name, value⟩, hr, rfl⟩ := Record.reads_map_iff.1 hreads
      obtain ⟨hname, j, hj, hvalue⟩ := reads_singleRecord_iff.1 hr
      exact .differs hkind hname hj hvalue
    | between =>
      obtain ⟨⟨name, low, high⟩, hr, rfl⟩ := Record.reads_map_iff.1 hreads
      obtain ⟨hname, ⟨i, hi, hlow⟩, j, hj, hhigh⟩ := reads_rangeRecord_iff.1 hr
      exact .between hkind hname hi hlow hj hhigh

theorem decodeKind_eq_ok_iff {j : Json} {k : FilterKind} :
    decodeKind j = .ok k ↔ j = .string k.name := by
  cases j with
  | string s =>
    rw [decodeKind, lookup_tags, Json.string.injEq, ← FilterKind.ofName?_eq_some_iff]
    cases FilterKind.ofName? s <;> simp
  | _ => simp [decodeKind]

/-- The uniform reader takes the objects that are predicates. -/
theorem decode_object_eq_ok_iff : decode (.object ms) = .ok p ↔ Written (.object ms) p := by
  rw [written_object_iff]
  simp only [decode, ← Record.ofMembers_eq_ok_iff]
  cases hj : ms.lookup "kind" with
  | none => simp
  | some j =>
    simp only [Option.some.injEq, ← decodeKind_eq_ok_iff]
    cases decodeKind j <;> simp

/-- The uniform reader takes an object by its members, and so a list of objects. -/
theorem forall₂_decode_iff {items : List Json} (hobjects : ∀ item ∈ items, item.isObject = true)
    {ps : List Predicate} :
    List.Forall₂ (fun j p => decode j = .ok p) items ps ↔ List.Forall₂ Written items ps := by
  -- On a list of fields the two part: the uniform reader would take it by place.
  have hitem : ∀ j p, j.isObject = true → (decode j = .ok p ↔ Written j p) := by
    intro j p hj
    cases j with
    | object ms => exact decode_object_eq_ok_iff
    | null | bool _ | number _ | string _ | array _ => cases hj
  constructor
  · intro h
    exact ((List.forall₂_and_left _ _).2 ⟨hobjects, h⟩).imp fun j p hp => (hitem j p hp.1).1 hp.2
  · intro h
    exact ((List.forall₂_and_left _ _).2 ⟨hobjects, h⟩).imp fun j p hp => (hitem j p hp.1).2 hp.2

/-- A document that is a predicate names its kind. -/
theorem Written.get?_kind {j : Json} (h : Written j p) :
    j.get? "kind" = some (.string p.kind.name) := by
  cases h <;> assumption

/-- The lenient reader takes exactly the documents that are predicates. -/
theorem ofJson_eq_ok_iff {j : Json} : ofJson j = .ok p ↔ Written j p := by
  constructor
  · intro h
    cases j with
    | object ms =>
      rw [ofJson] at h
      split at h
      · split at h
        · cases h
        · split at h
          · next q hq =>
            cases h
            exact decode_object_eq_ok_iff.1 hq
          · cases h
      · cases h
    | null | bool _ | number _ | string _ | array _ => cases h
  · intro h
    rw [ofJson, h.get?_kind]
    cases j with
    | object ms => simp only [FilterKind.ofName?_name, decode_object_eq_ok_iff.2 h]
    | null | bool _ | number _ | string _ | array _ => cases h

/-- The lenient reader refuses other documents for an unknown kind or for being malformed. -/
theorem refused_of_ofJson {j : Json} {e : SearchError} (h : ofJson j = .error e) :
    Refused j e := by
  have hj : ∀ p, ¬ Written j p := by
    intro p hp
    rw [ofJson_eq_ok_iff.2 hp] at h
    cases h
  -- The reader looks for a text as the kind, then for its name, and only then at the fields.
  rw [ofJson] at h
  split at h
  · next s hs =>
    split at h
    · next hname =>
      cases h
      exact .unknownKind hs (FilterKind.ofName?_eq_none_iff.1 hname)
    · next k hname =>
      have hknown : s ∈ ["and", "andNot", "between"] := by
        by_contra hs
        exact nomatch (FilterKind.ofName?_eq_none_iff.2 hs).symm.trans hname
      split at h
      · cases h
      · cases h
        refine .malformed _ hj fun t ht => ?_
        cases hs.symm.trans ht
        exact hknown
  · next hkind =>
    cases h
    exact .malformed _ hj fun s hs => absurd hs (hkind s)

/-- Predicates are read one by one. -/
theorem ofJsons_eq_ok_iff {js : List Json} {ps : List Predicate} :
    ofJsons js = .ok ps ↔ List.Forall₂ Written js ps := by
  induction js generalizing ps with
  | nil => simp [ofJsons, eq_comm]
  | cons j js ih =>
    rw [List.forall₂_cons_left_iff, ofJsons]
    simp only [← ofJson_eq_ok_iff, ← ih]
    cases ofJson j with
    | error e => simp
    | ok p => cases ofJsons js <;> simp [eq_comm]

/-- Reading stops at the first document that is no predicate, and with its error. -/
theorem exists_refused_of_ofJsons {js : List Json} {e : SearchError}
    (h : ofJsons js = .error e) :
    ∃ pre bad post, js = pre ++ bad :: post ∧ (∀ j ∈ pre, ∃ p, Written j p) ∧
      ofJson bad = .error e := by
  induction js with
  | nil => cases h
  | cons j js ih =>
    rw [ofJsons] at h
    cases hj : ofJson j with
    | error e' =>
      rw [hj] at h
      cases h
      exact ⟨[], j, js, rfl, by simp, hj⟩
    | ok p =>
      cases hjs : ofJsons js with
      | ok ps =>
        rw [hj, hjs] at h
        cases h
      | error e' =>
        rw [hj, hjs] at h
        cases h
        obtain ⟨pre, bad, post, rfl, hpre, hbad⟩ := ih hjs
        refine ⟨j :: pre, bad, post, rfl, ?_, hbad⟩
        rintro i (_ | ⟨_, hi⟩)
        · exact ⟨p, ofJson_eq_ok_iff.1 hj⟩
        · exact hpre i hi

end Predicate

/-! ### Filters -/

namespace Filter

/-- What a document lists is all that the lenient reader looks at. -/
theorem Lists.ofJson_eq {j : Json} {items : List Json} (h : Lists j items) :
    ofJson j = ofItems items := by
  cases h with
  | items => rfl
  | member h => simp only [ofJson, h]
  | null h => simp only [ofJson, h, ofItems, Predicate.ofJsons, empty]
  | absent h => simp only [ofJson, h, ofItems, Predicate.ofJsons, empty]

/-- A document lists something, or the lenient reader takes it for malformed. -/
theorem exists_lists_or_malformed (j : Json) :
    (∃ items, Lists j items) ∨
      (∀ items, ¬ Lists j items) ∧ ∃ fault, ofJson j = .error (.invalidFilter fault) := by
  cases j with
  | array items => exact .inl ⟨items, .items items⟩
  | object ms =>
    cases hfilters : ms.lookup "filters" with
    | none => exact .inl ⟨[], .absent hfilters⟩
    | some filters =>
      cases filters with
      | null => exact .inl ⟨[], .null hfilters⟩
      | array items => exact .inl ⟨items, .member hfilters⟩
      | bool _ | number _ | string _ | object _ =>
        refine .inr ⟨?_, .filtersNotAList, by simp only [ofJson, hfilters]⟩
        rintro items (_ | h | h | h) <;> cases hfilters.symm.trans h
  | null | bool _ | number _ | string _ => exact .inr ⟨nofun, .notAFilter, rfl⟩

theorem ofItems_eq_ok_iff {items : List Json} {f : Filter} :
    ofItems items = .ok f ↔ List.Forall₂ Predicate.Written items f.predicates := by
  rw [← Predicate.ofJsons_eq_ok_iff, ofItems]
  cases Predicate.ofJsons items with
  | error e => simp
  | ok ps => rw [Except.ok.injEq, Except.ok.injEq, ← Filter.mk.injEq]

/-- The lenient reader takes exactly the documents that are filters. -/
theorem ofJson_eq_ok_iff {j : Json} {f : Filter} : ofJson j = .ok f ↔ Written j f := by
  constructor
  · intro h
    rcases exists_lists_or_malformed j with ⟨items, hitems⟩ | ⟨-, fault, hfault⟩
    · rw [hitems.ofJson_eq] at h
      exact ⟨items, hitems, ofItems_eq_ok_iff.1 h⟩
    · exact nomatch hfault.symm.trans h
  · rintro ⟨items, hitems, hf⟩
    rw [hitems.ofJson_eq]
    exact ofItems_eq_ok_iff.2 hf

/-- **The lenient reader takes exactly the grammar.**  A document is read as a filter exactly
when it is that filter, written out.  It is refused, as an invalid filter, for listing no
items; or else because of the first of its items that is no predicate and with the error
that this item has on its own: an unsupported kind when it has a kind that is a text but
none of the three, and an invalid filter otherwise. -/
theorem ofJson_grammar (j : Json) :
    (∀ f, ofJson j = .ok f ↔ Written j f) ∧
      ∀ e, ofJson j = .error e →
        ((∀ items, ¬ Lists j items) ∧ ∃ fault, e = .invalidFilter fault) ∨
          ∃ pre bad post, Lists j (pre ++ bad :: post) ∧
            (∀ item ∈ pre, ∃ p, Predicate.Written item p) ∧
            Predicate.ofJson bad = .error e ∧ Predicate.Refused bad e := by
  refine ⟨fun f => ofJson_eq_ok_iff, fun e h => ?_⟩
  rcases exists_lists_or_malformed j with ⟨items, hitems⟩ | ⟨hnone, fault, hfault⟩
  · right
    rw [hitems.ofJson_eq, ofItems] at h
    split at h
    · next e' hitems' =>
      cases h
      obtain ⟨pre, bad, post, rfl, hpre, hbad⟩ := Predicate.exists_refused_of_ofJsons hitems'
      exact ⟨pre, bad, post, hitems, hpre, hbad, Predicate.refused_of_ofJson hbad⟩
    · cases h
  · left
    cases hfault.symm.trans h
    exact ⟨hnone, fault, rfl⟩

/-- A filter whose second item lacks the end of its range, before an item of unknown kind. -/
theorem ofJson_grammar_second_item :
    let equals := Json.object [("kind", .string "and"), ("note", .null),
      ("propertyName", .string "of"), ("propertyValue", .bool true)]
    let range := Json.object [("kind", .string "between"), ("leftValue", .string "1"),
      ("propertyName", .string "at")]
    let j := Json.array [equals, range, .object [("kind", .string "or")]]
    let e := SearchError.invalidFilter (.undecodable (.missingField "rightValue"))
    ofJson j = .error e ∧ ∃ pre bad post, Lists j (pre ++ bad :: post) ∧
      (∀ item ∈ pre, ∃ p, Predicate.Written item p) ∧
      Predicate.ofJson bad = .error e ∧ Predicate.Refused bad e := by
  intro equals range j e
  have he : ofJson j = .error e := by decide +kernel
  rcases (ofJson_grammar j).2 e he with ⟨hnone, -⟩ | hbad
  · exact absurd (.items _) (hnone _)
  · exact ⟨he, hbad⟩

/-! ### The uniform reader -/

/-- The uniform reader takes an object without `filters`, or with a list of predicates there. -/
theorem decode_object_eq_ok_iff {ms : List (String × Json)} {f : Filter} :
    decode (.object ms) = .ok f ↔
      (ms.lookup "filters" = none ∧ f = empty) ∨
        ∃ items, ms.lookup "filters" = some (.array items) ∧
          List.Forall₂ (fun j p => Predicate.decode j = .ok p) items f.predicates := by
  rw [decode, Record.decode_object, Record.ofMembers_eq_ok_iff, record, Record.reads_map_iff]
  constructor
  · rintro ⟨ps, hps, rfl⟩
    rcases Record.reads_optional_iff.1 hps with ⟨hnone, rfl⟩ | ⟨j, hj, hdecode⟩
    · exact .inl ⟨hnone, rfl⟩
    · obtain ⟨items, rfl, hitems⟩ := Decoder.listOf_eq_ok_iff.1 hdecode
      exact .inr ⟨items, hj, hitems⟩
  · rintro (⟨hnone, rfl⟩ | ⟨items, hitems, hps⟩)
    · exact ⟨[], Record.reads_optional_iff.2 (.inl ⟨hnone, rfl⟩), rfl⟩
    · refine ⟨f.predicates, Record.reads_optional_iff.2 (.inr ⟨_, hitems, ?_⟩), rfl⟩
      exact Decoder.listOf_eq_ok_iff.2 ⟨items, rfl, hps⟩

/-- The uniform reader takes the grammar on objects that list only objects. -/
theorem ListsObjects.decode_eq_ok_iff {j : Json} (hj : ListsObjects j) {f : Filter} :
    decode j = .ok f ↔ Written j f := by
  obtain ⟨ms, rfl, hfilters⟩ := hj
  rw [decode_object_eq_ok_iff]
  constructor
  · rintro (⟨hnone, rfl⟩ | ⟨items, hitems, hps⟩)
    · exact ⟨[], .absent hnone, .nil⟩
    · obtain ⟨_, ⟨⟩, hobjects⟩ := hfilters _ hitems
      exact ⟨items, .member hitems, (Predicate.forall₂_decode_iff hobjects).1 hps⟩
  · rintro ⟨items, hitems, hps⟩
    cases hitems with
    | member h =>
      obtain ⟨_, ⟨⟩, hobjects⟩ := hfilters _ h
      exact .inr ⟨items, h, (Predicate.forall₂_decode_iff hobjects).2 hps⟩
    | null h =>
      obtain ⟨_, ⟨⟩, -⟩ := hfilters _ h
    | absent h => exact .inl ⟨h, congrArg Filter.mk (List.forall₂_nil_left_iff.1 hps)⟩

/-- **The two readers agree** on every object without `filters` or with a list of objects
there, as to whether it is a filter and which; and on every document as to whether it is a
scalar and which. -/
theorem readers_agree :
    (∀ j f, ListsObjects j → (ofJson j = .ok f ↔ decode j = .ok f)) ∧
      ∀ j v, Scalar.ofJson? j = some v ↔ Scalar.decode j = .ok v := by
  constructor
  · intro j f hj
    rw [ofJson_eq_ok_iff, hj.decode_eq_ok_iff]
  · intro j v
    rw [Scalar.ofJson?_eq_some_iff, Scalar.decode_eq_ok_iff]

/-- A range with a member that no reader looks at. -/
theorem readers_agree_range :
    let range := Json.object [("kind", .string "between"), ("leftValue", .bool true),
      ("note", .null), ("propertyName", .string "at"), ("rightValue", .string "9")]
    let j := Json.object [("filters", .array [range]), ("limit", .string "3")]
    let f : Filter := ⟨[.between "at" (.bool true) (.text "9")]⟩
    ListsObjects j ∧ ofJson j = .ok f ∧ decode j = .ok f := by
  intro range j f
  have hj : ListsObjects j := by
    refine ⟨_, rfl, fun filters hfilters => ⟨[range], ?_, ?_⟩⟩
    · exact (Option.some.inj hfilters).symm
    · simp [range]
  have hf : ofJson j = .ok f := by decide +kernel
  exact ⟨hj, hf, (readers_agree.1 j f hj).1 hf⟩

end Filter

end DocSearch
