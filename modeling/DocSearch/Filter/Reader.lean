import DocSearch.Decoding.Record
import DocSearch.Filter.Basic
import DocSearch.Json.Reader

/-!
# Reading filters

There are two readers.  The lenient one takes a filter as an object with a list `filters`
or as that list itself, and tells kinds that there are not from other faults.  The uniform
one takes filters and predicates as records, by name or by place.

## Main definitions

* `Predicate.decode`, `Filter.decode` — the uniform reader.
* `Predicate.ofJson`, `Filter.ofJson` — the lenient reader.
* `Filter.ofText` — the lenient reader on the text of a document.

## References

`from_value` and `from_str` of `Filter` and `Filtering`, and their derived readers.
-/

namespace DocSearch

namespace Predicate

/-- The name of a field and one value. -/
def singleRecord : Record (String × Scalar) :=
  (Record.field "propertyName" Decoder.text).both (Record.field "propertyValue" Scalar.decode)

/-- The name of a field and two values. -/
def rangeRecord : Record (String × Scalar × Scalar) :=
  (Record.field "propertyName" Decoder.text).both
    ((Record.field "leftValue" Scalar.decode).both (Record.field "rightValue" Scalar.decode))

/-- The fields of a predicate of a kind. -/
def record : FilterKind → Record Predicate
  | .and => singleRecord.map fun r => .equals r.1 r.2
  | .andNot => singleRecord.map fun r => .differs r.1 r.2
  | .between => rangeRecord.map fun r => .between r.1 r.2.1 r.2.2

/-- What the fields of a predicate of a kind are called together. -/
def title : FilterKind → String
  | .and => "EqualityFilter"
  | .andNot => "EqualityFilter"
  | .between => "RangeFilter"

/-- The kinds under the names that the uniform reader knows them by. -/
def tags : List (String × FilterKind) :=
  [("and", .and), ("andNot", .andNot), ("between", .between)]

/-- The uniform reader knows the kinds by the same names as the lenient one. -/
theorem lookup_tags (s : String) : tags.lookup s = FilterKind.ofName? s := by
  simp only [tags, FilterKind.ofName?, List.lookup_cons, List.lookup_nil]
  grind

/-- A kind by its name. -/
def decodeKind : Decoder FilterKind
  | .string s =>
    match tags.lookup s with
    | some k => .ok k
    | none => .error (.unknownVariant s (tags.map (·.1)))
  | j => .error (.invalidType j.found "variant identifier")

/-- A predicate from an object with the member `kind`, or from a list whose first item is
the kind. -/
def decode : Decoder Predicate
  | .object ms =>
    match ms.lookup "kind" with
    | none => .error (.missingField "kind")
    | some j =>
      match decodeKind j with
      | .error e => .error e
      | .ok k => (record k).ofMembers ms
  | .array [] => .error (.missingField "kind")
  | .array (j :: items) =>
    match decodeKind j with
    | .error e => .error e
    | .ok k =>
      (record k).ofItems (title k)
        (Record.countText (record k).slots.length "element" ++ " in sequence") items
  | j => .error (.invalidType j.found "internally tagged enum Filtering")

/-- A predicate from an object whose member `kind` names a kind. -/
def ofJson (j : Json) : Outcome Predicate :=
  match j.get? "kind" with
  | some (.string s) =>
    match FilterKind.ofName? s with
    | none => .error (.unsupportedKind s)
    | some _ =>
      match decode j with
      | .ok p => .ok p
      | .error e => .error (.invalidFilter (.undecodable e))
  | _ => .error (.invalidFilter .kindMissing)

/-- Predicates from documents, up to the first fault. -/
def ofJsons : List Json → Outcome (List Predicate)
  | [] => .ok []
  | j :: js =>
    match ofJson j with
    | .error e => .error e
    | .ok p =>
      match ofJsons js with
      | .error e => .error e
      | .ok ps => .ok (p :: ps)

end Predicate

namespace Filter

/-- The fields of a filter. -/
def record : Record Filter :=
  (Record.optional "filters" (Decoder.listOf Predicate.decode) []).map .mk

/-- A filter as a record. -/
def decode : Decoder Filter := record.decode "Filter"

/-- A filter from a list of predicates. -/
def ofItems (items : List Json) : Outcome Filter :=
  match Predicate.ofJsons items with
  | .error e => .error e
  | .ok ps => .ok ⟨ps⟩

/-- A filter from an object with the list `filters`, or from that list. -/
def ofJson : Json → Outcome Filter
  | .object ms =>
    match ms.lookup "filters" with
    | some (.array items) => ofItems items
    | some .null => .ok empty
    | none => .ok empty
    | some _ => .error (.invalidFilter .filtersNotAList)
  | .array items => ofItems items
  | _ => .error (.invalidFilter .notAFilter)

/-- A filter from the text of a document. -/
def ofText (s : String) : Outcome Filter :=
  match Json.read? s.toList with
  | some j => ofJson j
  | none => .error (.invalidFilter .notADocument)

end Filter

end DocSearch
