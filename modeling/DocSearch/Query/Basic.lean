import DocSearch.Decoding.Choice
import DocSearch.Error

/-!
# Queries

What a filter or a text to search for is compiled to.

## Main definitions

* `Clause` — one condition on a stored field.
* `Groups` — the clauses that have to hold and those that must not.
* `Query` — the queries.
* `Query.toJson`, `Query.decode` — queries as documents.

## References

`Clause`, `BoolQuery`, `MultiMatchQuery` and `Query`.
-/

namespace DocSearch

/-- A condition on a stored field. -/
inductive Clause
  /-- The field has the value. -/
  | equals (field : String) (value : Scalar)
  /-- The field has a value from `low` to `high`, both included. -/
  | range (field : String) (low high : Scalar)
  deriving DecidableEq, Repr

namespace Clause

/-- The field that a clause is about. -/
def field : Clause → String
  | .equals field _ => field
  | .range field _ _ => field

/-- A clause as a document. -/
def toJson : Clause → Json
  | .equals field value =>
    .object [("equals", .object [("field", .string field), ("value", value.serialized)])]
  | .range field low high =>
    .object
      [("range", .object [("field", .string field), ("gte", low.serialized), ("lte", high.serialized)])]

/-- The fields of an equality. -/
def equalsRecord : Record Clause :=
  ((Record.field "field" Decoder.text).both (Record.field "value" Scalar.decode)).map
    fun r => .equals r.1 r.2

/-- The fields of a range. -/
def rangeRecord : Record Clause :=
  ((Record.field "field" Decoder.text).both
    ((Record.field "gte" Scalar.decode).both (Record.field "lte" Scalar.decode))).map
      fun r => .range r.1 r.2.1 r.2.2

/-- A clause from a document. -/
def decode : Decoder Clause :=
  Chosen.decode [("equals", Chosen.record equalsRecord), ("range", Chosen.record rangeRecord)]

/-- The clause that is left of another after it has been a document. -/
def settled : Clause → Clause
  | .equals field value => .equals field value.settled
  | .range field low high => .range field low.settled high.settled

end Clause

/-- Clauses that have to hold, and clauses that must not. -/
structure Groups where
  /-- The clauses that have to hold. -/
  must : List Clause
  /-- The clauses that must not hold. -/
  mustNot : List Clause
  deriving DecidableEq, Repr

namespace Groups

/-- Whether there are no clauses. -/
def isEmpty (g : Groups) : Bool := g.must.isEmpty && g.mustNot.isEmpty

/-- The groups as a document. -/
def toJson (g : Groups) : Json :=
  .object
    [("must", .array (g.must.map (·.toJson))), ("must_not", .array (g.mustNot.map (·.toJson)))]

/-- The fields of the groups. -/
def record : Record Groups :=
  ((Record.field "must" (Decoder.listOf Clause.decode)).both
    (Record.field "must_not" (Decoder.listOf Clause.decode))).map fun r => ⟨r.1, r.2⟩

end Groups

/-- A query. -/
inductive Query
  /-- Every document. -/
  | matchAll
  /-- The documents that the groups admit. -/
  | bool (groups : Groups)
  /-- The documents with a word of the text in one of the fields. -/
  | multiMatch (text : String) (fields : List String)
  deriving DecidableEq, Repr

/-- The name that stands for every field. -/
def allFields : String := "*"

namespace Query

/-- Whether a query is the one for every document. -/
def isMatchAll : Query → Bool
  | .matchAll => true
  | _ => false

/-- The groups of a query that has them. -/
def groups? : Query → Option Groups
  | .bool g => some g
  | _ => none

/-- A query as a document. -/
def toJson : Query → Json
  | .matchAll => .string "match_all"
  | .bool g => .object [("bool", g.toJson)]
  | .multiMatch text fields =>
    .object [("multi_match", .object [("fields", .ofTexts fields), ("text", .string text)])]

/-- The fields of a query for words. -/
def multiMatchRecord : Record Query :=
  ((Record.field "text" Decoder.text).both
    (Record.field "fields" (Decoder.listOf Decoder.text))).map fun r => .multiMatch r.1 r.2

/-- A query from a document. -/
def decode : Decoder Query :=
  Chosen.decode
    [("match_all", Chosen.unit .matchAll),
      ("bool", fun c => (Chosen.value (Groups.record.decode "BoolQuery") c).map .bool),
      ("multi_match", Chosen.value (multiMatchRecord.decode "MultiMatchQuery"))]

/-- The query that is left of another after it has been a document. -/
def settled : Query → Query
  | .matchAll => .matchAll
  | .bool g => .bool ⟨g.must.map (·.settled), g.mustNot.map (·.settled)⟩
  | .multiMatch text fields => .multiMatch text fields

end Query

end DocSearch
