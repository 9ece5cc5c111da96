import DocSearch.Calendar.Text
import DocSearch.Document.Basic

/-!
# Entities

Documents with an identity: an id and the moment of the last change.  Other types of
documents have these two fields among their own.

## Main definitions

* `Identity` — an id and a moment in universal time.
* `Tepix`, `DocumentType.tepix` — the values of an index at a moment, with an identity.

## References

`BaseEntity` and types that it is part of.
-/

namespace DocSearch

/-- What identifies a document. -/
structure Identity (κ : Type) where
  /-- The id. -/
  id : κ
  /-- The moment of the last change, in universal time. -/
  timeStamp : DateTime
  deriving DecidableEq, Repr

namespace Identity

/-- The fields of an identity, with ids of a given type. -/
def record (id : Decoder κ) : Record (Identity κ) :=
  ((Record.field "id" id).both (Record.field "timeStamp" Decoder.instant)).map
    fun r => ⟨r.1, r.2⟩

/-- An identity from a document. -/
def decode (id : Decoder κ) : Decoder (Identity κ) := (record id).decode "BaseEntity"

/-- The members of an identity. -/
def members (id : κ → Json) (e : Identity κ) : List (String × Json) :=
  [("id", id e.id), ("timeStamp", .string (String.ofList e.timeStamp.utcText))]

/-- An identity as a document. -/
def toJson (id : κ → Json) (e : Identity κ) : Json := .object (e.members id)

end Identity

/-- The value of an index at a moment. -/
structure Tepix where
  /-- What identifies the document. -/
  base : Identity String
  /-- The moment. -/
  dateTime : DateTime
  /-- The moment at which the value was entered. -/
  insertDateTime : DateTime
  /-- The value. -/
  indexValue : String
  deriving DecidableEq, Repr

namespace Tepix

/-- The fields besides those of the identity. -/
def record : Record (DateTime × DateTime × String) :=
  (Record.field "dateTime" Decoder.dateTime).both
    ((Record.field "insertDateTime" Decoder.dateTime).both
      (Record.field "indexValue" Decoder.text))

/-- A value from an object; faults in its own fields come before those in the identity. -/
def decode : Decoder Tepix
  | .object ms =>
    match record.ofMembers ms with
    | .error e => .error e
    | .ok own =>
      match (Identity.record Decoder.text).ofMembers ms with
      | .error e => .error e
      | .ok base => .ok ⟨base, own.1, own.2.1, own.2.2⟩
  | j => .error (.invalidType j.found "struct Tepix")

/-- A value as a document. -/
def toJson (t : Tepix) : Json :=
  .object
    [("dateTime", .string (String.ofList t.dateTime.storedText)), ("id", .string t.base.id),
      ("indexValue", .string t.indexValue),
      ("insertDateTime", .string (String.ofList t.insertDateTime.storedText)),
      ("timeStamp", .string (String.ofList t.base.timeStamp.utcText))]

end Tepix

/-- The type of index values. -/
def DocumentType.tepix : DocumentType Tepix := ⟨"Tepix", Tepix.decode, Tepix.toJson⟩

end DocSearch
