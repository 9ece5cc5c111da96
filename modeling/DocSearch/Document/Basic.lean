import DocSearch.Decoding.Record

/-!
# Types of documents

A type of documents has a name and goes back and forth between documents and values.

## Main definitions

* `DocumentType` — the types.
* `DocumentType.untyped` — documents as they are.
* `Item`, `DocumentType.item` — things with a name and a price.

## References

The documents that `normalize` gives back: any type that can be read and written.
-/

namespace DocSearch

/-- A type of documents.  It is identified by its name, so types that differ have names that
differ. -/
structure DocumentType (α : Type) where
  /-- The name of the type. -/
  name : String
  /-- A value from a document. -/
  decode : Decoder α
  /-- The document of a value. -/
  encode : α → Json

/-- The same type under another name. -/
def DocumentType.renamed (t : DocumentType α) (name : String) : DocumentType α :=
  { t with name := name }

/-- Documents as they are. -/
def DocumentType.untyped : DocumentType Json := ⟨"Value", Decoder.document, id⟩

/-- An integer of 64 bits as a document. -/
def int64Json (z : Int) : Json :=
  match Json.Number.ofInt? z with
  | some n => .number n
  | none => .null

/-- A thing with a name and a price. -/
structure Item where
  /-- The name. -/
  name : String
  /-- The price. -/
  price : Int
  deriving DecidableEq, Repr

namespace Item

/-- The fields of an item. -/
def record : Record Item :=
  ((Record.field "name" Decoder.text).both (Record.field "price" Decoder.int64)).map
    fun r => ⟨r.1, r.2⟩

/-- An item as a document. -/
def toJson (i : Item) : Json := .object [("name", .string i.name), ("price", int64Json i.price)]

end Item

/-- The type of items. -/
def DocumentType.item : DocumentType Item := ⟨"Item", Item.record.decode "Item", Item.toJson⟩

end DocSearch
