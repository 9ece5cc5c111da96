import DocSearch.Decoding.Basic

/-!
# Decoding records

A record is decoded from an object with its fields as members, or from a list with its
fields in order.  Members of other names are passed over.  Of several ill-typed fields of
an object the one with the least name is reported; only when there is none does a missing
field count, the first in order.

## Main definitions

* `Record` — how a record is put together from its fields.
* `Record.field`, `Record.optional`, `Record.both` — its parts.
* `Record.ofMembers`, `Record.ofItems` — decoding by name and by place.
* `Record.decode` — either of them, as the document has it.

## References

The derived readers of types with fields.
-/

namespace DocSearch

/-- A field, with the test that its value has to pass. -/
structure Slot where
  /-- The name of the field. -/
  name : String
  /-- The test. -/
  check : Json → Except DecodeError Unit

/-- Where the values of fields come from. -/
structure Source where
  /-- The value of a field. -/
  find : String → Option Json
  /-- The fault in a field that is required and has no value. -/
  absent : String → DecodeError

/-- How a record is put together from its fields. -/
structure Record (α : Type) where
  /-- The fields, in order. -/
  slots : List Slot
  /-- What is made of their values. -/
  build : Source → Except DecodeError α

/-- The test that a reader makes. -/
def Decoder.check (decode : Decoder α) : Json → Except DecodeError Unit :=
  fun j => (decode j).map fun _ => ()

namespace Record

/-- One field. -/
def field (name : String) (decode : Decoder α) : Record α where
  slots := [⟨name, decode.check⟩]
  build source :=
    match source.find name with
    | some j => decode j
    | none => .error (source.absent name)

/-- One field that may be absent. -/
def optional (name : String) (decode : Decoder α) (default : α) : Record α where
  slots := [⟨name, decode.check⟩]
  build source :=
    match source.find name with
    | some j => decode j
    | none => .ok default

/-- The fields of two records together. -/
def both (a : Record α) (b : Record β) : Record (α × β) where
  slots := a.slots ++ b.slots
  build source :=
    match a.build source with
    | .error e => .error e
    | .ok x =>
      match b.build source with
      | .error e => .error e
      | .ok y => .ok (x, y)

/-- A record made of the same fields. -/
def map (f : α → β) (a : Record α) : Record β where
  slots := a.slots
  build source := (a.build source).map f

/-- Puts a field into a list of fields sorted by name. -/
def insertSlot (s : Slot) : List Slot → List Slot
  | [] => [s]
  | t :: ts =>
    match Text.order s.name.toList t.name.toList with
    | .gt => t :: insertSlot s ts
    | _ => s :: t :: ts

/-- Fields sorted by name. -/
def byName (slots : List Slot) : List Slot := slots.foldr insertSlot []

/-- Tests the fields that have a value, in order. -/
def checkAll (find : String → Option Json) : List Slot → Except DecodeError Unit
  | [] => .ok ()
  | s :: ss =>
    match (find s.name).map s.check with
    | some (.error e) => .error e
    | _ => checkAll find ss

/-- The record that the members of an object make up. -/
def ofMembers (r : Record α) (ms : List (String × Json)) : Except DecodeError α :=
  match checkAll (fun name => ms.lookup name) (byName r.slots) with
  | .error e => .error e
  | .ok () => r.build ⟨fun name => ms.lookup name, .missingField⟩

/-- A count of things, in words. -/
def countText (n : Nat) (thing : String) : String :=
  natString n ++ " " ++ thing ++ (if n = 1 then "" else "s")

/-- The record that the items of a list make up, its fields in order; items beyond the
last field are left alone. -/
def ofLeading (r : Record α) (title : String) (items : List Json) : Except DecodeError α :=
  let names := r.slots.map (·.name)
  let find (name : String) := (names.zip items).lookup name
  match checkAll find r.slots with
  | .error e => .error e
  | .ok () =>
    r.build ⟨find, fun name => .invalidLength (names.idxOf name)
      ("struct " ++ title ++ " with " ++ countText names.length "element")⟩

/-- The record that the items of a list make up; `tooLong` tells how many are expected. -/
def ofItems (r : Record α) (title tooLong : String) (items : List Json) :
    Except DecodeError α :=
  match r.ofLeading title items with
  | .error e => .error e
  | .ok a =>
    if r.slots.length < items.length then .error (.invalidLength items.length tooLong) else .ok a

/-- The record of an object or a list. -/
def decode (r : Record α) (title : String) : Decoder α
  | .object ms => r.ofMembers ms
  | .array items => r.ofItems title "fewer elements in array" items
  | j => .error (.invalidType j.found ("struct " ++ title))

@[simp] theorem decode_object (r : Record α) (title : String) (ms : List (String × Json)) :
    r.decode title (.object ms) = r.ofMembers ms := rfl

end Record

end DocSearch
