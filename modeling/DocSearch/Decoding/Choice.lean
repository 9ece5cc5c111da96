import DocSearch.Decoding.Record

/-!
# Decoding alternatives

An alternative is named by a text, or by the only member of an object, whose value then
belongs to it.

## Main definitions

* `Chosen`, `Chosen.ofJson` — the name of an alternative and its value, if it has one.
* `Chosen.unit`, `Chosen.value`, `Chosen.record` — alternatives without a value, with one
  value, and with fields.

## References

The derived readers of types that are told apart by a name, such as `Query` and `Clause`.
-/

namespace DocSearch

/-- An alternative as a document names it. -/
structure Chosen where
  /-- Its name. -/
  name : String
  /-- Its value. -/
  payload : Option Json

namespace Chosen

/-- The alternative that a document names. -/
def ofJson : Decoder Chosen
  | .string s => .ok ⟨s, none⟩
  | .object [m] => .ok ⟨m.1, some m.2⟩
  | .object _ => .error (.invalidValue .map "map with a single key")
  | j => .error (.invalidType j.found "string or map")

/-- An alternative that has no value; the absent one is accepted. -/
def unit (a : α) (c : Chosen) : Except DecodeError α :=
  match c.payload with
  | none => .ok a
  | some .null => .ok a
  | some j => .error (.invalidType j.found "unit")

/-- An alternative with one value. -/
def value (decode : Decoder α) (c : Chosen) : Except DecodeError α :=
  match c.payload with
  | none => .error (.invalidType .unitVariant "newtype variant")
  | some j => decode j

/-- An alternative with fields. -/
def record (r : Record α) (c : Chosen) : Except DecodeError α :=
  match c.payload with
  | none => .error (.invalidType .unitVariant "struct variant")
  | some (.object ms) => r.ofMembers ms
  | some j => .error (.invalidType j.found "struct variant")

/-- Decodes the alternative of a name from a table of all of them. -/
def decode (table : List (String × (Chosen → Except DecodeError α))) : Decoder α := fun j =>
  match ofJson j with
  | .error e => .error e
  | .ok c =>
    match table.lookup c.name with
    | some read => read c
    | none => .error (.unknownVariant c.name (table.map (·.1)))

end Chosen

end DocSearch
