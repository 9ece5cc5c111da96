import DocSearch.Error

/-!
# Field tables

The names under which the fields of an entity are stored.  A table lists each logical name
once, each serialized name once, and no name without content.

## Main definitions

* `FieldTable` — the tables, well formed by construction.
* `FieldTable.ofPairs`, `FieldTable.ofNames` — the table of a list of pairs, and the table
  in which names stand for themselves.
* `FieldTable.resolve` — the serialized name of a logical name.

## References

`FieldMap` with `new`, `identity` and `resolve`.
-/

namespace DocSearch

/-- Whether a name has no content. -/
def isBlankName (s : String) : Bool := Text.isBlankText s.toList

/-- The serialized names of the fields of an entity. -/
structure FieldTable where
  /-- The name of the entity. -/
  entity : String
  /-- Logical names with their serialized names. -/
  pairs : List (String × String)
  /-- Each logical name is listed once. -/
  names_nodup : (pairs.map (·.1)).Nodup
  /-- Each serialized name is listed once. -/
  targets_nodup : (pairs.map (·.2)).Nodup
  /-- All names have content. -/
  named : ∀ p ∈ pairs, isBlankName p.1 = false ∧ isBlankName p.2 = false

namespace FieldTable

/-- The table without fields. -/
def empty (entity : String) : FieldTable := ⟨entity, [], by simp, by simp, by simp⟩

/-- The table with one more field. -/
def insert (t : FieldTable) (p : String × String) : Outcome FieldTable :=
  if hb : isBlankName p.1 = true ∨ isBlankName p.2 = true then
    .error (.configuration (.blankFieldName t.entity))
  else if ht : p.2 ∈ t.pairs.map (·.2) then
    .error (.configuration (.repeatedTarget t.entity p.2))
  else if hn : p.1 ∈ t.pairs.map (·.1) then
    .error (.configuration (.repeatedName t.entity p.1))
  else
    .ok
      { entity := t.entity
        pairs := p :: t.pairs
        names_nodup := by rw [List.map_cons]; exact List.nodup_cons.2 ⟨hn, t.names_nodup⟩
        targets_nodup := by rw [List.map_cons]; exact List.nodup_cons.2 ⟨ht, t.targets_nodup⟩
        named := by
          intro q hq
          rcases List.mem_cons.1 hq with rfl | hq
          · simpa using hb
          · exact t.named q hq }

/-- The table with more fields, up to the first that does not fit. -/
def insertAll (t : FieldTable) : List (String × String) → Outcome FieldTable
  | [] => .ok t
  | p :: ps =>
    match t.insert p with
    | .error e => .error e
    | .ok t => t.insertAll ps

/-- The table of a list of pairs. -/
def ofPairs (entity : String) (ps : List (String × String)) : Outcome FieldTable :=
  (empty entity).insertAll ps

/-- The table in which names stand for themselves. -/
def ofNames (entity : String) (names : List String) : Outcome FieldTable :=
  ofPairs entity (names.map fun n => (n, n))

/-- The number of fields. -/
def size (t : FieldTable) : Nat := t.pairs.length

/-- Whether a table has no fields. -/
def isEmpty (t : FieldTable) : Bool := t.pairs.isEmpty

/-- The serialized name of a logical name. -/
def resolve (t : FieldTable) (name : String) : Outcome String :=
  match t.pairs.lookup name with
  | some target => .ok target
  | none => .error (.unknownField t.entity name)

@[simp] theorem pairs_empty (entity : String) : (empty entity).pairs = [] := rfl

@[simp] theorem entity_empty (entity : String) : (empty entity).entity = entity := rfl

end FieldTable

end DocSearch
