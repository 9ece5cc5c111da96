import DocSearch.Error

/-!
# Filters

A filter is a list of predicates, each about one field of a document.

## Main definitions

* `FilterKind` — the sorts of predicates, with their names.
* `Predicate`, `Filter` — predicates and lists of them.
* `Predicate.toJson`, `Filter.toJson` — filters as documents.

## References

`FilterKind`, `Filtering` and `Filter`.
-/

namespace DocSearch

/-- The sorts of predicates. -/
inductive FilterKind
  /-- A field has a value. -/
  | and
  /-- A field does not have a value. -/
  | andNot
  /-- A field has a value between two others. -/
  | between
  deriving DecidableEq, Repr

namespace FilterKind

/-- The name of a kind in documents. -/
def name : FilterKind → String
  | .and => "and"
  | .andNot => "andNot"
  | .between => "between"

/-- The kind of a name. -/
def ofName? (s : String) : Option FilterKind :=
  if s = "and" then some .and
  else if s = "andNot" then some .andNot
  else if s = "between" then some .between
  else none

@[simp] theorem ofName?_name (k : FilterKind) : ofName? k.name = some k := by
  cases k <;> simp [ofName?, name]

theorem ofName?_eq_some_iff {s : String} {k : FilterKind} :
    ofName? s = some k ↔ s = k.name := by
  constructor
  · intro h
    unfold ofName? at h
    split at h
    · cases h; assumption
    · split at h
      · cases h; assumption
      · split at h
        · cases h; assumption
        · cases h
  · rintro rfl
    exact ofName?_name k

end FilterKind

/-- A condition on one field. -/
inductive Predicate
  /-- The field has the value. -/
  | equals (name : String) (value : Scalar)
  /-- The field does not have the value. -/
  | differs (name : String) (value : Scalar)
  /-- The field has a value from `low` to `high`, both included. -/
  | between (name : String) (low high : Scalar)
  deriving DecidableEq, Repr

namespace Predicate

/-- The sort of a predicate. -/
def kind : Predicate → FilterKind
  | .equals _ _ => .and
  | .differs _ _ => .andNot
  | .between _ _ _ => .between

/-- The name of the field that a predicate is about. -/
def name : Predicate → String
  | .equals name _ => name
  | .differs name _ => name
  | .between name _ _ => name

/-- A predicate as a document. -/
def toJson : Predicate → Json
  | .equals name value =>
    .object [("kind", .string FilterKind.and.name), ("propertyName", .string name),
      ("propertyValue", value.serialized)]
  | .differs name value =>
    .object [("kind", .string FilterKind.andNot.name), ("propertyName", .string name),
      ("propertyValue", value.serialized)]
  | .between name low high =>
    .object [("kind", .string FilterKind.between.name), ("leftValue", low.serialized),
      ("propertyName", .string name), ("rightValue", high.serialized)]

/-- The predicate that is left of another after it has been a document. -/
def settled : Predicate → Predicate
  | .equals name value => .equals name value.settled
  | .differs name value => .differs name value.settled
  | .between name low high => .between name low.settled high.settled

end Predicate

/-- A list of predicates that all have to hold; without predicates everything matches. -/
structure Filter where
  /-- The predicates, in order. -/
  predicates : List Predicate
  deriving DecidableEq, Repr

namespace Filter

/-- The filter without predicates. -/
def empty : Filter := ⟨[]⟩

/-- The filter with a predicate added at its end. -/
def push (f : Filter) (p : Predicate) : Filter := ⟨f.predicates ++ [p]⟩

/-- A filter as a document. -/
def toJson (f : Filter) : Json := .object [("filters", .array (f.predicates.map (·.toJson)))]

/-- The filter that is left of another after it has been a document. -/
def settled (f : Filter) : Filter := ⟨f.predicates.map (·.settled)⟩

end Filter

end DocSearch
