import DocSearch.FieldTable
import DocSearch.Filter.Reader
import DocSearch.Page
import DocSearch.Query.Basic

/-!
# Compiling filters and texts

Each predicate of a filter becomes one clause; the clauses keep the order of the
predicates.

## Main definitions

* `Predicate.clause` — the clause of a predicate, with its name resolved and its bounds
  checked.
* `Filter.compile` — the query of a filter.
* `Filter.compileJson` — the query of a filter that is still a document.
* `TextSearch.of` — the query and the page of a text to search for.

## References

`QueryCompiler` with `compile` and `compile_value`, `check_bounds`, and `compile` of
`TextSearch`.
-/

namespace DocSearch

/-- The stored name of a field. -/
def storedName (fields : Option FieldTable) (name : String) : Outcome String :=
  if isBlankName name then .error (.invalidFilter .blankName)
  else
    match fields with
    | some t => t.resolve name
    | none => .ok name

/-- Accepts the bounds of a range unless they are out of order or not comparable. -/
def checkBounds (field : String) (low high : Scalar) : Outcome Unit :=
  match low.order high with
  | some .gt => .error (.invalidFilter (.inverted field low high))
  | some _ => .ok ()
  | none => .error (.invalidFilter (.incomparable field low high))

/-- The clause of a predicate. -/
def Predicate.clause (fields : Option FieldTable) (p : Predicate) : Outcome Clause :=
  match storedName fields p.name with
  | .error e => .error e
  | .ok field =>
    match p with
    | .equals _ value => .ok (.equals field value)
    | .differs _ value => .ok (.equals field value)
    | .between _ low high =>
      match checkBounds field low high with
      | .error e => .error e
      | .ok () => .ok (.range field low high)

/-- Whether the clause of a predicate must not hold. -/
def Predicate.isNegated : Predicate → Bool
  | .differs _ _ => true
  | _ => false

/-- Puts a clause in front of the group that it belongs to. -/
def Groups.cons (negated : Bool) (c : Clause) (g : Groups) : Groups :=
  if negated then ⟨g.must, c :: g.mustNot⟩ else ⟨c :: g.must, g.mustNot⟩

/-- The groups of a list of predicates, up to the first fault. -/
def Groups.ofPredicates (fields : Option FieldTable) : List Predicate → Outcome Groups
  | [] => .ok ⟨[], []⟩
  | p :: ps =>
    match p.clause fields with
    | .error e => .error e
    | .ok c =>
      match Groups.ofPredicates fields ps with
      | .error e => .error e
      | .ok g => .ok (g.cons p.isNegated c)

/-- The query of groups; without clauses every document matches. -/
def Query.ofGroups (g : Groups) : Query := if g.isEmpty then .matchAll else .bool g

/-- The query of a filter, with the names of fields looked up if there is a table. -/
def Filter.compile (fields : Option FieldTable) (f : Filter) : Outcome Query :=
  match Groups.ofPredicates fields f.predicates with
  | .error e => .error e
  | .ok g => .ok (Query.ofGroups g)

/-- The query of a filter that is still a document. -/
def Filter.compileJson (fields : Option FieldTable) (j : Json) : Outcome Query :=
  match Filter.ofJson j with
  | .error e => .error e
  | .ok f => f.compile fields

/-- A text to search for, compiled. -/
structure TextSearch where
  /-- The query. -/
  query : Query
  /-- The page. -/
  page : Page

/-- The search for the words of a text in every field. -/
def TextSearch.of (text : String) (size number : UInt32) : Outcome TextSearch :=
  let text := String.ofList (Text.trim text.toList)
  if text.isEmpty then .error (.invalidQuery .emptyText)
  else
    match Page.of size number with
    | .error e => .error e
    | .ok page => .ok ⟨.multiMatch text [allFields], page⟩

end DocSearch
