import DocSearch.Query.Basic
import DocSearch.Text.LowerCase

/-!
# Matching documents

Whether a document answers a query.

## Main definitions

* `Json.descend?`, `Json.at?` — the value of a field: the member of that name, or else
  what a path of names separated by dots leads to.
* `Json.anyScalar` — a test on the scalars that lists, and nothing else, lead to.
* `Clause.holds`, `Groups.admits` — clauses on a document.
* `Json.leaves`, `containsWord` — the texts in a document, and words in them.
* `Query.matches` — whether a document answers a query.

## References

`matches_query`, `matches_clause`, `lookup`, `any_scalar`, `matches_text` and `collect_leaves`
of the executor in memory.
-/

namespace DocSearch

namespace Json

/-- What a path of names leads to, through objects only. -/
def descend? : List String → Json → Option Json
  | [], j => some j
  | name :: path, j => (j.get? name).bind (descend? path)

/-- The names in a path. -/
def pathOf (field : String) : List String := (Text.splitAt '.' field.toList).map String.ofList

/-- The value of a field of a document. -/
def at? (j : Json) (field : String) : Option Json :=
  match j.get? field with
  | some v => some v
  | none => descend? (pathOf field) j

mutual

/-- Whether a scalar that only lists lead to passes a test. -/
def anyScalar (test : Json → Bool) : Json → Bool
  | .array items => anyScalarOf test items
  | .object _ => false
  | .null => false
  | .bool b => test (.bool b)
  | .number n => test (.number n)
  | .string s => test (.string s)

/-- `anyScalar` on the items of a list. -/
def anyScalarOf (test : Json → Bool) : List Json → Bool
  | [] => false
  | j :: js => anyScalar test j || anyScalarOf test js

end

mutual

/-- The texts in a document, in lower case. -/
def leaves : Json → List (List Char)
  | .object ms => leavesOfMembers ms
  | .array items => leavesOf items
  | .string s => [Text.lower s.toList]
  | .number n => [n.text]
  | .bool b => [boolText b]
  | .null => []

/-- The texts in the items of a list. -/
def leavesOf : List Json → List (List Char)
  | [] => []
  | j :: js => leaves j ++ leavesOf js

/-- The texts in the members of an object. -/
def leavesOfMembers : List (String × Json) → List (List Char)
  | [] => []
  | m :: ms => leaves m.2 ++ leavesOfMembers ms

end

end Json

/-- The order of a stored value relative to a scalar. -/
def storedOrder (stored : Json) (value : Scalar) : Option Ordering :=
  (Scalar.ofJson? stored).bind fun v => v.order value

/-- The test that a clause makes on a stored scalar. -/
def Clause.test (stored : Json) : Clause → Bool
  | .equals _ value => storedOrder stored value == some .eq
  | .range _ low high =>
    (storedOrder stored low == some .gt || storedOrder stored low == some .eq) &&
      (storedOrder stored high == some .lt || storedOrder stored high == some .eq)

/-- Whether a clause holds of a document. -/
def Clause.holds (doc : Json) (c : Clause) : Bool :=
  match doc.at? c.field with
  | none => false
  | some v => v.anyScalar fun stored => c.test stored

/-- Whether all clauses hold that have to, and none that must not. -/
def Groups.admits (g : Groups) (doc : Json) : Bool :=
  g.must.all (·.holds doc) && !g.mustNot.any (·.holds doc)

/-- The words of a text, in lower case. -/
def searchWords (text : String) : List (List Char) := (Text.words text.toList).map Text.lower

/-- Whether one of the words occurs in one of the texts. -/
def containsWord (words leaves : List (List Char)) : Bool :=
  leaves.any fun leaf => words.any fun word => Text.occursIn word leaf

/-- The texts in the given fields of a document. -/
def leavesIn (fields : List String) (doc : Json) : List (List Char) :=
  if fields.any (· == allFields) then doc.leaves
  else fields.flatMap fun field => ((doc.at? field).map Json.leaves).getD []

/-- Whether a document answers a query. -/
def Query.matches (q : Query) (doc : Json) : Bool :=
  match q with
  | .matchAll => true
  | .bool g => g.admits doc
  | .multiMatch text fields => containsWord (searchWords text) (leavesIn fields doc)

end DocSearch
