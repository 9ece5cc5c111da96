import DocSearch.Number.Decimal
import DocSearch.Text.Blank

/-!
# Documents

The values that documents, filters and requests are made of.  Numbers keep the difference
between integers and doubles: `1` and `1.0` are different numbers.

## Main definitions

* `Json.Number` — an integer of at most 64 bits, signed or unsigned, or a finite double.
* `Json` — the documents; the members of an object are a list of pairs.
* `Json.get?` — the member of an object with a given name.
* `insertMember`, `Json.ofMembers` — objects whose members are sorted by name, each name
  once.
* `Json.settle` — the same document with every object in that form.

## References

The documents that `from_json`, `from_value` and `normalize` take: the values of the JSON
library.
-/

namespace DocSearch

open Number

namespace Json

/-- The integers that fit 64 bits, with a sign or without. -/
abbrev Wide (z : Int) : Prop := -9223372036854775808 ≤ z ∧ z < 18446744073709551616

/-- A number of a document. -/
inductive Number
  /-- An integer, exactly. -/
  | integer (z : Int) (wide : Wide z)
  /-- A double, also when it has an integral value. -/
  | binary (x : Binary64)
  deriving DecidableEq, Repr

namespace Number

/-- The number for an integer that fits. -/
def ofInt? (z : Int) : Option Number := if h : Wide z then some (.integer z h) else none

/-- The number for a natural number below `2 ^ 64`; a larger one is rounded to a double. -/
def ofNat (n : Nat) : Number :=
  (ofInt? n).getD (.binary ((Binary64.ofInt? n).getD .zero))

/-- The integer, when the number is one. -/
def toInt? : Number → Option Int
  | .integer z _ => some z
  | .binary _ => none

/-- The double nearest to the number. -/
def toBinary64? : Number → Option Binary64
  | .integer z _ => Binary64.ofInt? z
  | .binary x => some x

/-- The text of the number. -/
def text : Number → List Char
  | .integer z _ => intText z
  | .binary x => x.text .exact

/-- Equality of numbers: never between an integer and a double, and by value between
doubles. -/
def same : Number → Number → Bool
  | .integer a _, .integer b _ => a == b
  | .binary a, .binary b => a.same b
  | _, _ => false

@[simp] theorem toInt?_integer (z : Int) (h : Wide z) : (integer z h).toInt? = some z := rfl

@[simp] theorem toInt?_binary (x : Binary64) : (binary x).toInt? = none := rfl

@[simp] theorem toBinary64?_binary (x : Binary64) : (binary x).toBinary64? = some x := rfl

end Number

end Json

/-- A document. -/
inductive Json
  /-- The absent value. -/
  | null
  /-- A truth value. -/
  | bool (b : Bool)
  /-- A number. -/
  | number (n : Json.Number)
  /-- A text. -/
  | string (s : String)
  /-- A list of documents. -/
  | array (items : List Json)
  /-- Documents under names. -/
  | object (members : List (String × Json))
  deriving Inhabited, Repr

/-- Puts a member into a list of members sorted by name, in place of one of the same name. -/
def insertMember (name : String) (value : Json) : List (String × Json) → List (String × Json)
  | [] => [(name, value)]
  | m :: ms =>
    match Text.order name.toList m.1.toList with
    | .lt => (name, value) :: m :: ms
    | .eq => (name, value) :: ms
    | .gt => m :: insertMember name value ms

/-- The members sorted by name; of several with one name the last is kept. -/
def sortMembers (ms : List (String × Json)) : List (String × Json) :=
  ms.foldl (fun sorted m => insertMember m.1 m.2 sorted) []

namespace Json

/-- The object with the given members, sorted by name. -/
def ofMembers (ms : List (String × Json)) : Json := .object (sortMembers ms)

/-- The member of an object with a given name; nothing for other documents. -/
def get? (name : String) : Json → Option Json
  | .object ms => ms.lookup name
  | _ => none

/-- Whether a document is an object. -/
def isObject : Json → Bool
  | .object _ => true
  | _ => false

/-- A natural number as a document. -/
def ofNat (n : Nat) : Json := .number (.ofNat n)

/-- An optional document, with the absent value for nothing. -/
def ofOption : Option Json → Json
  | some j => j
  | none => .null

/-- Texts as a document. -/
def ofTexts (ss : List String) : Json := .array (ss.map .string)

mutual

/-- The document with the members of each of its objects sorted by name, the last of
several with one name kept. -/
def settle : Json → Json
  | .array items => .array (settleItems items)
  | .object ms => ofMembers (settleMembers ms)
  | .null => .null
  | .bool b => .bool b
  | .number n => .number n
  | .string s => .string s

/-- `settle` on the items of a list. -/
def settleItems : List Json → List Json
  | [] => []
  | j :: js => settle j :: settleItems js

/-- `settle` under each name. -/
def settleMembers : List (String × Json) → List (String × Json)
  | [] => []
  | m :: ms => (m.1, settle m.2) :: settleMembers ms

end

@[simp] theorem get?_object (name : String) (ms : List (String × Json)) :
    get? name (.object ms) = ms.lookup name := rfl

@[simp] theorem get?_null (name : String) : get? name .null = none := rfl

@[simp] theorem get?_bool (name : String) (b : Bool) : get? name (.bool b) = none := rfl

@[simp] theorem get?_number (name : String) (n : Json.Number) :
    get? name (.number n) = none := rfl

@[simp] theorem get?_string (name s : String) : get? name (.string s) = none := rfl

@[simp] theorem get?_array (name : String) (items : List Json) :
    get? name (.array items) = none := rfl

@[simp] theorem isObject_object (ms : List (String × Json)) : isObject (.object ms) = true := rfl

end Json

end DocSearch
