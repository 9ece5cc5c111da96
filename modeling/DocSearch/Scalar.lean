import DocSearch.Decoding.Basic

/-!
# Scalars

The values that filters compare with: truth values, numbers, moments and texts.  A scalar
is looked at in several ways; a text can be an integer, a number or a moment as well.  Two
scalars are compared in the first way that both of them allow.

## Main definitions

* `Scalar` — the values.
* `Scalar.integer?`, `Scalar.real?`, `Scalar.moment?` — the views of a scalar.
* `Scalar.order` — the comparison, which not every two scalars have.
* `Scalar.ofJson?`, `Scalar.toJson`, `Scalar.serialized` — between scalars and documents.
* `Scalar.display` — the printed form.

## References

`FilterValue` with `as_f64`, `as_integer`, `as_datetime`, `compare`, `from_json` and `to_json`,
and its derived reader and writer.
-/

namespace DocSearch

open Number

/-- A value that filters compare with. -/
inductive Scalar
  /-- A truth value. -/
  | bool (b : Bool)
  /-- A number. -/
  | number (n : Json.Number)
  /-- A moment. -/
  | moment (t : DateTime)
  /-- A text. -/
  | text (s : String)
  deriving DecidableEq, Repr

namespace Scalar

/-- The scalar of a double; one that is not finite becomes its text. -/
def ofDouble : Double → Scalar
  | .finite x => .number (.binary x)
  | x => .text (String.ofList (x.text .exact))

/-! ### Views -/

/-- The integer that a text stands for, blanks around it passed over. -/
def integerOfText? (s : String) : Option Int :=
  (integerOf? (Text.trim s.toList)).filter fun z => decide (IsInt128 z)

/-- The number that a text stands for, blanks around it passed over. -/
def realOfText? (s : String) : Option Binary64 :=
  (decimalOf? (Text.trim s.toList)).bind Decimal.toBinary64?

/-- The scalar as an integer. -/
def integer? : Scalar → Option Int
  | .number n => n.toInt?
  | .text s => integerOfText? s
  | _ => none

/-- The scalar as a double. -/
def real? : Scalar → Option Binary64
  | .number n => n.toBinary64?
  | .text s => realOfText? s
  | _ => none

/-- The scalar as a moment. -/
def moment? : Scalar → Option DateTime
  | .moment t => some t
  | .text s => DateTime.of? s.toList
  | _ => none

/-! ### Comparison -/

/-- The order of two values that are both there. -/
def orderBy (order : α → α → Ordering) : Option α → Option α → Option Ordering
  | some a, some b => some (order a b)
  | _, _ => none

/-- The order of truth values among each other and of texts among each other. -/
def plainOrder : Scalar → Scalar → Option Ordering
  | .bool a, .bool b => some (compare a b)
  | .text a, .text b => some (Text.order a.toList b.toList)
  | _, _ => none

/-- The comparison of two scalars: as integers, else as doubles, else as moments, else as
truth values or texts. -/
def order (a b : Scalar) : Option Ordering :=
  (orderBy compare a.integer? b.integer?).or <|
    (orderBy Binary64.order a.real? b.real?).or <|
      (orderBy DateTime.order a.moment? b.moment?).or (plainOrder a b)

/-- Whether two scalars are the same value of the same sort; an integer is never the same
as a double, and the two zeros among the doubles are. -/
def same : Scalar → Scalar → Bool
  | .bool a, .bool b => a == b
  | .number a, .number b => a.same b
  | .moment a, .moment b => a == b
  | .text a, .text b => a == b
  | _, _ => false

/-! ### Documents -/

/-- The scalar of a document, if it is one. -/
def ofJson? : Json → Option Scalar
  | .bool b => some (.bool b)
  | .number n => some (.number n)
  | .string s => some (.text s)
  | _ => none

/-- The document of a scalar; a moment becomes its text. -/
def toJson : Scalar → Json
  | .bool b => .bool b
  | .number n => .number n
  | .moment t => .string (String.ofList t.text)
  | .text s => .string s

/-- The document that a scalar is kept as among the values of types. -/
def serialized : Scalar → Json
  | .bool b => .bool b
  | .number n => .number n
  | .moment t => .string (String.ofList t.storedText)
  | .text s => .string s

/-- The printed form of a scalar. -/
def display : Scalar → String
  | .bool b => String.ofList (Json.boolText b)
  | .number n => String.ofList n.text
  | .moment t => String.ofList t.text
  | .text s => s

/-- A scalar from a document: a truth value, else a number, else a text.  No document is read
as a moment. -/
def decode : Decoder Scalar :=
  Decoder.firstOf "FilterValue"
    [fun j => (Decoder.bool j).map .bool, fun j => (Decoder.number j).map .number,
      fun j => (Decoder.text j).map .text]

/-- The scalar that is left of another after it has been a document. -/
def settled : Scalar → Scalar
  | .moment t => .text (String.ofList t.text)
  | v => v

@[simp] theorem ofJson?_toJson (v : Scalar) : ofJson? v.toJson = some v.settled := by
  cases v <;> rfl

@[simp] theorem toJson_settled (v : Scalar) : v.settled.toJson = v.toJson := by
  cases v <;> rfl

@[simp] theorem decode_toJson (v : Scalar) : decode v.toJson = .ok v.settled := by
  cases v <;> rfl

end Scalar

end DocSearch
