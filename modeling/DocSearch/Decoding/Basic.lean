import DocSearch.Calendar.Reader
import DocSearch.Json.Writer

/-!
# Decoding documents

Turning a document into a value of a given type, or saying what is wrong with it.

## Main definitions

* `Found` — what a document is, as far as a message tells.
* `DecodeError`, `DecodeError.message` — the faults of a document and their wording.
* `Decoder` — readers of documents; the scalars, lists and optional values.

## References

The derived readers of the program's types: scalars, lists and optional values.
-/

namespace DocSearch

open Number

/-- What was found in place of something else. -/
inductive Found
  /-- The absent value. -/
  | null
  /-- A truth value. -/
  | bool (b : Bool)
  /-- An integer. -/
  | integer (z : Int)
  /-- A double. -/
  | double (x : Binary64)
  /-- A text. -/
  | text (s : String)
  /-- A list. -/
  | sequence
  /-- An object. -/
  | map
  /-- The name of an alternative without a value. -/
  | unitVariant
  deriving DecidableEq, Repr

/-- What a document is. -/
def Json.found : Json → Found
  | .null => .null
  | .bool b => .bool b
  | .number (.integer z _) => .integer z
  | .number (.binary x) => .double x
  | .string s => .text s
  | .array _ => .sequence
  | .object _ => .map

/-- The wording of what was found. -/
def Found.describe : Found → String
  | .null => "null"
  | .bool b => "boolean `" ++ String.ofList (Json.boolText b) ++ "`"
  | .integer z => "integer `" ++ String.ofList (intText z) ++ "`"
  | .double x => "floating point `" ++ String.ofList (x.text .exact) ++ "`"
  | .text s => "string " ++ String.ofList (Text.quoted s.toList)
  | .sequence => "sequence"
  | .map => "map"
  | .unitVariant => "unit variant"

/-- Why a document does not denote a value of a type. -/
inductive DecodeError
  /-- A field that is required is not there. -/
  | missingField (name : String)
  /-- A field is there twice. -/
  | duplicateField (name : String)
  /-- Something of another type. -/
  | invalidType (found : Found) (expected : String)
  /-- Something of the right type, but not a value of it. -/
  | invalidValue (found : Found) (expected : String)
  /-- A list with too few or too many items. -/
  | invalidLength (length : Nat) (expected : String)
  /-- The name of no alternative. -/
  | unknownVariant (name : String) (known : List String)
  /-- None of the alternatives of a type fits. -/
  | noVariant (type : String)
  /-- A text that is no moment. -/
  | time (fault : TimeFault)
  deriving DecidableEq, Repr

/-- Alternatives as they are listed in messages. -/
def listVariants : List String → String
  | [] => "there are no variants"
  | [a] => "expected `" ++ a ++ "`"
  | [a, b] => "expected `" ++ a ++ "` or `" ++ b ++ "`"
  | names => "expected one of " ++ ", ".intercalate (names.map fun n => "`" ++ n ++ "`")

/-- A natural number as a string. -/
def natString (n : Nat) : String := String.ofList (digitsOf n)

/-- The wording of a fault. -/
def DecodeError.message : DecodeError → String
  | .missingField name => "missing field `" ++ name ++ "`"
  | .duplicateField name => "duplicate field `" ++ name ++ "`"
  | .invalidType found expected => "invalid type: " ++ found.describe ++ ", expected " ++ expected
  | .invalidValue found expected => "invalid value: " ++ found.describe ++ ", expected " ++ expected
  | .invalidLength n expected => "invalid length " ++ natString n ++ ", expected " ++ expected
  | .unknownVariant name known => "unknown variant `" ++ name ++ "`, " ++ listVariants known
  | .noVariant type => "data did not match any variant of untagged enum " ++ type
  | .time fault => fault.message

/-- A reader of documents. -/
abbrev Decoder (α : Type) := Json → Except DecodeError α

namespace Decoder

/-- Any document, as it is. -/
def document : Decoder Json := .ok

/-- A text. -/
def text : Decoder String
  | .string s => .ok s
  | j => .error (.invalidType j.found "a string")

/-- A truth value. -/
def bool : Decoder Bool
  | .bool b => .ok b
  | j => .error (.invalidType j.found "a boolean")

/-- A number. -/
def number : Decoder Json.Number
  | .number n => .ok n
  | j => .error (.invalidType j.found "a JSON number")

/-- An integer that fits a type with a given name. -/
def integer (type : String) (fits : Int → Bool) : Decoder Int
  | .number (.integer z _) =>
    if fits z then .ok z else .error (.invalidValue (.integer z) type)
  | j => .error (.invalidType j.found type)

/-- An integer of 64 bits. -/
def int64 : Decoder Int := integer "i64" fun z => decide (IsInt64 z)

/-- A natural number of 64 bits. -/
def nat64 : Decoder Nat := fun j =>
  (integer "u64" (fun z => decide (IsNat64 z)) j).map Int.toNat

/-- A natural number of 32 bits. -/
def word : Decoder UInt32 := fun j =>
  (integer "u32" (fun z => decide (IsNat32 z)) j).map fun z => .ofNat z.toNat

/-- The items of a list, up to the first fault. -/
def items (decode : Decoder α) : List Json → Except DecodeError (List α)
  | [] => .ok []
  | j :: js =>
    match decode j with
    | .error e => .error e
    | .ok a =>
      match items decode js with
      | .error e => .error e
      | .ok as => .ok (a :: as)

/-- A list. -/
def listOf (decode : Decoder α) : Decoder (List α)
  | .array js => items decode js
  | j => .error (.invalidType j.found "a sequence")

/-- A value, or the absent value for nothing. -/
def optional (decode : Decoder α) : Decoder (Option α)
  | .null => .ok none
  | j => (decode j).map some

/-- What the first of several readers makes of a document that reads it at all; `type` is what
they read together. -/
def firstOf (type : String) : List (Decoder α) → Decoder α
  | [], _ => .error (.noVariant type)
  | decode :: others, j =>
    match decode j with
    | .ok a => .ok a
    | .error _ => firstOf type others j

/-- A plain moment. -/
def dateTime : Decoder DateTime
  | .string s => (DateTime.stored s.toList).mapError .time
  | j => .error (.invalidType j.found "a formatted date and time string")

/-- A moment with a time zone, in universal time. -/
def instant : Decoder DateTime
  | .string s => (DateTime.zoned s.toList).mapError .time
  | j => .error (.invalidType j.found "an RFC 3339 formatted date and time string")

@[simp] theorem document_apply (j : Json) : document j = .ok j := rfl

@[simp] theorem text_string (s : String) : text (.string s) = .ok s := rfl

@[simp] theorem items_nil (decode : Decoder α) : items decode [] = .ok [] := rfl

theorem listOf_array (decode : Decoder α) (js : List Json) :
    listOf decode (.array js) = items decode js := rfl

/-- Every document is its own decoding. -/
@[simp] theorem items_document (js : List Json) : items document js = .ok js := by
  induction js with
  | nil => rfl
  | cons j js ih => simp [items, ih]

end Decoder

end DocSearch
