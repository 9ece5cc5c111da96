import DocSearch.Json.Tree

/-!
# Reading documents from text

A text is read as a tree first, then the tree is read as a document.  A text with more than 127
nested arrays and objects is no document, nor is one with a number out of range, a lone
surrogate escape or a string whose bytes are no text.

## Main definitions

* `Json.unescape?`, `Json.text?` — the text of a string.
* `Json.Tree.json?` — the document of a tree, members in the order of the tree, a name as often
  as it stands there.
* `Json.readRaw?` — the document of a text, in the same way.
* `Json.read?` — the document of a text, members sorted, the last one of a name kept.

## References

The reader of texts that `from_str` of `Filter` and `read_filter` use.
-/

namespace DocSearch.Json

/-! ### Strings -/

/-- The characters of a string whose escapes are spelled correctly.  Two escapes may stand for
one character beyond the first plane, and neither of them may stand alone. -/
def unescape? : List Char → Option (List Char)
  | [] => some []
  | '\\' :: 'u' :: a :: b :: c :: d :: rest =>
    match hexCode? a b c d with
    | none => none
    | some n =>
      if 0xD800 ≤ n ∧ n ≤ 0xDBFF then
        match rest with
        | '\\' :: 'u' :: e :: f :: g :: h :: rest =>
          match hexCode? e f g h with
          | none => none
          | some m =>
            if 0xDC00 ≤ m ∧ m ≤ 0xDFFF then
              (unescape? rest).map
                (Char.ofNat (0x10000 + (n - 0xD800) * 0x400 + (m - 0xDC00)) :: ·)
            else none
        | _ => none
      else if 0xDC00 ≤ n ∧ n ≤ 0xDFFF then none
      else (unescape? rest).map (Char.ofNat n :: ·)
  | '\\' :: c :: rest =>
    match escaped? c with
    | none => none
    | some e => (unescape? rest).map (e :: ·)
  | c :: rest => if c = '\\' then none else (unescape? rest).map (c :: ·)

/-- The text of a string, unless its bytes are no text or an escape stands for no character. -/
def text? (bytes : List UInt8) : Option String :=
  (String.fromUTF8? bytes.toByteArray).bind fun s => (unescape? s.toList).map String.ofList

/-! ### Documents -/

/-- The number of arrays and objects that may stand inside each other. -/
def maxDepth : Nat := 127

mutual

/-- The document of a tree in which at most `depth` arrays or objects stand inside each other. -/
def Tree.json? (depth : Nat) : Tree → Option Json
  | .null => some .null
  | .bool b => some (.bool b)
  | .numeral cs => (numeral? cs).map .number
  | .string bytes => (text? bytes).map .string
  | .array ts => if depth = 0 then none else (itemsJson? (depth - 1) ts).map .array
  | .object ms => if depth = 0 then none else (membersJson? (depth - 1) ms).map .object

/-- `Tree.json?` on the items of a list. -/
def itemsJson? (depth : Nat) : List Tree → Option (List Json)
  | [] => some []
  | t :: ts =>
    match t.json? depth with
    | none => none
    | some j => (itemsJson? depth ts).map (j :: ·)

/-- `Tree.json?` under each name, the name as a text. -/
def membersJson? (depth : Nat) : List (List UInt8 × Tree) → Option (List (String × Json))
  | [] => some []
  | m :: ms =>
    match text? m.1 with
    | none => none
    | some name =>
      match m.2.json? depth with
      | none => none
      | some j => (membersJson? depth ms).map ((name, j) :: ·)

end

/-- The document of a text, with members in the order of the text. -/
def readRaw? (cs : List Char) : Option Json :=
  (tree? (bytesOf cs)).bind fun t => t.json? maxDepth

/-- The document of a text; members sorted by name, the last one of a name kept. -/
def read? (cs : List Char) : Option Json := (readRaw? cs).map settle

end DocSearch.Json
