import DocSearch.Json.Numeral

/-!
# Documents as they are spelled

The bytes of a document are cut into tokens, and the tokens are read as a tree.  A tree keeps
numerals and strings as they are spelled: a number that is out of range and an escape that
stands for no character are no faults yet, and neither is a string that is no text.  They
become faults where a part of the tree is needed as a document, and a part that is not needed
is never looked at again.

## Main definitions

* `Json.bytesOf`, `Json.charOf` — the bytes of a text; the character of an ASCII byte.
* `Json.Token`, `Json.token?`, `Json.tokens?` — tokens.
* `Json.Tree`, `Json.value?`, `Json.tree?` — trees.

## References

The reader of bytes that the answers of a cluster go through, which passes over members that are
not asked for.
-/

namespace DocSearch.Json

open DocSearch.Number

/-- The bytes of a text. -/
def bytesOf (cs : List Char) : List UInt8 := cs.flatMap String.utf8EncodeChar

/-- The ASCII character of a byte; a byte beyond ASCII has one that is not ASCII either. -/
def charOf (b : UInt8) : Char := Char.ofNat b.toNat

/-! ### Strings -/

/-- The value of a hexadecimal digit. -/
def hexValue? (c : Char) : Option Nat :=
  let n := c.toNat
  if '0'.toNat ≤ n ∧ n ≤ '9'.toNat then some (n - '0'.toNat)
  else if 'a'.toNat ≤ n ∧ n ≤ 'f'.toNat then some (n - 'a'.toNat + 10)
  else if 'A'.toNat ≤ n ∧ n ≤ 'F'.toNat then some (n - 'A'.toNat + 10)
  else none

/-- The number of four hexadecimal digits. -/
def hexCode? (a b c d : Char) : Option Nat := do
  let a ← hexValue? a
  let b ← hexValue? b
  let c ← hexValue? c
  let d ← hexValue? d
  return ((a * 16 + b) * 16 + c) * 16 + d

/-- The character behind a one-letter escape. -/
def escaped? : Char → Option Char
  | '"' => some '"'
  | '\\' => some '\\'
  | '/' => some '/'
  | 'b' => some '\x08'
  | 'f' => some '\x0c'
  | 'n' => some '\n'
  | 'r' => some '\r'
  | 't' => some '\t'
  | _ => none

/-- The bytes of a string up to its closing quote, and what follows the quote.  Escapes are
looked at as far as their spelling goes. -/
def stringBytes? : List UInt8 → Option (List UInt8 × List UInt8)
  | [] => none
  | [b] => if charOf b = '"' then some ([], []) else none
  | b :: e :: rest =>
    if charOf b = '"' then some ([], e :: rest)
    else if charOf b = '\\' then
      if charOf e = 'u' then
        match rest with
        | h₁ :: h₂ :: h₃ :: h₄ :: rest =>
          if (hexCode? (charOf h₁) (charOf h₂) (charOf h₃) (charOf h₄)).isSome then
            (stringBytes? rest).map fun r => (b :: e :: h₁ :: h₂ :: h₃ :: h₄ :: r.1, r.2)
          else none
        | _ => none
      else if (escaped? (charOf e)).isSome then
        (stringBytes? rest).map fun r => (b :: e :: r.1, r.2)
      else none
    else if b.toNat < 0x20 then none
    else (stringBytes? (e :: rest)).map fun r => (b :: r.1, r.2)

/-! ### Tokens -/

/-- A token of a document. -/
inductive Token
  /-- An opening square bracket. -/
  | openArray
  /-- A closing square bracket. -/
  | closeArray
  /-- An opening brace. -/
  | openObject
  /-- A closing brace. -/
  | closeObject
  /-- The sign between a name and its value. -/
  | colon
  /-- The sign between items or members. -/
  | comma
  /-- The absent value. -/
  | null
  /-- A truth value. -/
  | bool (b : Bool)
  /-- A numeral. -/
  | numeral (cs : List Char)
  /-- A string, without its quotes and with its escapes. -/
  | string (bytes : List UInt8)
  deriving DecidableEq, Repr

/-- Whether a byte may stand between tokens. -/
def isBlankByte (b : UInt8) : Bool :=
  charOf b == ' ' || charOf b == '\n' || charOf b == '\t' || charOf b == '\r'

/-- Whether a byte may stand in a numeral. -/
def isNumeralByte (b : UInt8) : Bool := isNumeralChar (charOf b)

/-- A token that is spelled with certain bytes behind its first one, and what follows it. -/
def wordToken? (t : Token) (cs : List Char) (rest : List UInt8) : Option (Token × List UInt8) :=
  if (bytesOf cs).isPrefixOf rest then some (t, rest.drop (bytesOf cs).length) else none

/-- The first token, and what follows it; a numeral goes as far as there are bytes of numerals. -/
def token? : List UInt8 → Option (Token × List UInt8)
  | [] => none
  | b :: rest =>
    match charOf b with
    | '[' => some (.openArray, rest)
    | ']' => some (.closeArray, rest)
    | '\x7b' => some (.openObject, rest)
    | '\x7d' => some (.closeObject, rest)
    | ':' => some (.colon, rest)
    | ',' => some (.comma, rest)
    | 'n' => wordToken? .null ['u', 'l', 'l'] rest
    | 't' => wordToken? (.bool true) ['r', 'u', 'e'] rest
    | 'f' => wordToken? (.bool false) ['a', 'l', 's', 'e'] rest
    | '"' => (stringBytes? rest).map fun r => (.string r.1, r.2)
    | c =>
      let cs := c :: (rest.takeWhile isNumeralByte).map charOf
      if isNumeral cs then some (.numeral cs, rest.dropWhile isNumeralByte) else none

theorem length_le_of_stringBytes? {bs s rest : List UInt8} (h : stringBytes? bs = some (s, rest)) :
    rest.length ≤ bs.length := by
  fun_induction stringBytes? bs generalizing s rest <;> simp_all <;> grind

theorem length_le_of_wordToken? {t t' : Token} {cs : List Char} {bs rest : List UInt8}
    (h : wordToken? t cs bs = some (t', rest)) : rest.length ≤ bs.length := by
  rw [wordToken?] at h
  split at h
  · cases h
    rw [List.length_drop]
    exact Nat.sub_le _ _
  · cases h

/-- What follows a token is shorter than what it was read from. -/
theorem length_lt_of_token? {bs rest : List UInt8} {t : Token} (h : token? bs = some (t, rest)) :
    rest.length < bs.length := by
  match bs with
  | [] => cases h
  | b :: bs =>
    refine Nat.lt_succ_of_le ?_
    rw [token?] at h
    split at h
    case h_7 | h_8 | h_9 => exact length_le_of_wordToken? h
    case h_10 =>
      obtain ⟨r, hr, heq⟩ := Option.map_eq_some_iff.1 h
      cases heq
      exact length_le_of_stringBytes? hr
    case h_11 =>
      simp only at h
      split at h
      · cases h
        exact (List.dropWhile_suffix _).length_le
      · cases h
    all_goals
      cases h
      exact Nat.le_refl _

/-- The tokens of a document. -/
def tokens? (bs : List UInt8) : Option (List Token) :=
  match bs with
  | [] => some []
  | b :: rest =>
    if isBlankByte b then tokens? rest
    else
      match h : token? (b :: rest) with
      | none => none
      | some (t, after) =>
        have := length_lt_of_token? h
        (tokens? after).map (t :: ·)
termination_by bs.length
decreasing_by
  · exact Nat.lt_succ_self _
  · exact this

/-! ### Trees -/

/-- A document as it is spelled. -/
inductive Tree
  /-- The absent value. -/
  | null
  /-- A truth value. -/
  | bool (b : Bool)
  /-- A numeral. -/
  | numeral (cs : List Char)
  /-- A string, without its quotes and with its escapes. -/
  | string (bytes : List UInt8)
  /-- A list. -/
  | array (items : List Tree)
  /-- Trees under names, which are spelled like strings. -/
  | object (members : List (List UInt8 × Tree))
  deriving Inhabited, Repr

/-- Tokens left over after a part of `ts` has been read. -/
abbrev Rest (ts : List Token) := { rest : List Token // rest.length < ts.length }

mutual

/-- Reads one tree. -/
def value? (ts : List Token) : Option (Tree × Rest ts) :=
  match ts with
  | .null :: rest => some (.null, ⟨rest, by simp⟩)
  | .bool b :: rest => some (.bool b, ⟨rest, by simp⟩)
  | .numeral cs :: rest => some (.numeral cs, ⟨rest, by simp⟩)
  | .string s :: rest => some (.string s, ⟨rest, by simp⟩)
  | .openArray :: .closeArray :: rest =>
    some (.array [], ⟨rest, by simp only [List.length_cons]; omega⟩)
  | .openArray :: rest =>
    (items? rest).map fun r => (.array r.1, ⟨r.2.1, by have := r.2.2; simp; omega⟩)
  | .openObject :: .closeObject :: rest =>
    some (.object [], ⟨rest, by simp only [List.length_cons]; omega⟩)
  | .openObject :: rest =>
    (members? rest).map fun r => (.object r.1, ⟨r.2.1, by have := r.2.2; simp; omega⟩)
  | _ => none
termination_by 2 * ts.length

/-- Reads the items of an array that has one at least, and its closing bracket. -/
def items? (ts : List Token) : Option (List Tree × Rest ts) :=
  match value? ts with
  | none => none
  | some (t, ⟨.closeArray :: rest, h⟩) => some ([t], ⟨rest, by simp at h; omega⟩)
  | some (t, ⟨.comma :: rest, h⟩) =>
    have : rest.length < ts.length := by simp at h; omega
    (items? rest).map fun r => (t :: r.1, ⟨r.2.1, by have := r.2.2; omega⟩)
  | some _ => none
termination_by 2 * ts.length + 1

/-- Reads the members of an object that has one at least, and its closing brace. -/
def members? (ts : List Token) : Option (List (List UInt8 × Tree) × Rest ts) :=
  match ts with
  | .string name :: .colon :: body =>
    match value? body with
    | none => none
    | some (t, ⟨.closeObject :: rest, h⟩) =>
      some ([(name, t)], ⟨rest, by simp at h ⊢; omega⟩)
    | some (t, ⟨.comma :: rest, h⟩) =>
      have : rest.length < body.length + 1 + 1 := by simp at h; omega
      (members? rest).map fun r =>
        ((name, t) :: r.1, ⟨r.2.1, by have := r.2.2; simp at h ⊢; omega⟩)
    | some _ => none
  | _ => none
termination_by 2 * ts.length + 1

end

/-- The tree of a document. -/
def tree? (bs : List UInt8) : Option Tree :=
  match tokens? bs with
  | none => none
  | some ts =>
    match value? ts with
    | some (t, ⟨[], _⟩) => some t
    | _ => none

end DocSearch.Json
