import DocSearch.Json.Basic
import DocSearch.Text.Printable

/-!
# Writing documents as text

Two ways to write a document: on one line without blanks, and indented by two spaces for
each level.  Members are written in the order in which the document holds them.

## Main definitions

* `Json.stringText` — a string with its escapes.
* `Json.compactText` — the document on one line.
* `Json.prettyText` — the document indented; an empty array or object stays on one line.

## References

The body of a message, and `print_json`.
-/

namespace DocSearch.Json

/-- A character inside a string. -/
def stringChar (c : Char) : List Char :=
  if c = '"' then ['\\', '"']
  else if c = '\\' then ['\\', '\\']
  else if c = '\x08' then ['\\', 'b']
  else if c = '\x0c' then ['\\', 'f']
  else if c = '\n' then ['\\', 'n']
  else if c = '\r' then ['\\', 'r']
  else if c = '\t' then ['\\', 't']
  else if c.toNat < 0x20 then ['\\', 'u'] ++ Text.hexPadded 4 c.toNat
  else [c]

/-- A string between quotes. -/
def stringText (s : String) : List Char := '"' :: (s.toList.flatMap stringChar ++ ['"'])

/-- The text of a truth value. -/
def boolText (b : Bool) : List Char := (if b then "true" else "false").toList

mutual

/-- The document on one line. -/
def compactText : Json → List Char
  | .null => ['n', 'u', 'l', 'l']
  | .bool b => boolText b
  | .number n => n.text
  | .string s => stringText s
  | .array items => '[' :: (compactItems items ++ [']'])
  | .object ms => '\x7b' :: (compactMembers ms ++ ['\x7d'])

/-- Items between commas. -/
def compactItems : List Json → List Char
  | [] => []
  | [j] => compactText j
  | j :: js => compactText j ++ ',' :: compactItems js

/-- Members between commas. -/
def compactMembers : List (String × Json) → List Char
  | [] => []
  | [m] => stringText m.1 ++ ':' :: compactText m.2
  | m :: ms => stringText m.1 ++ ':' :: (compactText m.2 ++ ',' :: compactMembers ms)

end

/-- A new line, indented for a level. -/
def lineStart (level : Nat) : List Char := '\n' :: List.replicate (2 * level) ' '

mutual

/-- The document indented, itself standing at a level. -/
def prettyText (level : Nat) : Json → List Char
  | .null => ['n', 'u', 'l', 'l']
  | .bool b => boolText b
  | .number n => n.text
  | .string s => stringText s
  | .array [] => ['[', ']']
  | .array items => '[' :: (prettyItems (level + 1) items ++ lineStart level ++ [']'])
  | .object [] => ['\x7b', '\x7d']
  | .object ms => '\x7b' :: (prettyMembers (level + 1) ms ++ lineStart level ++ ['\x7d'])

/-- Items, each on lines of its own. -/
def prettyItems (level : Nat) : List Json → List Char
  | [] => []
  | [j] => lineStart level ++ prettyText level j
  | j :: js => lineStart level ++ prettyText level j ++ ',' :: prettyItems level js

/-- Members, each on lines of its own. -/
def prettyMembers (level : Nat) : List (String × Json) → List Char
  | [] => []
  | [m] => lineStart level ++ stringText m.1 ++ ':' :: ' ' :: prettyText level m.2
  | m :: ms =>
    lineStart level ++ stringText m.1 ++
      ':' :: ' ' :: (prettyText level m.2 ++ ',' :: prettyMembers level ms)

end

end DocSearch.Json
