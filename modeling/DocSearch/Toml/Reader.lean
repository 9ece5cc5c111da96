import DocSearch.Toml.Node

/-!
# Reading settings files

Settings files are written in TOML: headings in brackets, and names with values.

## Main definitions

* `Toml.lines?` — a text with its line ends unified; only texts without stray controls.
* `Toml.keyPath?` — names separated by dots.
* `Toml.value?` — values: strings, lists, tables on one line, and words.
* `Toml.statements?` — the statements of a text.
* `Toml.tree?` — the tree that a text spells.
* `Toml.read?` — the values of the table that a text makes up.

## References

The files that `load` of `Config` reads, by the grammar of TOML.
-/

namespace DocSearch.Toml

open DocSearch.Number

/-! ### Lines and gaps -/

/-- The text without a byte order mark at its beginning. -/
def dropMark : List Char → List Char
  | '\ufeff' :: cs => cs
  | cs => cs

/-- The text with a line feed alone at each line end, unless it holds other controls than
line ends and tabs. -/
def lines? : List Char → Option (List Char)
  | [] => some []
  | '\r' :: '\n' :: cs => (lines? cs).map ('\n' :: ·)
  | c :: cs =>
    if (c.toNat < 0x20 ∧ c ≠ '\t' ∧ c ≠ '\n') ∨ c.toNat = 0x7F then none
    else (lines? cs).map (c :: ·)

/-- Whether a character is a blank within a line. -/
def isSpace (c : Char) : Bool := c == ' ' || c == '\t'

/-- The text behind the blanks at its beginning. -/
def skipSpace (cs : List Char) : List Char := cs.dropWhile isSpace

/-- The text behind blanks, line ends and comments at its beginning. -/
def skipGap (cs : List Char) : List Char :=
  match cs with
  | [] => []
  | c :: rest =>
    if isSpace c || c == '\n' then skipGap rest
    else if c = '#' then
      have : (rest.dropWhile (· != '\n')).length < rest.length + 1 :=
        Nat.lt_succ_of_le (List.dropWhile_suffix _).length_le
      skipGap (rest.dropWhile (· != '\n'))
    else c :: rest
termination_by cs.length

/-! ### Strings -/

/-- The characters up to a double quote, with their escapes, on one line. -/
def basicBody? : List Char → Option (List Char × List Char)
  | [] => none
  | '"' :: rest => some ([], rest)
  | '\\' :: c :: rest =>
    if c = '\n' then none else (basicBody? rest).map fun r => ('\\' :: c :: r.1, r.2)
  | c :: rest => if c = '\n' then none else (basicBody? rest).map fun r => (c :: r.1, r.2)

/-- The characters up to a single quote, on one line. -/
def literalBody? : List Char → Option (List Char × List Char)
  | [] => none
  | '\'' :: rest => some ([], rest)
  | c :: rest => if c = '\n' then none else (literalBody? rest).map fun r => (c :: r.1, r.2)

/-- The characters up to three double quotes, with their escapes; one or two quotes more
belong to the string. -/
def longBasicBody? : List Char → Option (List Char × List Char)
  | [] => none
  | '"' :: '"' :: '"' :: '"' :: '"' :: rest => some (['"', '"'], rest)
  | '"' :: '"' :: '"' :: '"' :: rest => some (['"'], rest)
  | '"' :: '"' :: '"' :: rest => some ([], rest)
  | '\\' :: c :: rest => (longBasicBody? rest).map fun r => ('\\' :: c :: r.1, r.2)
  | c :: rest => (longBasicBody? rest).map fun r => (c :: r.1, r.2)

/-- The characters up to three single quotes; one or two quotes more belong to the string. -/
def longLiteralBody? : List Char → Option (List Char × List Char)
  | [] => none
  | '\'' :: '\'' :: '\'' :: '\'' :: '\'' :: rest => some (['\'', '\''], rest)
  | '\'' :: '\'' :: '\'' :: '\'' :: rest => some (['\''], rest)
  | '\'' :: '\'' :: '\'' :: rest => some ([], rest)
  | c :: rest => (longLiteralBody? rest).map fun r => (c :: r.1, r.2)

/-- The character of a code given by hexadecimal digits. -/
def charOf? (ds : List Char) : Option Char :=
  (ds.mapM (digitIn? 16)).bind fun vs =>
    let n := vs.foldl (fun n v => n * 16 + v) 0
    if n.isValidChar then some (Char.ofNat n) else none

/-- The character behind an escape of one letter. -/
def escaped? : Char → Option Char
  | 'b' => some '\x08'
  | 't' => some '\t'
  | 'n' => some '\n'
  | 'f' => some '\x0c'
  | 'r' => some '\r'
  | '"' => some '"'
  | '\\' => some '\\'
  | _ => none

/-- The text with its escapes resolved; a backslash at the end of a line takes the blanks
and line ends behind it away. -/
def unescape? (cs : List Char) : Option (List Char) :=
  match cs with
  | [] => some []
  | '\\' :: 'u' :: a :: b :: c :: d :: rest =>
    (charOf? [a, b, c, d]).bind fun x => (unescape? rest).map (x :: ·)
  | '\\' :: 'U' :: a :: b :: c :: d :: e :: f :: g :: h :: rest =>
    (charOf? [a, b, c, d, e, f, g, h]).bind fun x => (unescape? rest).map (x :: ·)
  | '\\' :: c :: rest =>
    match escaped? c with
    | some x => (unescape? rest).map (x :: ·)
    | none =>
      if (skipSpace (c :: rest)).head? = some '\n' then
        have : (rest.dropWhile fun c => isSpace c || c == '\n').length < rest.length + 1 + 1 :=
          Nat.lt_succ_of_le
            (Nat.le_succ_of_le (List.dropWhile_suffix _).length_le)
        unescape? (rest.dropWhile fun c => isSpace c || c == '\n')
      else none
  | c :: rest => if c = '\\' then none else (unescape? rest).map (c :: ·)
termination_by cs.length

/-- The text behind a line end at its beginning, if there is one. -/
def dropLineEnd : List Char → List Char
  | '\n' :: cs => cs
  | cs => cs

/-- A string in any of the four forms, and what follows. -/
def string? : List Char → Option (List Char × List Char)
  | '"' :: '"' :: '"' :: rest =>
    (longBasicBody? (dropLineEnd rest)).bind fun r => (unescape? r.1).map fun s => (s, r.2)
  | '"' :: rest => (basicBody? rest).bind fun r => (unescape? r.1).map fun s => (s, r.2)
  | '\'' :: '\'' :: '\'' :: rest => longLiteralBody? (dropLineEnd rest)
  | '\'' :: rest => literalBody? rest
  | _ => none

/-! ### Names -/

/-- Whether a character may stand in a name without quotes. -/
def isNameChar (c : Char) : Bool :=
  isDigit c || c == '-' || c == '_' || (Nat.ble 'a'.toNat c.toNat && Nat.ble c.toNat 'z'.toNat) ||
    (Nat.ble 'A'.toNat c.toNat && Nat.ble c.toNat 'Z'.toNat)

/-- A name, and what follows. -/
def name? : List Char → Option (String × List Char)
  | '"' :: rest =>
    (basicBody? rest).bind fun r => (unescape? r.1).map fun s => (String.ofList s, r.2)
  | '\'' :: rest => (literalBody? rest).map fun r => (String.ofList r.1, r.2)
  | cs =>
    let word := cs.takeWhile isNameChar
    if word.isEmpty then none else some (String.ofList word, cs.dropWhile isNameChar)

/-- Names separated by dots, `count` of them at most, and what follows. -/
def names? : Nat → List Char → Option (List String × List Char)
  | 0, _ => none
  | count + 1, cs =>
    (name? (skipSpace cs)).bind fun r =>
      match skipSpace r.2 with
      | '.' :: rest => (names? count rest).map fun rs => (r.1 :: rs.1, rs.2)
      | rest => some ([r.1], rest)

/-- The number of names in a path, and of lists and tables inside each other. -/
def maxDepth : Nat := 79

/-- A path of names, and what follows it and blanks. -/
def keyPath? (cs : List Char) : Option (List String × List Char) := names? maxDepth cs

/-! ### Values -/

/-- Whether a character ends a word. -/
def endsWord (c : Char) : Bool :=
  isSpace c || c == '\n' || c == ',' || c == ']' || c == '\x7d' || c == '#'

/-- A word that stands for a value; between a day and a time there may be a space. -/
def word? (cs : List Char) : Option (Scalar × List Char) :=
  let word := cs.takeWhile fun c => !endsWord c
  let rest := cs.dropWhile fun c => !endsWord c
  let isDay : Bool :=
    match dateText? word with
    | some (_, []) => true
    | _ => false
  match rest with
  | ' ' :: d :: more =>
    if isDay && isDigit d then
      let time := (d :: more).takeWhile fun c => !endsWord c
      (scalarOf? (word ++ ' ' :: time)).map fun v =>
        (v, (d :: more).dropWhile fun c => !endsWord c)
    else (scalarOf? word).map fun v => (v, rest)
  | _ => (scalarOf? word).map fun v => (v, rest)

mutual

/-- A value, and what follows; `depth` more lists and tables may be opened. -/
def valueIn? (fuel depth : Nat) (cs : List Char) : Option (Node × List Char) :=
  match fuel with
  | 0 => none
  | fuel + 1 =>
    match cs with
    | [] => none
    | '[' :: rest => if depth = 0 then none else itemsIn? fuel (depth - 1) [] rest
    | '\x7b' :: rest =>
      if depth = 0 then none
      else
        match skipSpace rest with
        | '\x7d' :: rest => some (.inline [], rest)
        | rest => membersIn? fuel (depth - 1) [] rest
    | c :: rest =>
      if c = '"' ∨ c = '\'' then
        (string? (c :: rest)).map fun r => (.leaf (.text (String.ofList r.1)), r.2)
      else (word? (c :: rest)).map fun r => (.leaf r.1, r.2)

/-- The items of a list behind the ones in `found`, and its closing bracket. -/
def itemsIn? (fuel depth : Nat) (found : List Node) (cs : List Char) :
    Option (Node × List Char) :=
  match fuel with
  | 0 => none
  | fuel + 1 =>
    match skipGap cs with
    | ']' :: rest => some (.list found, rest)
    | cs =>
      match valueIn? fuel depth cs with
      | none => none
      | some (v, rest) =>
        match skipGap rest with
        | ',' :: rest => itemsIn? fuel depth (found ++ [v]) rest
        | ']' :: rest => some (.list (found ++ [v]), rest)
        | _ => none

/-- The members of a table on one line behind the ones in `found`, and its closing brace. -/
def membersIn? (fuel depth : Nat) (found : Entries) (cs : List Char) :
    Option (Node × List Char) :=
  match fuel with
  | 0 => none
  | fuel + 1 =>
    match keyPath? cs with
    | some (path, '=' :: rest) =>
      match valueIn? fuel depth (skipSpace rest) with
      | none => none
      | some (v, rest) =>
        match assign? path v found with
        | none => none
        | some found =>
          match skipSpace rest with
          | ',' :: rest => membersIn? fuel depth found rest
          | '\x7d' :: rest => some (.inline found, rest)
          | _ => none
    | _ => none

end

/-- A value, and what follows. -/
def value? (cs : List Char) : Option (Node × List Char) :=
  valueIn? (2 * cs.length + 2) maxDepth cs

/-! ### Statements -/

/-- A heading or a value under a path of names, and what follows. -/
def statement? : List Char → Option (Statement × List Char)
  | '[' :: '[' :: rest =>
    match keyPath? rest with
    | some (path, ']' :: ']' :: rest) => some (.element path, rest)
    | _ => none
  | '[' :: rest =>
    match keyPath? rest with
    | some (path, ']' :: rest) => some (.heading path, rest)
    | _ => none
  | cs =>
    match keyPath? cs with
    | some (path, '=' :: rest) =>
      (value? (skipSpace rest)).map fun r => (.assign path r.1, r.2)
    | _ => none

/-- The text behind the rest of a line, which may hold a comment. -/
def endOfLine? (cs : List Char) : Option (List Char) :=
  match skipSpace cs with
  | [] => some []
  | '\n' :: rest => some rest
  | '#' :: rest => some ((rest.dropWhile (· != '\n')).drop 1)
  | _ => none

/-- The statements of a text, each on lines of its own. -/
def statements? (fuel : Nat) (cs : List Char) : Option (List Statement) :=
  match fuel with
  | 0 => none
  | fuel + 1 =>
    match skipGap cs with
    | [] => some []
    | cs =>
      match statement? cs with
      | none => none
      | some (s, rest) =>
        match endOfLine? rest with
        | none => none
        | some rest => (statements? fuel rest).map (s :: ·)

/-- The tree that a text spells, as the entries of its root.  A byte order mark at the
beginning is passed over. -/
def tree? (cs : List Char) : Option Entries :=
  (lines? (dropMark cs)).bind fun cs =>
    (statements? (cs.length + 1) cs).bind fun ss => Statement.runAll? [] [] ss

/-- The values under the names of the table that a text makes up, which must not stand for
something else. -/
def read? (cs : List Char) : Option (List (String × Setting)) :=
  match (tree? cs).bind tableSetting? with
  | some (.table es) => some es
  | _ => none

end DocSearch.Toml
