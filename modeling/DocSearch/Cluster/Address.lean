import DocSearch.Text.Blank

/-!
# Addresses

What of an address is sent as the target of a request: the path with its dots resolved, and
the query, both with all characters escaped that may not stand there.  Escapes are made of the
bytes of a character, and so is the form in which a user and a password are sent.

## Main definitions

* `Text.utf8Bytes` — the bytes of a character.
* `Text.percentEncode` — the bytes of some characters as `%` and two digits.
* `Text.base64` — three bytes in four characters.
* `cleanAddress` — an address without the controls that are passed over.
* `afterHost?` — what stands behind the host of an address.
* `resolveDots` — the segments of a path without `.` and `..`.
* `targetOf?` — the target for an address and one more parameter.

## References

The addresses that `search_url` makes, by the rules for addresses that the client for messages
keeps.
-/

namespace DocSearch

namespace Text

/-- The bytes of a character. -/
def utf8Bytes (c : Char) : List Nat := (String.utf8EncodeChar c).map UInt8.toNat

/-- A hexadecimal digit in upper case. -/
def upperHexDigit (n : Nat) : Char :=
  if n < 10 then Char.ofNat ('0'.toNat + n) else Char.ofNat ('A'.toNat + (n - 10))

/-- A byte as `%` and two hexadecimal digits. -/
def percentByte (b : Nat) : List Char := ['%', upperHexDigit (b / 16), upperHexDigit (b % 16)]

/-- The text with the bytes of some of its characters written out. -/
def percentEncode (reserved : Char → Bool) (cs : List Char) : List Char :=
  cs.flatMap fun c => if reserved c then (utf8Bytes c).flatMap percentByte else [c]

/-- The character for six bits. -/
def base64Char (n : Nat) : Char :=
  if n < 26 then Char.ofNat ('A'.toNat + n)
  else if n < 52 then Char.ofNat ('a'.toNat + (n - 26))
  else if n < 62 then Char.ofNat ('0'.toNat + (n - 52))
  else if n = 62 then '+'
  else '/'

/-- Bytes in characters of six bits each, filled up to groups of four. -/
def base64 : List Nat → List Char
  | a :: b :: c :: rest =>
    base64Char (a / 4) :: base64Char (a % 4 * 16 + b / 16) ::
      base64Char (b % 16 * 4 + c / 64) :: base64Char (c % 64) :: base64 rest
  | [a, b] =>
    [base64Char (a / 4), base64Char (a % 4 * 16 + b / 16), base64Char (b % 16 * 4), '=']
  | [a] => [base64Char (a / 4), base64Char (a % 4 * 16), '=', '=']
  | [] => []

end Text

namespace Cluster

/-- The address without blanks and controls around it, and without line ends and tabs. -/
def cleanAddress (cs : List Char) : List Char :=
  let outer (c : Char) : Bool := Nat.ble c.toNat 0x20
  ((cs.dropWhile outer).reverse.dropWhile outer).reverse.filter fun c =>
    c != '\t' && c != '\n' && c != '\r'

/-- Whether a character separates segments of a path. -/
def isSlash (c : Char) : Bool := c == '/' || c == '\\'

/-- An ASCII letter in lower case, and any other character as it is. -/
def lowerAscii (c : Char) : Char :=
  if 'A'.toNat ≤ c.toNat ∧ c.toNat ≤ 'Z'.toNat then Char.ofNat (c.toNat + 32) else c

/-- Whether a character may stand in the name of a host. -/
def isHostChar (c : Char) : Bool := !(isSlash c || c == '?' || c == '#')

/-- What stands behind the host of an address; nothing for an address without one. -/
def afterHost? (cs : List Char) : Option (List Char) :=
  let rest :=
    if "http:".toList.isPrefixOf (cs.map lowerAscii) then some (cs.drop 5)
    else if "https:".toList.isPrefixOf (cs.map lowerAscii) then some (cs.drop 6)
    else none
  rest.bind fun rest =>
    let body := rest.dropWhile isSlash
    if (body.takeWhile isHostChar).isEmpty then none else some (body.dropWhile isHostChar)

/-- Whether a character may not stand in a target: controls, blanks, `"`, `<`, `>` and all
beyond ASCII. -/
def isUnsafe (c : Char) : Bool :=
  Nat.ble c.toNat 0x20 || Nat.ble 0x7F c.toNat || c == '"' || c == '<' || c == '>'

/-- Whether a character may not stand in a path. -/
def isReservedInPath (c : Char) : Bool :=
  isUnsafe c || c == '\x60' || c == '\x7b' || c == '\x7d'

/-- Whether a character may not stand in a query. -/
def isReservedInQuery (c : Char) : Bool := isUnsafe c || c == '\''

/-- The segment with each escaped dot as a dot. -/
def plainDots : List Char → List Char
  | '%' :: '2' :: 'e' :: cs => '.' :: plainDots cs
  | '%' :: '2' :: 'E' :: cs => '.' :: plainDots cs
  | c :: cs => c :: plainDots cs
  | [] => []

/-- The segments behind the ones in `done`, which are kept backwards, without dots. -/
def resolveDots (done : List (List Char)) : List (List Char) → List (List Char)
  | [] => done.reverse
  | [last] =>
    if plainDots last = ['.', '.'] then (done.drop 1).reverse ++ [[]]
    else if plainDots last = ['.'] then done.reverse ++ [[]]
    else done.reverse ++ [last]
  | s :: ss =>
    if plainDots s = ['.', '.'] then resolveDots (done.drop 1) ss
    else if plainDots s = ['.'] then resolveDots done ss
    else resolveDots (s :: done) ss

/-- The path of a target. -/
def pathText (cs : List Char) : List Char :=
  let segments := Text.splitAt '/' (cs.map fun c => if c = '\\' then '/' else c)
  let segments := if segments.head? = some [] then segments.drop 1 else segments
  (resolveDots [] segments).flatMap fun s => '/' :: Text.percentEncode isReservedInPath s

/-- The target for an address, with one more parameter in its query. -/
def targetOf? (address parameter : List Char) : Option (List Char) :=
  (afterHost? (cleanAddress address)).map fun rest =>
    let rest := rest.takeWhile (· != '#')
    let path := rest.takeWhile (· != '?')
    let query := Text.percentEncode isReservedInQuery ((rest.dropWhile (· != '?')).drop 1)
    pathText path ++ '?' ::
      (if query.isEmpty then parameter else query ++ '&' :: parameter)

end Cluster

end DocSearch
