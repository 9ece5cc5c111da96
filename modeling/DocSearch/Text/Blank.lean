/-!
# Blank characters

The characters that separate words, and the cuts made along them: dropping blanks at the
ends of a text, telling whether it has any content, and splitting it into words or at a
given separator.  Texts are lists of characters here; the callers go through
`String.toList`.

## Main definitions

* `isBlank` — the Unicode `White_Space` property.
* `trim`, `isBlankText` — a text without its outer blanks; a text without content.
* `words` — the maximal runs of characters that are not blank.
* `splitAt` — the pieces between occurrences of one separator.
* `occursIn` — contiguous occurrence of one text in another.
* `order` — the order of texts by code points.

## References

Trimming and splitting, as `FilterValue`, `FieldMap`, `QueryCompiler`, `TextSearch`,
`matches_text` and `lookup` use them.
-/

namespace DocSearch.Text

/-- The Unicode `White_Space` characters. -/
def isBlank (c : Char) : Bool :=
  let n := c.toNat
  (9 ≤ n && n ≤ 13) || n == 0x20 || n == 0x85 || n == 0xA0 || n == 0x1680 ||
    (0x2000 ≤ n && n ≤ 0x200A) || n == 0x2028 || n == 0x2029 || n == 0x202F ||
    n == 0x205F || n == 0x3000

/-- The text from its first character that is not blank. -/
def trimLeft (cs : List Char) : List Char := cs.dropWhile isBlank

/-- The text up to its last character that is not blank. -/
def trimRight (cs : List Char) : List Char := (cs.reverse.dropWhile isBlank).reverse

/-- The text without the blanks around it. -/
def trim (cs : List Char) : List Char := trimRight (trimLeft cs)

/-- A text of blanks only; the empty text is one. -/
def isBlankText (cs : List Char) : Bool := cs.all isBlank

/-- The maximal runs of characters that are not blank, in order. -/
def words : List Char → List (List Char)
  | [] => []
  | c :: cs =>
    if isBlank c then words cs
    else
      match cs with
      | [] => [[c]]
      | d :: _ =>
        if isBlank d then [c] :: words cs
        else
          match words cs with
          | [] => [[c]]
          | w :: ws => (c :: w) :: ws

/-- The pieces of a text between the occurrences of `sep`; one more than there are
occurrences. -/
def splitAt (sep : Char) : List Char → List (List Char)
  | [] => [[]]
  | c :: cs =>
    if c = sep then [] :: splitAt sep cs
    else
      match splitAt sep cs with
      | [] => [[c]]
      | w :: ws => (c :: w) :: ws

/-- Whether `w` stands somewhere in the text as a contiguous piece. -/
def occursIn (w : List Char) : List Char → Bool
  | [] => w.isEmpty
  | c :: cs => w.isPrefixOf (c :: cs) || occursIn w cs

/-- The order of texts by their code points; a proper beginning comes first. -/
def order : List Char → List Char → Ordering
  | [], [] => .eq
  | [], _ :: _ => .lt
  | _ :: _, [] => .gt
  | a :: as, b :: bs => (compare a.toNat b.toNat).then (order as bs)

@[simp] theorem trimLeft_nil : trimLeft [] = [] := rfl

@[simp] theorem trim_nil : trim [] = [] := rfl

@[simp] theorem isBlankText_nil : isBlankText [] = true := rfl

@[simp] theorem isBlankText_cons (c : Char) (cs : List Char) :
    isBlankText (c :: cs) = (isBlank c && isBlankText cs) := rfl

@[simp] theorem words_nil : words [] = [] := rfl

@[simp] theorem splitAt_nil (sep : Char) : splitAt sep [] = [[]] := rfl

@[simp] theorem order_nil : order [] [] = .eq := rfl

/-- Splitting never gives an empty list of pieces. -/
theorem splitAt_ne_nil (sep : Char) (cs : List Char) : splitAt sep cs ≠ [] := by
  cases cs with
  | nil => simp
  | cons c cs =>
    rw [splitAt]
    split
    · simp
    · split <;> simp

end DocSearch.Text
