import DocSearch.Text.Blank
import DocSearch.Text.CaseTables

/-!
# Lower case

Lower-casing of whole texts by the full rules for letters: one letter may become two, and
a capital sigma at the end of a word becomes the final form.

## Main definitions

* `lowerChar` — the lower-case form of one letter by itself.
* `endsWord` — whether a capital sigma between two texts stands at the end of a word.
* `lower` — a text in lower case.

## References

Lower-casing as `matches_text` uses it, by the rules of Unicode.
-/

namespace DocSearch.Text

/-- Whether a character is a letter with case. -/
def isCased (c : Char) : Bool := inRanges c.toNat casedRanges

/-- Whether a character is passed over when the letters around it are looked at. -/
def isCaseIgnorable (c : Char) : Bool := inRanges c.toNat caseIgnorableRanges

/-- The lower-case form of a character by itself; only `İ` has one of two characters. -/
def lowerChar (c : Char) : List Char :=
  if c.toNat < 0x80 then
    [if 'A'.toNat ≤ c.toNat ∧ c.toNat ≤ 'Z'.toNat then Char.ofNat (c.toNat + 32) else c]
  else if c.toNat = 0x130 then ['i', '\u0307']
  else
    match lowerRuns.find? (·.has c.toNat) with
    | some r => [Char.ofNat ((c.toNat : Int) + r.shift).toNat]
    | none => [c]

/-- Whether the first character that is not passed over is a letter with case. -/
def meetsCased (cs : List Char) : Bool :=
  match cs.dropWhile isCaseIgnorable with
  | [] => false
  | c :: _ => isCased c

/-- Whether a capital sigma stands at the end of a word: there is a letter before it
(`before` is read backwards) and none behind it. -/
def endsWord (before after : List Char) : Bool := meetsCased before && !meetsCased after

/-- `lower` on what follows `before`, which is kept backwards. -/
def lowerAfter (before : List Char) : List Char → List Char
  | [] => []
  | c :: cs =>
    (if c = 'Σ' then [if endsWord before cs then 'ς' else 'σ'] else lowerChar c) ++
      lowerAfter (c :: before) cs

/-- The text in lower case. -/
def lower (cs : List Char) : List Char := lowerAfter [] cs

@[simp] theorem lowerAfter_nil (before : List Char) : lowerAfter before [] = [] := rfl

@[simp] theorem lower_nil : lower [] = [] := rfl

end DocSearch.Text
