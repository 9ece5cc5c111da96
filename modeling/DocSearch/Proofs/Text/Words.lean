import DocSearch.Text.Blank
import Mathlib.Data.List.Basic
import Mathlib.Data.List.TakeWhile

/-!
# Words of texts

A word of a text is a run of characters that are not blank, with blanks or the ends of the
text on both sides.  `Text.words` finds these runs and no others; so blanks between two
texts keep their words apart, and blanks around a text do not matter.

## Main definitions

* `EndsBlank`, `BeginsBlank` — where a word may begin behind a text, or end before one.
* `IsWord` — the words of a text.

## Main results

* `mem_words_iff` — **`words` finds the words and nothing else.**
* `words_append_append` — the words of two texts with blanks between them.
* `words_trim`, `words_eq_nil_iff` — blanks around a text, and texts without words.
* `occursIn_iff` — `occursIn` is contiguous occurrence.
-/

namespace DocSearch.Text

/-- A text that has a blank at its end, if it has anything there. -/
def EndsBlank (cs : List Char) : Prop := ∀ c ∈ cs.getLast?, isBlank c = true

/-- A text that has a blank at its beginning, if it has anything there. -/
def BeginsBlank (cs : List Char) : Prop := ∀ c ∈ cs.head?, isBlank c = true

/-- A word of a text: characters that are not blank, between blanks or the ends of the text. -/
structure IsWord (cs w : List Char) : Prop where
  /-- There is a character in it. -/
  nonempty : w ≠ []
  /-- No character in it is blank. -/
  solid : ∀ c ∈ w, isBlank c = false
  /-- It does not go on to either side. -/
  between : ∃ before after, cs = before ++ w ++ after ∧ EndsBlank before ∧ BeginsBlank after

variable {c : Char} {cs w : List Char}

/-! ### What `words` finds -/

theorem words_singleton (c : Char) : words [c] = if isBlank c then [] else [[c]] := rfl

theorem words_cons_cons (c d : Char) (cs : List Char) :
    words (c :: d :: cs) =
      if isBlank c then words (d :: cs)
      else if isBlank d then [c] :: words (d :: cs)
      else
        match words (d :: cs) with
        | [] => [[c]]
        | w :: ws => (c :: w) :: ws := (rfl)

theorem words_of_blank (h : isBlank c = true) (cs : List Char) : words (c :: cs) = words cs := by
  cases cs with
  | nil => rw [words_singleton, if_pos h, words_nil]
  | cons d ds => rw [words_cons_cons, if_pos h]

/-- A word goes on up to the next blank. -/
theorem words_of_solid (h : isBlank c = false) (cs : List Char) :
    words (c :: cs) = (c :: cs.takeWhile fun d => !isBlank d) ::
      words (cs.dropWhile fun d => !isBlank d) := by
  induction cs generalizing c with
  | nil => simp [words_singleton, h]
  | cons d ds ih =>
    by_cases hd : isBlank d = true
    · simp [words_cons_cons, h, hd]
    · rw [Bool.not_eq_true] at hd
      simp [words_cons_cons, h, hd, ih hd]

/-- A text in front that has a blank at its end adds nothing to a word. -/
theorem IsWord.behind (h : IsWord cs w) (front : List Char) (hfront : EndsBlank front) :
    IsWord (front ++ cs) w := by
  obtain ⟨before, after, rfl, hbefore, hafter⟩ := h.between
  refine ⟨h.nonempty, h.solid, front ++ before, after, by simp, fun c hc => ?_, hafter⟩
  rw [List.getLast?_append] at hc
  rcases Option.or_eq_some_iff.1 hc with hc | ⟨-, hc⟩
  · exact hbefore c hc
  · exact hfront c hc

theorem isWord_of_mem_words : ∀ {cs : List Char}, w ∈ words cs → IsWord cs w
  | [], h => absurd h List.not_mem_nil
  | c :: cs, h => by
    by_cases hc : isBlank c = true
    · rw [words_of_blank hc] at h
      exact (isWord_of_mem_words h).behind [c] (by simpa [EndsBlank] using hc)
    · rw [Bool.not_eq_true] at hc
      have hcs := List.takeWhile_append_dropWhile (p := fun d => !isBlank d) (l := cs)
      have hsolid : ∀ d ∈ c :: cs.takeWhile (fun d => !isBlank d), isBlank d = false := by
        intro d hd
        rcases List.mem_cons.1 hd with rfl | hd
        · exact hc
        · simpa using List.mem_takeWhile_imp hd
      rw [words_of_solid hc] at h
      -- Behind the first word there is a blank, or nothing.
      cases hrest : cs.dropWhile fun d => !isBlank d with
      | nil =>
        rw [hrest] at h hcs
        obtain rfl := List.mem_singleton.1 h
        exact ⟨List.cons_ne_nil _ _, hsolid, [], [], by simpa using hcs.symm, by simp [EndsBlank],
          by simp [BeginsBlank]⟩
      | cons b rest =>
        have hb : isBlank b = true := by
          simpa [hrest] using List.head_dropWhile_not (fun d => !isBlank d) (l := cs)
        have hlength : rest.length < cs.length := by
          rw [← hcs, hrest]
          simp
          omega
        rw [hrest] at hcs h
        rw [words_of_blank hb] at h
        rcases List.mem_cons.1 h with rfl | h
        · exact ⟨List.cons_ne_nil _ _, hsolid, [], b :: rest, by simpa using hcs.symm,
            by simp [EndsBlank], by simpa [BeginsBlank] using hb⟩
        · have hword := (isWord_of_mem_words h).behind
            (c :: cs.takeWhile (fun d => !isBlank d) ++ [b])
            (by simpa [EndsBlank, List.getLast?_cons] using hb)
          rw [← hcs]
          simpa using hword
termination_by cs => cs.length

/-! ### Blanks between texts and around them -/

/-- **A blank keeps the words before it and behind it apart.** -/
theorem words_append_cons (hc : isBlank c = true) (ys : List Char) :
    ∀ xs : List Char, words (xs ++ c :: ys) = words xs ++ words ys
  | [] => words_of_blank hc ys
  | x :: xs => by
    have ih := words_append_cons hc ys xs
    by_cases hx : isBlank x = true
    · rw [List.cons_append, words_of_blank hx, words_of_blank hx, ih]
    · rw [Bool.not_eq_true] at hx
      cases xs with
      | nil => simp [words_cons_cons, words_singleton, words_of_blank hc, hx, hc]
      | cons d ds =>
        by_cases hd : isBlank d = true
        · have hskip : ∀ rest, words (x :: d :: rest) = [x] :: words (d :: rest) := fun rest => by
            simp [words_cons_cons, hx, hd]
          rw [List.cons_append, List.cons_append, hskip, hskip, ← List.cons_append, ih,
            List.cons_append]
        · -- The word of `d` is not finished, and `x` belongs to it.
          rw [Bool.not_eq_true] at hd
          have hjoin : ∀ rest v vs, words (d :: rest) = v :: vs →
              words (x :: d :: rest) = (x :: v) :: vs := fun rest v vs hv => by
            simp [words_cons_cons, hx, hd, hv]
          have hfirst := words_of_solid hd ds
          rw [hjoin _ _ _ hfirst, List.cons_append, List.cons_append]
          rw [hfirst, List.cons_append, List.cons_append] at ih
          rw [hjoin _ _ _ ih, List.cons_append]

theorem words_eq_nil_iff : words cs = [] ↔ ∀ c ∈ cs, isBlank c = true := by
  induction cs with
  | nil => simp
  | cons c cs ih =>
    by_cases hc : isBlank c = true
    · rw [words_of_blank hc, ih]
      simp [hc]
    · rw [Bool.not_eq_true] at hc
      rw [words_of_solid hc]
      simp [hc]

/-- Blanks in front of a text add no words. -/
theorem words_blanks_append {bs : List Char} (h : ∀ c ∈ bs, isBlank c = true)
    (ys : List Char) : words (bs ++ ys) = words ys := by
  induction bs with
  | nil => rfl
  | cons b bs ih =>
    rw [List.cons_append, words_of_blank (h b List.mem_cons_self),
      ih fun c hc => h c (List.mem_cons_of_mem _ hc)]

/-- Blanks behind a text add no words. -/
theorem words_append_blanks {bs : List Char} (h : ∀ c ∈ bs, isBlank c = true)
    (xs : List Char) : words (xs ++ bs) = words xs := by
  cases bs with
  | nil => rw [List.append_nil]
  | cons b bs =>
    have hnone := words_eq_nil_iff.2 fun c hc => h c (List.mem_cons_of_mem _ hc)
    rw [words_append_cons (h b List.mem_cons_self), hnone, List.append_nil]

/-- **The words of two texts with blanks between them** are the words of the one and then
those of the other. -/
theorem words_append_append {gap : List Char} (hne : gap ≠ [])
    (hgap : ∀ c ∈ gap, isBlank c = true) (xs ys : List Char) :
    words (xs ++ gap ++ ys) = words xs ++ words ys := by
  obtain ⟨c, bs, rfl⟩ := List.exists_cons_of_ne_nil hne
  rw [List.append_assoc, List.cons_append, words_append_cons (hgap c List.mem_cons_self),
    words_blanks_append fun d hd => hgap d (List.mem_cons_of_mem _ hd)]

/-- Blanks around a text add no words and take none away. -/
theorem words_trim (cs : List Char) : words (trim cs) = words cs := by
  have hleft : ∀ cs, words (trimLeft cs) = words cs := fun cs => by
    have hblank : ∀ c ∈ cs.takeWhile isBlank, isBlank c = true := fun c =>
      List.mem_takeWhile_imp
    rw [← words_blanks_append hblank (trimLeft cs), trimLeft, List.takeWhile_append_dropWhile]
  have hright : ∀ cs, words (trimRight cs) = words cs := fun cs => by
    have hblank : ∀ c ∈ (cs.reverse.takeWhile isBlank).reverse, isBlank c = true := fun c hc =>
      List.mem_takeWhile_imp (List.mem_reverse.1 hc)
    rw [← words_append_blanks hblank (trimRight cs), trimRight, ← List.reverse_append,
      List.takeWhile_append_dropWhile, List.reverse_reverse]
  rw [trim, hright, hleft]

/-- Without its outer blanks a text is empty exactly when it has no words. -/
theorem trim_eq_nil_iff : trim cs = [] ↔ words cs = [] := by
  constructor
  · intro h
    rw [← words_trim, h, words_nil]
  · intro h
    have hall := words_eq_nil_iff.1 h
    rw [trim, trimLeft, List.dropWhile_eq_nil_iff.2 hall]
    rfl

/-- **`words` finds the words and nothing else.** -/
theorem mem_words_iff : w ∈ words cs ↔ IsWord cs w := by
  refine ⟨isWord_of_mem_words, fun h => ?_⟩
  obtain ⟨before, after, rfl, hbefore, hafter⟩ := h.between
  -- With nothing behind it the word is the first of all words.
  obtain ⟨c, u, rfl⟩ := List.exists_cons_of_ne_nil h.nonempty
  have hu : ∀ d ∈ u, (!isBlank d) = true := fun d hd => by
    rw [h.solid d (List.mem_cons_of_mem _ hd)]
    rfl
  have hfirst : c :: u ∈ words (c :: u ++ after) := by
    rw [List.cons_append, words_of_solid (h.solid c List.mem_cons_self),
      List.takeWhile_append_of_pos hu]
    cases after with
    | nil => simp
    | cons b bs => simp [hafter b rfl]
  rcases List.eq_nil_or_concat before with rfl | ⟨front, b, rfl⟩
  · exact hfirst
  · have hb : isBlank b = true := hbefore b (by simp)
    have hsplit := words_append_cons hb (c :: u ++ after) front
    rw [List.concat_eq_append, List.append_assoc, List.append_assoc, List.singleton_append, hsplit]
    exact List.mem_append_right _ hfirst

/-! ### Occurrence -/

/-- `occursIn` is contiguous occurrence. -/
theorem occursIn_iff : occursIn w cs = true ↔ w <:+: cs := by
  induction cs with
  | nil => simp [occursIn]
  | cons c cs ih =>
    rw [occursIn, Bool.or_eq_true, ih, List.infix_cons_iff, List.isPrefixOf_iff_prefix]

end DocSearch.Text
