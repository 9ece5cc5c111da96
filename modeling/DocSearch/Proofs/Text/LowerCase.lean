import DocSearch.Proofs.Text.Words
import DocSearch.Text.LowerCase

/-!
# Lower case of pieces of a text

A text is lower-cased letter by letter, but for capital sigmas, whose form depends on the
letters before them and behind them.  So a piece of a text need not become in the text what
it becomes on its own: it does exactly when each of its sigmas ends a word in the text where
it ends one in the piece.  That can fail only for a sigma without a letter behind it in the
piece, and only where the piece stands next to a letter.

## Main definitions

* `lowerBetween` — a piece of a text in lower case, where it stands.
* `KeepsForms` — the places where each sigma of a piece keeps the form that it has in the
  piece by itself.

## Main results

* `lower_append` — the lower-case form of a text around a piece.
* `lowerBetween_eq_lower_iff` — **a piece becomes what it becomes by itself exactly where its
  sigmas keep their forms.**
* `keepsForms_of_letters`, `keepsForms_of_blanks` — pieces and places without such a sigma.
-/

namespace DocSearch.Text

/-- The lower-case form of a piece of a text, `before` and `after` the rest of the text;
`before` is read backwards. -/
def lowerBetween (before : List Char) : List Char → List Char → List Char
  | [], _ => []
  | c :: cs, after =>
    (if c = 'Σ' then [if endsWord before (cs ++ after) then 'ς' else 'σ'] else lowerChar c) ++
      lowerBetween (c :: before) cs after

/-- Each capital sigma in the piece `w` ends a word between `before` and `after` if it ends
one in `w` by itself, and only then. -/
def KeepsForms (before w after : List Char) : Prop :=
  ∀ front back, w = front ++ 'Σ' :: back →
    endsWord (front.reverse ++ before.reverse) (back ++ after) = endsWord front.reverse back

/-! ### Cutting a text -/

theorem lowerAfter_append (before w after : List Char) :
    lowerAfter before (w ++ after) =
      lowerBetween before w after ++ lowerAfter (w.reverse ++ before) after := by
  induction w generalizing before with
  | nil => rfl
  | cons c cs ih =>
    rw [List.cons_append, lowerAfter, ih, lowerBetween, List.append_assoc, List.reverse_cons,
      List.append_assoc, List.singleton_append]

/-- A text by itself is a piece with nothing around it. -/
theorem lowerBetween_nil (before w : List Char) :
    lowerBetween before w [] = lowerAfter before w := by
  have h := lowerAfter_append before w []
  rw [List.append_nil, lowerAfter_nil, List.append_nil] at h
  exact h.symm

/-- The lower-case form of a text around a piece. -/
theorem lower_append (before w after : List Char) :
    lower (before ++ w ++ after) = lowerBetween [] before (w ++ after) ++
      lowerBetween before.reverse w after ++
        lowerAfter (w.reverse ++ before.reverse) after := by
  rw [lower, List.append_assoc, lowerAfter_append, lowerAfter_append, List.append_nil,
    List.append_assoc]

/-! ### Sigmas that keep their forms -/

/-- Two places give a piece the same lower-case form when they give each sigma the same. -/
theorem lowerBetween_eq_iff {before before' w after after' : List Char} :
    lowerBetween before w after = lowerBetween before' w after' ↔
      ∀ front back, w = front ++ 'Σ' :: back →
        endsWord (front.reverse ++ before) (back ++ after) =
          endsWord (front.reverse ++ before') (back ++ after') := by
  induction w generalizing before before' with
  | nil => simp [lowerBetween]
  | cons c cs ih =>
    have hrest : lowerBetween (c :: before) cs after = lowerBetween (c :: before') cs after' ↔ _ :=
      ih
    constructor
    · intro h front back hw
      rw [lowerBetween, lowerBetween] at h
      cases front with
      | nil =>
        obtain ⟨rfl, rfl⟩ := List.cons.inj hw
        rw [if_pos rfl, if_pos rfl] at h
        have hform := (List.cons.inj h).1
        cases hends : endsWord before (cs ++ after) <;>
          cases hends' : endsWord before' (cs ++ after') <;> simp_all
      | cons d front =>
        obtain ⟨rfl, hcs⟩ := List.cons.inj hw
        -- The first letters have the same forms, whatever they are, since their lengths agree.
        have hlength : (if c = 'Σ' then [if endsWord before (cs ++ after) then 'ς' else 'σ']
            else lowerChar c).length = (if c = 'Σ' then
              [if endsWord before' (cs ++ after') then 'ς' else 'σ'] else lowerChar c).length := by
          split <;> rfl
        have htail := hrest.1 (List.append_inj h hlength).2 front back hcs
        simpa using htail
    · intro h
      have htail := hrest.2 fun front back hcs => by
        simpa using h (c :: front) back (by rw [hcs, List.cons_append])
      rw [lowerBetween, lowerBetween, htail]
      by_cases hc : c = 'Σ'
      · have hhead := h [] cs (by rw [hc, List.nil_append])
        rw [List.reverse_nil, List.nil_append, List.nil_append] at hhead
        rw [hhead]
      · rw [if_neg hc, if_neg hc]

/-- **A piece becomes what it becomes by itself exactly where its sigmas keep their forms.** -/
theorem lowerBetween_eq_lower_iff {before w after : List Char} :
    lowerBetween before.reverse w after = lower w ↔ KeepsForms before w after := by
  rw [lower, ← lowerBetween_nil, lowerBetween_eq_iff]
  simp only [List.append_nil, KeepsForms]

/-- In a text the piece stands in lower case as it is by itself, where its sigmas keep their
forms. -/
theorem lower_infix_lower {before w after : List Char} (h : KeepsForms before w after) :
    lower w <:+: lower (before ++ w ++ after) := by
  rw [lower_append, lowerBetween_eq_lower_iff.2 h]
  exact ⟨_, _, rfl⟩

/-! ### Letters around a sigma -/

/-- What follows matters only where everything before it is passed over. -/
theorem meetsCased_append (xs ys : List Char) :
    meetsCased (xs ++ ys) = if xs.all isCaseIgnorable then meetsCased ys else meetsCased xs := by
  induction xs with
  | nil => rfl
  | cons c cs ih =>
    by_cases hc : isCaseIgnorable c = true
    · have hskip : ∀ rest, meetsCased (c :: rest) = meetsCased rest := fun rest => by
        rw [meetsCased, List.dropWhile_cons_of_pos hc, meetsCased]
      rw [List.cons_append, hskip, hskip, ih, List.all_cons, hc, Bool.true_and]
    · rw [Bool.not_eq_true] at hc
      have hstop : ∀ rest, meetsCased (c :: rest) = isCased c := fun rest => by
        rw [meetsCased, List.dropWhile_cons_of_neg (by rw [hc]; decide)]
      rw [List.cons_append, hstop, hstop, List.all_cons, hc, Bool.false_and,
        if_neg Bool.false_ne_true]

/-- A text whose characters are all passed over meets no letter. -/
theorem meetsCased_of_all {xs : List Char} (h : xs.all isCaseIgnorable = true) :
    meetsCased xs = false := by
  have hnil := meetsCased_append xs []
  rw [List.append_nil, if_pos h] at hnil
  exact hnil

theorem meetsCased_append_of_false {ys : List Char} (h : meetsCased ys = false)
    (xs : List Char) : meetsCased (xs ++ ys) = meetsCased xs := by
  rw [meetsCased_append]
  split
  · next hall => rw [h, meetsCased_of_all hall]
  · rfl

theorem meetsCased_append_of_true {xs : List Char} (h : meetsCased xs = true)
    (ys : List Char) : meetsCased (xs ++ ys) = true := by
  rw [meetsCased_append, h, if_neg]
  intro hall
  rw [meetsCased_of_all hall] at h
  cases h

/-- A sigma with a letter behind it never ends a word. -/
theorem endsWord_of_meetsCased {after : List Char} (h : meetsCased after = true)
    (before : List Char) : endsWord before after = false := by
  rw [endsWord, h, Bool.not_true, Bool.and_false]

/-- **A piece keeps its forms everywhere** if each of its sigmas, if there are any, has a letter
behind it in the piece. -/
theorem keepsForms_of_letters {w : List Char}
    (h : ∀ front back, w = front ++ 'Σ' :: back → meetsCased back = true)
    (before after : List Char) : KeepsForms before w after := by
  intro front back hw
  have hback := h front back hw
  rw [endsWord_of_meetsCased hback, endsWord_of_meetsCased (meetsCased_append_of_true hback _)]

/-- A piece keeps its forms where it stands next to no letter. -/
theorem keepsForms_of_apart {before after : List Char} (hbefore : meetsCased before.reverse = false)
    (hafter : meetsCased after = false) (w : List Char) : KeepsForms before w after := by
  intro front back _
  rw [endsWord, endsWord, meetsCased_append_of_false hbefore, meetsCased_append_of_false hafter]

/-! ### Blanks around a piece -/

/-- The blank characters, by their numbers. -/
def blankCodes : List Nat :=
  [9, 10, 11, 12, 13, 0x20, 0x85, 0xA0, 0x1680, 0x2000, 0x2001, 0x2002, 0x2003, 0x2004, 0x2005,
    0x2006, 0x2007, 0x2008, 0x2009, 0x200A, 0x2028, 0x2029, 0x202F, 0x205F, 0x3000]

theorem mem_blankCodes {c : Char} (h : isBlank c = true) : c.toNat ∈ blankCodes := by
  simp only [isBlank, Bool.or_eq_true, Bool.and_eq_true, decide_eq_true_eq, beq_iff_eq] at h
  simp only [blankCodes, List.mem_cons, List.not_mem_nil, or_false]
  omega

/-- A blank is no letter, and it is not passed over. -/
theorem not_letter_of_isBlank {c : Char} (h : isBlank c = true) :
    isCased c = false ∧ isCaseIgnorable c = false := by
  have hall : ∀ n ∈ blankCodes, inRanges n casedRanges = false ∧
      inRanges n caseIgnorableRanges = false := by decide +kernel
  exact hall c.toNat (mem_blankCodes h)

theorem meetsCased_of_beginsBlank {cs : List Char} (h : BeginsBlank cs) :
    meetsCased cs = false := by
  cases cs with
  | nil => rfl
  | cons c cs =>
    obtain ⟨hcased, hstop⟩ := not_letter_of_isBlank (h c rfl)
    rw [meetsCased, List.dropWhile_cons_of_neg (by rw [hstop]; decide)]
    exact hcased

/-- **A piece keeps its forms between blanks** or the ends of the text. -/
theorem keepsForms_of_blanks {before after : List Char} (hbefore : EndsBlank before)
    (hafter : BeginsBlank after) (w : List Char) : KeepsForms before w after := by
  refine keepsForms_of_apart (meetsCased_of_beginsBlank fun c hc => ?_)
    (meetsCased_of_beginsBlank hafter) w
  rw [List.head?_reverse] at hc
  exact hbefore c hc

end DocSearch.Text
