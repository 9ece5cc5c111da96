import DocSearch.Number.Decimal
import DocSearch.Text.Blank
import Mathlib.Data.List.DropRight
import Mathlib.Data.List.TakeWhile

/-!
# Runs of digits

Numbers are written as runs of digits with something else behind them, and are read back
by taking digits from the front.  Cutting a text where its first run of digits ends
recovers the run, and the value of a padded run is the number that was written.

## Main definitions

* `DigitsEnd` — a text that does not go on with a digit.

## Main results

* `length_padTo`, `valueOf_padTo` — the width and the value of a padded number.
* `padTo_succ` — a padded number, digit by digit.
* `takeWhile_isDigit_append`, `dropWhile_isDigit_append` — a run of digits and the text
  behind it are recovered from the two together.
-/

namespace DocSearch

namespace Number

/-! ### Digits -/

theorem isBlank_of_isDigit {c : Char} (h : isDigit c = true) : Text.isBlank c = false := by
  simp only [isDigit, Bool.and_eq_true, decide_eq_true_eq] at h
  obtain ⟨hlow, hhigh⟩ := h
  have hlow : 48 ≤ c.toNat := hlow
  have hhigh : c.toNat ≤ 57 := hhigh
  simp only [Text.isBlank, Bool.or_eq_false_iff, Bool.and_eq_false_iff,
    decide_eq_false_iff_not, beq_eq_false_iff_ne]
  omega

/-- A digit is none of the characters that are not digits. -/
theorem ne_of_isDigit {c d : Char} (h : isDigit c = true) (hd : isDigit d = false) : c ≠ d := by
  rintro rfl
  rw [h] at hd
  cases hd

theorem digitValue_le {c : Char} (h : isDigit c = true) : digitValue c ≤ 9 := by
  simp only [isDigit, Bool.and_eq_true, decide_eq_true_eq] at h
  exact Nat.sub_le_sub_right h.2 _

/-- Digits denote a number with no more digits than there are. -/
theorem valueFrom_lt {ds : List Char} (hd : ∀ c ∈ ds, isDigit c = true) (n : Nat) :
    valueFrom n ds < (n + 1) * tenTo ds.length := by
  induction ds generalizing n with
  | nil => exact Nat.lt_of_lt_of_eq (Nat.lt_succ_self n) (Nat.mul_one _).symm
  | cons d ds ih =>
    have hdigit := digitValue_le (hd d List.mem_cons_self)
    rw [valueFrom_cons]
    calc valueFrom (10 * n + digitValue d) ds
        < (10 * n + digitValue d + 1) * tenTo ds.length :=
          ih (fun c hc => hd c (List.mem_cons_of_mem _ hc)) _
      _ ≤ ((n + 1) * 10) * tenTo ds.length := Nat.mul_le_mul_right _ (by omega)
      _ = (n + 1) * tenTo (ds.length + 1) := by
          rw [Nat.mul_assoc, Nat.mul_comm 10]
          rfl

theorem valueOf_lt {ds : List Char} (hd : ∀ c ∈ ds, isDigit c = true) :
    valueOf ds < tenTo ds.length := by
  have hlt := valueFrom_lt hd 0
  rwa [Nat.zero_add, Nat.one_mul] at hlt

/-! ### Padded numbers -/

/-- Below a power of ten there are no more digits than its exponent. -/
theorem length_digitsOf_le {w n : Nat} (hw : 0 < w) (h : n < tenTo w) :
    (digitsOf n).length ≤ w := by
  induction w generalizing n with
  | zero => omega
  | succ w ih =>
    rw [digitsOf]
    split
    · exact hw
    · next hn =>
      -- At least two digits, so the exponent was not one.
      have hpos : 0 < w := by
        rcases Nat.eq_zero_or_pos w with rfl | hpos
        · have h : n < 10 := h
          omega
        · exact hpos
      have hlt : n / 10 < tenTo w := by
        have : tenTo (w + 1) = tenTo w * 10 := rfl
        omega
      have := ih hpos hlt
      rw [List.length_append, List.length_singleton]
      omega

theorem isDigit_of_mem_padTo {w n : Nat} {c : Char} (h : c ∈ padTo w n) : isDigit c = true := by
  rcases List.mem_append.1 h with h | h
  · rw [List.eq_of_mem_replicate h]
    decide
  · exact isDigit_of_mem_digitsOf c h

theorem padTo_ne_nil (w n : Nat) : padTo w n ≠ [] := by
  intro h
  exact digitsOf_ne_nil n (List.append_eq_nil_iff.1 h).2

/-- A number that fits is padded to the width exactly. -/
theorem length_padTo {w n : Nat} (hw : 0 < w) (h : n < tenTo w) : (padTo w n).length = w := by
  have := length_digitsOf_le hw h
  rw [padTo, List.length_append, List.length_replicate]
  omega

theorem padTo_of_lt_ten {n : Nat} (h : n < 10) : padTo 1 n = [digitChar n] := by
  unfold padTo
  rw [digitsOf, if_pos h]
  rfl

/-- The last digit comes off the end of a padded number. -/
theorem padTo_succ {w : Nat} (hw : 0 < w) (n : Nat) :
    padTo (w + 1) n = padTo w (n / 10) ++ [digitChar (n % 10)] := by
  simp only [padTo]
  by_cases h : n < 10
  · -- There are only zeros in front of it then, one of them from the padded zero.
    have hzero : digitsOf 0 = ['0'] := by
      rw [digitsOf, if_pos (by decide)]
      rfl
    rw [digitsOf, if_pos h, Nat.div_eq_of_lt h, Nat.mod_eq_of_lt h, hzero]
    obtain ⟨k, rfl⟩ : ∃ k, w = k + 1 := Nat.exists_eq_add_one.mpr hw
    exact congrArg (· ++ [digitChar n]) (List.replicate_succ' (n := k))
  · rw [digitsOf, if_neg h, List.length_append, List.length_singleton,
      Nat.add_sub_add_right, List.append_assoc]

theorem valueFrom_replicate_zero (k : Nat) (ds : List Char) :
    valueFrom 0 (List.replicate k '0' ++ ds) = valueFrom 0 ds := by
  induction k with
  | zero => rfl
  | succ k ih =>
    rw [List.replicate_succ, List.cons_append, valueFrom_cons]
    exact ih

/-- Padding does not change the value. -/
@[simp] theorem valueOf_padTo (w n : Nat) : valueOf (padTo w n) = n := by
  rw [valueOf, padTo, valueFrom_replicate_zero, ← valueOf, valueOf_digitsOf]

/-! ### Cutting behind a run -/

/-- A run and what follows it are recovered from the two together. -/
theorem takeWhile_append_stop {α : Type} {p : α → Bool} {xs rest : List α}
    (hxs : ∀ x ∈ xs, p x = true) (hrest : ∀ x ∈ rest.head?, p x = false) :
    (xs ++ rest).takeWhile p = xs := by
  rw [List.takeWhile_append_of_pos hxs]
  cases rest with
  | nil => simp
  | cons c cs => simp [hrest c rfl]

theorem dropWhile_append_stop {α : Type} {p : α → Bool} {xs rest : List α}
    (hxs : ∀ x ∈ xs, p x = true) (hrest : ∀ x ∈ rest.head?, p x = false) :
    (xs ++ rest).dropWhile p = rest := by
  rw [List.dropWhile_append_of_pos hxs]
  cases rest with
  | nil => rfl
  | cons c cs => simp [hrest c rfl]

/-- The text does not go on with a digit. -/
def DigitsEnd (rest : List Char) : Prop := ∀ c ∈ rest.head?, isDigit c = false

@[simp] theorem digitsEnd_nil : DigitsEnd [] := by
  intro c hc
  cases hc

theorem digitsEnd_cons {c : Char} {cs : List Char} (h : isDigit c = false) :
    DigitsEnd (c :: cs) := by
  intro d hd
  rw [← Option.some.inj hd]
  exact h

/-- The beginning of such a text is one. -/
theorem DigitsEnd.take {rest : List Char} (h : DigitsEnd rest) (n : Nat) :
    DigitsEnd (rest.take n) := by
  intro c hc
  cases n with
  | zero => cases hc
  | succ n =>
    cases rest with
    | nil => cases hc
    | cons d ds => exact h c hc

theorem takeWhile_isDigit_append {ds rest : List Char} (hd : ∀ c ∈ ds, isDigit c = true)
    (hr : DigitsEnd rest) : (ds ++ rest).takeWhile isDigit = ds := takeWhile_append_stop hd hr

theorem dropWhile_isDigit_append {ds rest : List Char} (hd : ∀ c ∈ ds, isDigit c = true)
    (hr : DigitsEnd rest) : (ds ++ rest).dropWhile isDigit = rest := dropWhile_append_stop hd hr

/-! ### Signs -/

/-- Digits without a sign in front of them. -/
theorem sign_digits {ds : List Char} (hne : ds ≠ []) (hd : ∀ c ∈ ds, isDigit c = true)
    (rest : List Char) : sign (ds ++ rest) = (false, ds ++ rest) := by
  cases ds with
  | nil => exact absurd rfl hne
  | cons d ds =>
    have hdigit := hd d List.mem_cons_self
    have hminus : d ≠ '-' := ne_of_isDigit hdigit (by decide)
    have hplus : d ≠ '+' := ne_of_isDigit hdigit (by decide)
    rw [List.cons_append]
    unfold sign
    split
    · next h => exact absurd (List.cons.inj h).1 hminus
    · next h => exact absurd (List.cons.inj h).1 hplus
    · rfl

/-- A text with something that is no digit behind its sign is not an integer. -/
theorem integerOf?_eq_none {cs : List Char} {c : Char} (hc : c ∈ (sign cs).2)
    (h : isDigit c = false) : integerOf? cs = none := by
  have hall : (sign cs).2.all isDigit = false := by
    rw [List.all_eq_false]
    exact ⟨c, hc, by rw [h]; decide⟩
  simp [integerOf?, hall]

/-- Digits with a minus sign behind them are not a decimal number. -/
theorem decimalOf?_eq_none {cs ds rest : List Char} (hs : (sign cs).2 = ds ++ '-' :: rest)
    (hd : ∀ c ∈ ds, isDigit c = true) : decimalOf? cs = none := by
  have hend : DigitsEnd ('-' :: rest) := digitsEnd_cons (by decide)
  -- Neither a point nor a power follows the digits, and what follows is not the end.
  have hfraction : fractionDigits ('-' :: rest) = ([], '-' :: rest) := rfl
  have hpower : powerOf? ('-' :: rest) = none := by
    rw [powerOf?, if_neg (by decide)]
  simp only [decimalOf?, hs, takeWhile_isDigit_append hd hend, dropWhile_isDigit_append hd hend,
    hfraction, hpower, Option.map_none, ite_self]

end Number

namespace Text

/-- A text without blanks has none around it. -/
theorem trim_eq_self {cs : List Char} (h : ∀ c ∈ cs, isBlank c = false) : trim cs = cs := by
  have hleft : trimLeft cs = cs := by
    rw [trimLeft, List.dropWhile_eq_self_iff]
    intro hne
    rw [h _ (List.getElem_mem hne)]
    decide
  have hright : cs.reverse.dropWhile isBlank = cs.reverse := by
    rw [List.dropWhile_eq_self_iff]
    intro hne
    rw [h _ (List.mem_reverse.1 (List.getElem_mem hne))]
    decide
  rw [trim, hleft, trimRight, hright, List.reverse_reverse]

/-- A text that does not begin with a blank keeps its beginning. -/
theorem trimLeft_cons {c : Char} (h : isBlank c = false) (cs : List Char) :
    trimLeft (c :: cs) = c :: cs := by
  rw [trimLeft, List.dropWhile_cons_of_neg (by rw [h]; decide)]

/-- No blank is left in front of a text without its outer blanks. -/
theorem trimLeft_trim (cs : List Char) : trimLeft (trim cs) = trim cs := by
  have htrim : trim cs <+: trimLeft cs := List.rdropWhile_prefix isBlank (l := trimLeft cs)
  rw [trimLeft, List.dropWhile_eq_self_iff]
  intro hne
  -- What is left begins with the first character that is not blank, if it has one at all.
  rw [List.IsPrefix.getElem htrim hne]
  exact List.dropWhile_get_zero_not isBlank cs _

end Text

end DocSearch
