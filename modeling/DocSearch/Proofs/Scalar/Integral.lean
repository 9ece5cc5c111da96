import DocSearch.Proofs.Number.Rounding
import DocSearch.Proofs.Scalar.Settled

/-!
# Scalars that are written as integers

A number of a document can be an integer, and so can a text, with blanks around it and with any
number of digits.  The integer view of a scalar is that integer as long as it fits 128 bits; the
double view is the double nearest to it as long as there is one; and no such scalar is read as a
moment.

## Main definitions

* `Numeral` — the texts that are integers, and the integers that they are.
* `Scalar.Denotes` — the integer that a scalar is written as.

## Main results

* `integerOf?_eq_some_iff` — **the texts that are read as integers are the numerals.**
* `Scalar.integer?_eq_some_iff` — the integer view, which ends at 128 bits.
* `Scalar.Denotes.map_key_real?` — the double view.
-/

namespace DocSearch

namespace Number

/-! ### Numerals -/

/-- The text is an integer: decimal digits, with a sign in front of them or without one. -/
inductive Numeral : List Char → Int → Prop
  /-- Without a sign. -/
  | plain {ds : List Char} (hne : ds ≠ []) (hds : ∀ c ∈ ds, isDigit c = true) :
      Numeral ds (valueOf ds)
  /-- With the sign plus. -/
  | plus {ds : List Char} (hne : ds ≠ []) (hds : ∀ c ∈ ds, isDigit c = true) :
      Numeral ('+' :: ds) (valueOf ds)
  /-- With the sign minus. -/
  | minus {ds : List Char} (hne : ds ≠ []) (hds : ∀ c ∈ ds, isDigit c = true) :
      Numeral ('-' :: ds) (-(valueOf ds : Int))

/-- A sign and what follows it, or a text without a sign. -/
theorem eq_of_sign {cs ds : List Char} {negative : Bool} (h : sign cs = (negative, ds)) :
    (negative = true ∧ cs = '-' :: ds) ∨ (negative = false ∧ (cs = '+' :: ds ∨ cs = ds)) := by
  unfold sign at h
  split at h <;> cases h
  · exact .inl ⟨rfl, rfl⟩
  · exact .inr ⟨rfl, .inl rfl⟩
  · exact .inr ⟨rfl, .inr rfl⟩

theorem integerOf?_of_sign {cs ds : List Char} {negative : Bool} (h : sign cs = (negative, ds))
    (hne : ds ≠ []) (hds : ∀ c ∈ ds, isDigit c = true) :
    integerOf? cs = some (if negative then -(valueOf ds : Int) else valueOf ds) := by
  have hempty : ds.isEmpty = false := List.isEmpty_eq_false_iff.2 hne
  have hall : ds.all isDigit = true := List.all_eq_true.2 hds
  simp only [integerOf?, h, hempty, hall, Bool.not_true, Bool.or_self, Bool.false_eq_true, if_false]

/-- **The texts that are read as integers are the numerals.** -/
theorem integerOf?_eq_some_iff {cs : List Char} {z : Int} :
    integerOf? cs = some z ↔ Numeral cs z := by
  constructor
  · intro h
    rcases hs : sign cs with ⟨negative, ds⟩
    simp only [integerOf?, hs] at h
    split at h
    · cases h
    · next hdigits =>
      simp only [Bool.or_eq_true, Bool.not_eq_true', not_or, Bool.not_eq_true,
        Bool.not_eq_false, List.isEmpty_eq_false_iff, List.all_eq_true] at hdigits
      obtain ⟨hne, hall⟩ := hdigits
      obtain rfl := Option.some.inj h
      rcases eq_of_sign hs with ⟨rfl, rfl⟩ | ⟨rfl, rfl | rfl⟩
      · exact .minus hne hall
      · exact .plus hne hall
      · exact .plain hne hall
  · intro h
    cases h with
    | plain hne hds =>
      have hsign : sign cs = (false, cs) := by
        have := sign_digits hne hds []
        rwa [List.append_nil] at this
      exact integerOf?_of_sign hsign hne hds
    | plus hne hds => exact integerOf?_of_sign (sign_plus _) hne hds
    | minus hne hds => exact integerOf?_of_sign (sign_minus _) hne hds

end Number

namespace Scalar

open Number

/-- The integer that a scalar is written as: that of a number, and that of a text, without the
blanks around it and however many digits it has. -/
inductive Denotes : Scalar → Int → Prop
  /-- A number. -/
  | number {z : Int} (wide : Json.Wide z) : Denotes (.number (.integer z wide)) z
  /-- A text. -/
  | text {s : String} {z : Int} (h : Numeral (Text.trim s.toList) z) : Denotes (.text s) z

variable {v : Scalar} {z : Int}

/-- **The integer view ends at 128 bits.** -/
theorem integer?_eq_some_iff : v.integer? = some z ↔ v.Denotes z ∧ IsInt128 z := by
  constructor
  · intro h
    cases v with
    | bool b => cases h
    | moment t => cases h
    | number n =>
      cases n with
      | binary x => cases h
      | integer y wide =>
        obtain rfl : y = z := Option.some.inj h
        exact ⟨.number wide, by omega, by omega⟩
    | text s =>
      obtain ⟨hz, hwide⟩ := Option.filter_eq_some_iff.1 h
      exact ⟨.text (integerOf?_eq_some_iff.1 hz), of_decide_eq_true hwide⟩
  · rintro ⟨hz, hwide⟩
    cases hz with
    | number wide => rfl
    | text h =>
      exact Option.filter_eq_some_iff.2 ⟨integerOf?_eq_some_iff.2 h, decide_eq_true hwide⟩

/-- **The double view is the double nearest to the integer**, up to the sign of a zero. -/
theorem Denotes.map_key_real? (h : v.Denotes z) : v.real?.map Binary64.key = nearestKey? z := by
  cases h with
  | number wide => exact Binary64.map_key_ofInt? z
  | text h =>
    obtain ⟨d, hd, hpower, rfl⟩ := exists_decimal_of_integerOf? (integerOf?_eq_some_iff.2 h)
    rw [real?, realOfText?, hd, Option.bind_some, Decimal.map_key_toBinary64? hpower]

/-- What is written as an integer is not read as a moment. -/
theorem Denotes.moment?_eq_none (h : v.Denotes z) : v.moment? = none := by
  cases h with
  | number wide => rfl
  | @text s z h =>
    rcases ht : DateTime.of? s.toList with _ | t
    · exact ht
    · have hnone := DateTime.integerOf?_of_of? ht
      rw [integerOf?_eq_some_iff.2 h] at hnone
      cases hnone

end Scalar

end DocSearch
