import DocSearch.Decoding.Basic
import Mathlib.Data.List.Forall2

/-!
# Counts and lists as documents

A document is read as a natural number of 64 bits exactly when it is that number written as
a document, and as a list exactly when its items are read one by one.

## Main results

* `Decoder.nat64_eq_ok_iff` — the documents that are numbers of 64 bits.
* `Decoder.items_eq_ok_iff`, `Decoder.listOf_eq_ok_iff` — the documents that are lists.
* `Decoder.listOf_map` — a list read back.
-/

namespace DocSearch

namespace Json.Number

theorem ofInt?_of_wide {z : Int} (h : Wide z) : ofInt? z = some (.integer z h) := by
  rw [ofInt?, dif_pos h]

theorem ofNat_eq_integer {n : Nat} (h : n < 18446744073709551616) :
    ofNat n = .integer n ⟨by omega, by omega⟩ := by
  have hwide : Wide (n : Int) := ⟨by omega, by omega⟩
  rw [ofNat, ofInt?_of_wide hwide, Option.getD_some]

end Json.Number

namespace Decoder

theorem text_eq_ok_iff {j : Json} {s : String} : text j = .ok s ↔ j = .string s := by
  cases j <;> simp [text]

theorem nat64_ofNat {n : Nat} (h : n < 18446744073709551616) : nat64 (.ofNat n) = .ok n := by
  have hfits : Number.IsNat64 (n : Int) := ⟨by omega, by omega⟩
  rw [Json.ofNat, Json.Number.ofNat_eq_integer h, nat64, integer, if_pos (decide_eq_true hfits)]
  rfl

/-- A document is read as a number exactly when it is the number, which has 64 bits. -/
theorem nat64_eq_ok_iff {j : Json} {n : Nat} :
    nat64 j = .ok n ↔ n < 18446744073709551616 ∧ j = .ofNat n := by
  constructor
  · intro h
    match j with
    | .number (.integer z wide) =>
      by_cases hfits : Number.IsNat64 z
      · rw [nat64, integer, if_pos (decide_eq_true hfits)] at h
        obtain rfl : z.toNat = n := Except.ok.inj h
        have hn : z.toNat < 18446744073709551616 := by omega
        refine ⟨hn, ?_⟩
        rw [Json.ofNat, Json.Number.ofNat_eq_integer hn]
        simp only [Int.toNat_of_nonneg hfits.1]
      · rw [nat64, integer, if_neg (by rwa [decide_eq_true_iff])] at h
        cases h
    | .number (.binary x) => cases h
    | .null | .bool _ | .string _ | .array _ | .object _ => cases h
  · rintro ⟨hn, rfl⟩
    exact nat64_ofNat hn

variable {α : Type} {decode : Decoder α}

/-- The items of a list are read one by one. -/
theorem items_eq_ok_iff {js : List Json} {as : List α} :
    items decode js = .ok as ↔ List.Forall₂ (fun j a => decode j = .ok a) js as := by
  induction js generalizing as with
  | nil =>
    rw [items_nil, List.forall₂_nil_left_iff]
    exact ⟨fun h => (Except.ok.inj h).symm, fun h => congrArg _ h.symm⟩
  | cons j js ih =>
    rw [List.forall₂_cons_left_iff, items]
    simp only [← ih]
    cases decode j with
    | error e => simp
    | ok a => cases items decode js <;> simp [eq_comm]

/-- A document is read as a list exactly when it is one and its items are read. -/
theorem listOf_eq_ok_iff {j : Json} {as : List α} :
    listOf decode j = .ok as ↔
      ∃ js, j = .array js ∧ List.Forall₂ (fun j a => decode j = .ok a) js as := by
  cases j with
  | array js => simp [listOf_array, items_eq_ok_iff]
  | _ => simp [listOf]

/-- Items that are written one by one are read back one by one. -/
theorem listOf_map {β : Type} {write : β → Json} {f : β → α}
    (h : ∀ b, decode (write b) = .ok (f b)) (bs : List β) :
    listOf decode (.array (bs.map write)) = .ok (bs.map f) := by
  rw [listOf_array, items_eq_ok_iff, List.forall₂_map_left_iff, List.forall₂_map_right_iff]
  exact List.forall₂_same.2 fun b _ => h b

end Decoder

end DocSearch
