/-!
# Integers: their digits and their widths

Natural numbers as lists of decimal digits, and back; and the integers that fit a given
number of bits.

## Main definitions

* `digitsOf` — the digits of a number, without leading zeros.
* `valueOf` — the number that a list of digits denotes.
* `padTo` — digits filled up with zeros on the left.
* `tenTo` — the powers of ten.
* `strip` — a coefficient and its power of ten without trailing zeros.
* `IsInt32`, `IsInt64`, `IsInt128` — the integers of so many bits with a sign.
* `IsNat32`, `IsNat64` — the integers of so many bits without a sign.

## References

The integers that `as_integer` finds in texts and that pages are counted with.
-/

namespace DocSearch.Number

/-- Whether a character is one of `0` to `9`. -/
def isDigit (c : Char) : Bool := '0'.toNat ≤ c.toNat && c.toNat ≤ '9'.toNat

/-- The number that a digit stands for. -/
def digitValue (c : Char) : Nat := c.toNat - '0'.toNat

/-- The digit that stands for a number below ten. -/
def digitChar (n : Nat) : Char := Char.ofNat ('0'.toNat + n)

/-- The decimal digits of a number, most significant first. -/
def digitsOf (n : Nat) : List Char :=
  if n < 10 then [digitChar n] else digitsOf (n / 10) ++ [digitChar (n % 10)]

/-- The number that a list of digits denotes, going on from `start`. -/
def valueFrom (start : Nat) (ds : List Char) : Nat :=
  ds.foldl (fun n d => 10 * n + digitValue d) start

/-- The number that a list of digits denotes. -/
def valueOf (ds : List Char) : Nat := valueFrom 0 ds

/-- The digits of `n`, with zeros in front up to `width` of them. -/
def padTo (width n : Nat) : List Char :=
  let ds := digitsOf n
  List.replicate (width - ds.length) '0' ++ ds

/-- The text of an integer, with a sign in front of a negative one only. -/
def intText (z : Int) : List Char :=
  if z < 0 then '-' :: digitsOf z.natAbs else digitsOf z.natAbs

/-- A power of ten. -/
def tenTo (k : Nat) : Nat := Nat.pow 10 k

/-- Moves trailing zeros of a coefficient into its power of ten. -/
def strip (coefficient : Nat) (power : Int) : Nat × Int :=
  if h : coefficient = 0 then (0, 0)
  else if coefficient % 10 = 0 then strip (coefficient / 10) (power + 1)
  else (coefficient, power)
termination_by coefficient
decreasing_by omega

@[simp] theorem valueFrom_nil (n : Nat) : valueFrom n [] = n := rfl

@[simp] theorem valueFrom_cons (n : Nat) (d : Char) (ds : List Char) :
    valueFrom n (d :: ds) = valueFrom (10 * n + digitValue d) ds := by
  simp only [valueFrom, List.foldl_cons]

theorem valueFrom_append (n : Nat) (xs ys : List Char) :
    valueFrom n (xs ++ ys) = valueFrom (valueFrom n xs) ys := by
  simp [valueFrom]

@[simp] theorem valueOf_nil : valueOf [] = 0 := rfl

theorem digitValue_digitChar {n : Nat} (h : n < 10) : digitValue (digitChar n) = n := by
  have h' : n = 0 ∨ n = 1 ∨ n = 2 ∨ n = 3 ∨ n = 4 ∨ n = 5 ∨ n = 6 ∨ n = 7 ∨ n = 8 ∨ n = 9 := by
    omega
  rcases h' with rfl | rfl | rfl | rfl | rfl | rfl | rfl | rfl | rfl | rfl <;> decide

theorem isDigit_digitChar {n : Nat} (h : n < 10) : isDigit (digitChar n) = true := by
  have h' : n = 0 ∨ n = 1 ∨ n = 2 ∨ n = 3 ∨ n = 4 ∨ n = 5 ∨ n = 6 ∨ n = 7 ∨ n = 8 ∨ n = 9 := by
    omega
  rcases h' with rfl | rfl | rfl | rfl | rfl | rfl | rfl | rfl | rfl | rfl <;> decide

/-- Reading the digits of a number gives the number. -/
theorem valueOf_digitsOf (n : Nat) : valueOf (digitsOf n) = n := by
  induction n using Nat.strongRecOn with
  | _ n ih =>
    rw [digitsOf]
    split
    · rename_i h
      simp only [valueOf, valueFrom_cons, valueFrom_nil, digitValue_digitChar h]
      omega
    · rename_i h
      have hd : digitValue (digitChar (n % 10)) = n % 10 := digitValue_digitChar (by omega)
      rw [valueOf, valueFrom_append, ← valueOf, ih (n / 10) (by omega)]
      simp only [valueFrom_cons, valueFrom_nil, hd]
      omega

/-- The digits of a number are digits. -/
theorem isDigit_of_mem_digitsOf {n : Nat} : ∀ c ∈ digitsOf n, isDigit c = true := by
  induction n using Nat.strongRecOn with
  | _ n ih =>
    rw [digitsOf]
    split
    · rename_i h
      intro c hc
      rw [List.mem_singleton.1 hc]
      exact isDigit_digitChar h
    · rename_i h
      intro c hc
      rcases List.mem_append.1 hc with hc | hc
      · exact ih (n / 10) (by omega) c hc
      · rw [List.mem_singleton.1 hc]
        exact isDigit_digitChar (by omega)

theorem digitsOf_ne_nil (n : Nat) : digitsOf n ≠ [] := by
  rw [digitsOf]
  split <;> simp

/-! ### Widths -/

/-- The integers of 32 bits. -/
abbrev IsInt32 (z : Int) : Prop := -2147483648 ≤ z ∧ z < 2147483648

/-- The integers of 64 bits. -/
abbrev IsInt64 (z : Int) : Prop := -9223372036854775808 ≤ z ∧ z < 9223372036854775808

/-- The integers of 128 bits. -/
abbrev IsInt128 (z : Int) : Prop :=
  -170141183460469231731687303715884105728 ≤ z ∧ z < 170141183460469231731687303715884105728

/-- The natural numbers of 32 bits. -/
abbrev IsNat32 (z : Int) : Prop := 0 ≤ z ∧ z < 4294967296

/-- The natural numbers of 64 bits. -/
abbrev IsNat64 (z : Int) : Prop := 0 ≤ z ∧ z < 18446744073709551616

end DocSearch.Number
