/-!
# Finite binary floating-point numbers

A finite double is kept as its sign and its rank: rank `0` is zero, rank `1` the least
positive double, and so on in increasing order.  The rank of a double is also what its
bit pattern without the sign bit spells, so ranks order the magnitudes and two doubles
compare as two integers do.

## Main definitions

* `Binary64` — sign and rank, below the rank of infinity.
* `unitsOf` — the magnitude of a rank, counted in units of `2 ^ -1074`.
* `Binary64.key`, `Binary64.order` — the order of the numbers; the two zeros are equal.
* `Binary64.bits` — the bit pattern.
* `nearestRank`, `Binary64.ofRatio?` — a quotient rounded to the nearest double, a tie
  to the even rank.

## References

The doubles that `as_f64` gives, by the standard for binary floating-point numbers.
-/

namespace DocSearch.Number

/-- The number of doubles between a power of two and the next. -/
def binade : Nat := 4503599627370496

/-- The rank that infinity would have. -/
def infiniteRank : Nat := 2047 * binade

theorem infiniteRank_pos : 0 < infiniteRank := by decide

/-- A finite double: a sign, and the place of its magnitude among the non-negative
finite doubles. -/
structure Binary64 where
  /-- Whether the sign is minus. -/
  negative : Bool
  /-- The place of the magnitude among the non-negative doubles. -/
  rank : Nat
  /-- The magnitude is finite. -/
  finite : rank < infiniteRank
  deriving DecidableEq, Repr

/-- The magnitude of the double of a rank, in units of `2 ^ -1074`. -/
def unitsOf (rank : Nat) : Nat :=
  if rank < binade then rank else (binade + rank % binade) <<< (rank / binade - 1)

/-- The quotient of two natural numbers, rounded to the nearest, a tie to the even one. -/
def nearestQuotient (num den : Nat) : Nat :=
  let q := num / den
  let r := num % den
  if 2 * r < den then q
  else if den < 2 * r then q + 1
  else if q % 2 = 0 then q else q + 1

/-- The rank of the double nearest to `num / den`; `infiniteRank` or more when the
quotient is out of range. -/
def nearestRank (num den : Nat) : Nat :=
  let scaled := num <<< 1074
  let shift := (scaled / den).log2 - 52
  shift * binade + nearestQuotient scaled (den <<< shift)

namespace Binary64

/-- The number zero. -/
def zero : Binary64 := ⟨false, 0, infiniteRank_pos⟩

instance : Inhabited Binary64 := ⟨zero⟩

/-- A signed rank, in the order of the numbers; both zeros have the key `0`. -/
def key (x : Binary64) : Int := if x.negative then -x.rank else x.rank

/-- The numeric order. -/
def order (x y : Binary64) : Ordering := compare x.key y.key

/-- The value in units of `2 ^ -1074`. -/
def units (x : Binary64) : Int := if x.negative then -unitsOf x.rank else unitsOf x.rank

/-- Numeric equality, under which the two zeros are equal. -/
def same (x y : Binary64) : Bool := x.key == y.key

/-- The bit of the sign in the interchange format. -/
def signBit : Nat := 9223372036854775808

/-- The 64 bits of the interchange format. -/
def bits (x : Binary64) : Nat := (if x.negative then signBit else 0) + x.rank

/-- The double nearest to `± num / den`, unless it is out of range. -/
def ofRatio? (negative : Bool) (num den : Nat) : Option Binary64 :=
  if h : nearestRank num den < infiniteRank then some ⟨negative, nearestRank num den, h⟩
  else none

/-- The double nearest to an integer, unless it is out of range. -/
def ofInt? (z : Int) : Option Binary64 := ofRatio? (decide (z < 0)) z.natAbs 1

@[simp] theorem key_zero : zero.key = 0 := rfl

theorem order_self (x : Binary64) : x.order x = .eq := by
  simp [order, compare, compareOfLessAndEq]

/-- The order read backwards. -/
theorem order_swap (x y : Binary64) : (x.order y).swap = y.order x := by
  simp only [order, compare, compareOfLessAndEq]
  rcases Int.lt_trichotomy x.key y.key with h | h | h
  · have : ¬ y.key < x.key := by omega
    have : ¬ y.key = x.key := by omega
    simp [*]
  · simp [h]
  · have : ¬ x.key < y.key := by omega
    have : ¬ x.key = y.key := by omega
    simp [*]

end Binary64

/-- A natural number rounded to 53 significant bits, a tie to the even neighbour: what a
sum of counts becomes when it is kept as a double. -/
def roundToDouble (n : Nat) : Nat :=
  let shift := n.log2 - 52
  nearestQuotient n (1 <<< shift) <<< shift

/-- Up to `2 ^ 53` rounding changes nothing. -/
theorem roundToDouble_of_lt {n : Nat} (h : n < 9007199254740992) : roundToDouble n = n := by
  have hl : n.log2 - 52 = 0 := by
    by_cases hn : n = 0
    · simp [hn]
    · have : n.log2 < 53 := (Nat.log2_lt hn).2 (by simpa using h)
      omega
  simp [roundToDouble, hl, nearestQuotient, Nat.mod_one]

end DocSearch.Number
