import DocSearch.Scalar
import Mathlib.Data.Option.Basic

/-!
# The comparison of scalars

Two scalars are compared in the first way that both of them allow.  Each of these ways is
a comparison in its own right: a value is equal to itself, and turning the two sides round
turns the answer round.  Which way is taken does not depend on the side either, so the
comparison of scalars has both properties, too.

## Main definitions

* `Scalar.Within` — a scalar between two others.

## Main results

* `Text.order_trans` — texts are in order character by character.
* `Scalar.order_swap` — the comparison read from the other side.
* `Scalar.order_self` — every scalar is equal to itself, and can be compared with itself.
-/

namespace DocSearch

open Number

/-! ### The ways of comparing -/

namespace Text

theorem order_swap (as bs : List Char) : (order as bs).swap = order bs as := by
  induction as generalizing bs with
  | nil => cases bs <;> rfl
  | cons a as ih =>
    cases bs with
    | nil => rfl
    | cons b bs => rw [order, order, Ordering.swap_then, Nat.compare_swap, ih]

theorem order_self (cs : List Char) : order cs cs = .eq := by
  induction cs with
  | nil => rfl
  | cons c cs ih => rw [order, ih, Nat.compare_eq_eq.mpr rfl]; rfl

theorem order_eq_eq_iff {as bs : List Char} : order as bs = .eq ↔ as = bs := by
  refine ⟨fun h => ?_, fun h => h ▸ order_self as⟩
  induction as generalizing bs with
  | nil => cases bs <;> first | rfl | cases h
  | cons a as ih =>
    cases bs with
    | nil => cases h
    | cons b bs =>
      rw [order, Ordering.then_eq_eq, Nat.compare_eq_eq] at h
      rw [Char.toNat_inj.1 h.1, ih h.2]

/-- Texts in order, one after the other. -/
theorem order_trans {as bs cs : List Char} (hab : order as bs ≠ .gt)
    (hbc : order bs cs ≠ .gt) : order as cs ≠ .gt := by
  induction as generalizing bs cs with
  | nil => cases cs <;> simp [order]
  | cons a as ih =>
    cases bs with
    | nil => exact absurd rfl hab
    | cons b bs =>
      cases cs with
      | nil => exact absurd rfl hbc
      | cons c cs =>
        simp only [order, Ne, Ordering.then_eq_gt, Nat.compare_eq_gt, Nat.compare_eq_eq,
          not_or, not_and] at hab hbc ⊢
        exact ⟨by omega, fun hac => ih (hab.2 (by omega)) (hbc.2 (by omega))⟩

theorem order_lt_trans {as bs cs : List Char} (hab : order as bs = .lt)
    (hbc : order bs cs = .lt) : order as cs = .lt := by
  have hle : order as cs ≠ .gt := order_trans (by rw [hab]; decide) (by rw [hbc]; decide)
  have hne : order as cs ≠ .eq := fun heq => by
    obtain rfl := order_eq_eq_iff.1 heq
    rw [← order_swap, hab] at hbc
    cases hbc
  cases h : order as cs with
  | lt => rfl
  | eq => exact absurd h hne
  | gt => exact absurd h hle

end Text

namespace DateTime

theorem order_swap (a b : DateTime) : (a.order b).swap = b.order a :=
  Int.compare_swap a.key b.key

theorem order_self (t : DateTime) : t.order t = .eq :=
  Int.compare_eq_eq.mpr rfl

end DateTime

namespace Scalar

section OrderBy

variable {α : Type} {order : α → α → Ordering}

theorem orderBy_swap (h : ∀ a b, (order a b).swap = order b a) (x y : Option α) :
    (orderBy order x y).map Ordering.swap = orderBy order y x := by
  cases x with
  | none => cases y <;> rfl
  | some a =>
    cases y with
    | none => rfl
    | some b => simp only [orderBy, Option.map_some, h]

theorem orderBy_self (h : ∀ a, order a a = .eq) (a : α) :
    orderBy order (some a) (some a) = some .eq := by
  rw [orderBy, h]

end OrderBy

theorem plainOrder_swap (a b : Scalar) :
    (plainOrder a b).map Ordering.swap = plainOrder b a := by
  cases a with
  | bool x =>
    cases b with
    | bool y => cases x <;> cases y <;> rfl
    | _ => rfl
  | text s =>
    cases b with
    | text t => simp only [plainOrder, Option.map_some, Text.order_swap]
    | _ => rfl
  | _ => cases b <;> rfl

/-! ### Scalars -/

/-- **The comparison read from the other side.** -/
theorem order_swap (a b : Scalar) : (a.order b).map Ordering.swap = b.order a := by
  simp only [order, Option.map_or, orderBy_swap Int.compare_swap,
    orderBy_swap Binary64.order_swap, orderBy_swap DateTime.order_swap, plainOrder_swap]

/-- **Every scalar is equal to itself.**  A number that is no integer is a double. -/
theorem order_self (v : Scalar) : v.order v = some .eq := by
  cases hi : v.integer? with
  | some z => rw [order, hi, orderBy_self (fun _ => Int.compare_eq_eq.mpr rfl), Option.some_or]
  | none =>
    cases hr : v.real? with
    | some x =>
      rw [order, hi, hr, orderBy_self Binary64.order_self, Option.some_or]
      rfl
    | none =>
      cases hm : v.moment? with
      | some t =>
        rw [order, hi, hr, hm, orderBy_self DateTime.order_self, Option.some_or]
        rfl
      | none =>
        have hplain : plainOrder v v = some .eq := by
          cases v with
          | bool b => cases b <;> rfl
          | number n =>
            cases n with
            | integer z wide => cases hi
            | binary x => cases hr
          | moment t => cases hm
          | text s => rw [plainOrder, Text.order_self]
        rw [order, hi, hr, hm, hplain]
        rfl

/-- The scalar lies between two others, both included. -/
def Within (low high s : Scalar) : Prop :=
  (s.order low = some .gt ∨ s.order low = some .eq) ∧
    (s.order high = some .lt ∨ s.order high = some .eq)

end Scalar

end DocSearch
