import DocSearch.Proofs.Filter.Grammar
import DocSearch.Proofs.Filter.Meaning

/-!
# What a document lists and what its query asks for

A filter that is still a document is read and then compiled.  Every predicate that the document
lists becomes a clause, so a document that lists something is never taken for the query for
every document.  A document lists nothing, however, not only when it says nothing: an object
without a member `filters` lists nothing either, and its other members are passed over, be they
a predicate or a list of predicates under a name that is misspelt.  That is the one way for a
document with content to become the query for every document.

## Main definitions

* `Groups.count` — the number of clauses.
* `Filter.SaysNothing` — the documents without content.

## Main results

* `Groups.count_ofPredicates` — **no predicate is dropped.**
* `Filter.compileJson_matchAll` — which documents become the query for every document, and that
  any other becomes one with a clause for each predicate.
-/

namespace DocSearch

/-! ### Clauses -/

namespace Groups

/-- The number of clauses. -/
def count (g : Groups) : Nat := g.must.length + g.mustNot.length

theorem count_cons (negated : Bool) (c : Clause) (g : Groups) :
    (g.cons negated c).count = g.count + 1 := by
  unfold count cons
  cases negated with
  | true => rfl
  | false => exact Nat.add_right_comm _ 1 _

theorem isEmpty_iff {g : Groups} : g.isEmpty = true ↔ g.count = 0 := by
  unfold isEmpty count
  rw [Bool.and_eq_true, List.isEmpty_iff, List.isEmpty_iff, Nat.add_eq_zero_iff,
    List.length_eq_zero_iff, List.length_eq_zero_iff]

/-- **No predicate is dropped**: there is a clause for each. -/
theorem count_ofPredicates {fields : Option FieldTable} {ps : List Predicate} {g : Groups}
    (h : ofPredicates fields ps = .ok g) : g.count = ps.length := by
  induction ps generalizing g with
  | nil =>
    cases h
    rfl
  | cons p ps ih =>
    obtain ⟨c, rest, -, hrest, rfl⟩ := ofPredicates_cons_eq_ok_iff.mp h
    rw [count_cons, ih hrest, List.length_cons]

end Groups

theorem Query.ofGroups_eq_matchAll_iff {g : Groups} : ofGroups g = .matchAll ↔ g.count = 0 := by
  rw [← Groups.isEmpty_iff]
  unfold ofGroups
  cases g.isEmpty <;> simp

/-! ### Documents -/

namespace Filter

/-- The document has no content: it is a list without items, or an object that lists nothing
and has no member besides `filters`. -/
inductive SaysNothing : Json → Prop
  /-- A list without items. -/
  | items : SaysNothing (.array [])
  /-- An object without members besides `filters`, under which nothing is listed. -/
  | object {ms : List (String × Json)} (hlists : Lists (.object ms) [])
      (honly : ∀ name, name ≠ "filters" → ms.lookup name = none) : SaysNothing (.object ms)

theorem SaysNothing.lists {j : Json} (h : SaysNothing j) : Lists j [] := by
  cases h with
  | items => exact .items []
  | object hlists => exact hlists

theorem SaysNothing.lookup_eq_none {ms : List (String × Json)} (h : SaysNothing (.object ms))
    {name : String} (hname : name ≠ "filters") : ms.lookup name = none := by
  cases h with
  | object _ honly => exact honly name hname

theorem compileJson_eq_ok_iff {fields : Option FieldTable} {j : Json} {q : Query} :
    compileJson fields j = .ok q ↔ ∃ f, Written j f ∧ f.compile fields = .ok q := by
  simp only [← ofJson_eq_ok_iff]
  unfold compileJson
  cases ofJson j <;> simp

/-- Each item that a document lists has a clause in its query. -/
theorem exists_count_of_compileJson {fields : Option FieldTable} {j : Json} {q : Query}
    (h : compileJson fields j = .ok q) :
    ∃ items g, Lists j items ∧ q = .ofGroups g ∧ g.count = items.length := by
  obtain ⟨f, ⟨items, hitems, hwritten⟩, hq⟩ := compileJson_eq_ok_iff.mp h
  obtain ⟨g, hg, rfl⟩ := compile_eq_ok_iff.mp hq
  exact ⟨items, g, hitems, rfl, (Groups.count_ofPredicates hg).trans hwritten.length_eq.symm⟩

theorem compileJson_eq_matchAll_iff {fields : Option FieldTable} {j : Json} :
    compileJson fields j = .ok .matchAll ↔ Lists j [] := by
  constructor
  · intro h
    obtain ⟨items, g, hitems, hg, hcount⟩ := exists_count_of_compileJson h
    rw [Query.ofGroups_eq_matchAll_iff.mp hg.symm] at hcount
    rwa [List.length_eq_zero_iff.mp hcount.symm] at hitems
  · intro h
    exact compileJson_eq_ok_iff.mpr ⟨empty, ⟨[], h, .nil⟩, rfl⟩

/-- **Which documents become the query for every document**: those without content, and the
objects that list nothing whatever else they have.  Any other document that is a filter becomes
a query with a clause for each predicate that it lists, and there is one at least. -/
theorem compileJson_matchAll (fields : Option FieldTable) (j : Json) :
    (compileJson fields j = .ok .matchAll ↔
        SaysNothing j ∨ ∃ ms name member, j = .object ms ∧ Lists j [] ∧
          name ≠ "filters" ∧ ms.lookup name = some member) ∧
      ∀ q, compileJson fields j = .ok q → q ≠ .matchAll →
        ∃ items g, Lists j items ∧ items ≠ [] ∧ q = .bool g ∧ g.count = items.length := by
  constructor
  · rw [compileJson_eq_matchAll_iff]
    constructor
    · intro h
      cases j with
      | array items =>
        cases h
        exact .inl .items
      | object ms =>
        by_cases honly : ∀ name, name ≠ "filters" → ms.lookup name = none
        · exact .inl (.object h honly)
        · simp only [not_forall] at honly
          obtain ⟨name, hname, hmember⟩ := honly
          obtain ⟨member, hmember⟩ := Option.ne_none_iff_exists'.mp hmember
          exact .inr ⟨ms, name, member, rfl, h, hname, hmember⟩
      | null | bool _ | number _ | string _ => cases h
    · rintro (h | ⟨-, -, -, -, h, -⟩)
      · exact h.lists
      · exact h
  · intro q hq hne
    obtain ⟨items, g, hitems, rfl, hcount⟩ := exists_count_of_compileJson hq
    have hclauses : g.isEmpty = false := by
      rw [Bool.eq_false_iff]
      intro hempty
      exact hne (Query.ofGroups_eq_matchAll_iff.mpr (Groups.isEmpty_iff.mp hempty))
    refine ⟨items, g, hitems, ?_, ?_, hcount⟩
    · rintro rfl
      exact hne (Query.ofGroups_eq_matchAll_iff.mpr hcount)
    · unfold Query.ofGroups
      rw [hclauses]
      rfl

/-- A list of two predicates, one of them negated, becomes two clauses. -/
theorem compileJson_matchAll_two_clauses :
    let predicate (kind : String) : Json := .object [("kind", .string kind),
      ("propertyName", .string "name"), ("propertyValue", .string "a")]
    let j := Json.array [predicate "and", predicate "andNot"]
    let clause := Clause.equals "name" (.text "a")
    compileJson none j = .ok (.bool ⟨[clause], [clause]⟩) ∧
      ∃ items g, Lists j items ∧ items ≠ [] ∧ Query.bool ⟨[clause], [clause]⟩ = .bool g ∧
        g.count = items.length := by
  intro predicate j clause
  have hq : compileJson none j = .ok (.bool ⟨[clause], [clause]⟩) := by decide +kernel
  exact ⟨hq, (compileJson_matchAll none j).2 _ hq (by simp)⟩

/-- A predicate that stands alone, not in a list, becomes the query for every document. -/
theorem lone_predicate_matches_all :
    let j := Json.object [("kind", .string "and"), ("propertyName", .string "name"),
      ("propertyValue", .string "a")]
    compileJson none j = .ok .matchAll ∧ ¬ SaysNothing j := by
  intro j
  refine ⟨rfl, fun hnothing => ?_⟩
  have hkind : "kind" ≠ "filters" := by decide
  exact nomatch hnothing.lookup_eq_none hkind

end Filter

end DocSearch
