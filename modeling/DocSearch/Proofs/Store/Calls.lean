import DocSearch.Store
import Mathlib.Data.List.Basic

/-!
# Calls on a store

The clients of a store call it one after the other, in any order.  A call that adds
documents and fails leaves the store as it was; counting and searching never change
it.  What a call does to one index is therefore little: it drops the documents of the
index, or it adds some behind the ones that are there.

## Main definitions

* `isStorable` — the submissions that can be stored.
* `StoreCall`, `Store.perform` — the calls, and the store after one of them.
* `Store.after` — the store after a list of calls.
* `StoreCall.clears`, `StoreCall.adds` — what a call does to a given index.
* `StoreCall.Spares` — the calls that do not clear a given index.

## Main results

* `Store.add_eq_error_iff`, `Store.add_eq_ok_iff` — which calls to add fail, and what the
  others do.
* `Store.documents_perform` — **one call on one index.**
* `Store.documents_after_of_spares` — **an index that is spared only grows at its end.**
* `Store.matching_after_of_spares` — the same for the documents that answer a query.
-/

namespace DocSearch

/-! ### Submissions -/

/-- A submission that can be stored: it has become an object. -/
def isStorable : Submitted → Bool
  | .error _ => false
  | .ok j => j.isObject

theorem storable_of_isStorable {d : Submitted} (h : isStorable d = true) :
    ∃ j, d = .ok j ∧ storable d = .ok j := by
  cases d with
  | error reason => cases h
  | ok j => exact ⟨j, rfl, if_pos h⟩

theorem storable_of_not_isStorable {d : Submitted} (h : isStorable d = false) :
    ∃ e, storable d = .error e := by
  cases d with
  | error reason => exact ⟨_, rfl⟩
  | ok j => exact ⟨_, if_neg (Bool.eq_false_iff.mp h)⟩

/-- **All of the submissions or none**: their documents, unless one of them cannot be
stored. -/
theorem allStorable_spec (docs : List Submitted) :
    (docs.all isStorable = true ∧ allStorable docs = .ok (docs.filterMap Except.toOption)) ∨
      (docs.all isStorable = false ∧ ∃ e, allStorable docs = .error e) := by
  induction docs with
  | nil => exact .inl ⟨rfl, rfl⟩
  | cons d ds ih =>
    cases hd : isStorable d with
    | false =>
      obtain ⟨e, he⟩ := storable_of_not_isStorable hd
      exact .inr ⟨by rw [List.all_cons, hd]; rfl, e, by rw [allStorable, he]⟩
    | true =>
      obtain ⟨j, rfl, hj⟩ := storable_of_isStorable hd
      rw [List.all_cons, hd, Bool.true_and, allStorable, hj]
      -- The document stands in front of what becomes of the other submissions.
      rcases ih with ⟨hall, hds⟩ | ⟨hall, e, hds⟩
      · exact .inl ⟨hall, by simp only [hds]; rfl⟩
      · exact .inr ⟨hall, e, by simp only [hds]⟩

/-! ### Calls -/

/-- What a client may ask of a store.  One document is added as a list of one. -/
inductive StoreCall
  /-- Adds documents to an index. -/
  | add (index : String) (docs : List Submitted)
  /-- Drops the documents of an index. -/
  | clear (index : String)
  /-- Counts the documents of an index. -/
  | count (index : String)
  /-- Searches. -/
  | search (request : Request)

namespace StoreCall

/-- A call that does not clear the index. -/
def Spares (index : String) : StoreCall → Prop
  | .clear other => index ≠ other
  | _ => True

/-- The index that a call is about. -/
def index : StoreCall → String
  | .add index _ => index
  | .clear index => index
  | .count index => index
  | .search request => request.index

/-- The call drops the documents of the index. -/
def clears (index : String) : StoreCall → Bool
  | .clear target => target == index
  | _ => false

/-- The documents that a call adds to the index.  A call with a submission that cannot be
stored adds none, wherever that one stands. -/
def adds (index : String) : StoreCall → List Json
  | .add target docs =>
    if target == index && docs.all isStorable then docs.filterMap Except.toOption else []
  | _ => []

theorem clears_of_spares {index : String} {c : StoreCall} (h : c.Spares index) :
    c.clears index = false := by
  cases c with
  | clear target => exact beq_eq_false_iff_ne.mpr (Ne.symm h)
  | _ => rfl

end StoreCall

namespace Store

/-- The store after a call. -/
def perform (s : Store) : StoreCall → Store
  | .add index docs =>
    match s.add index docs with
    | .ok s' => s'
    | .error _ => s
  | .clear index => s.clear index
  | .count _ => s
  | .search _ => s

/-- The store after a list of calls. -/
def after (s : Store) (calls : List StoreCall) : Store := calls.foldl perform s

@[simp] theorem after_nil (s : Store) : s.after [] = s := rfl

@[simp] theorem after_cons (s : Store) (c : StoreCall) (cs : List StoreCall) :
    s.after (c :: cs) = (s.perform c).after cs := rfl

theorem after_concat (s : Store) (cs : List StoreCall) (c : StoreCall) :
    s.after (cs ++ [c]) = (s.after cs).perform c := by
  rw [after, after, List.foldl_concat]

section Add

variable {s s' : Store} {index : String} {docs : List Submitted}

/-- A call to add fails when one of the submissions cannot be stored. -/
theorem add_eq_error_iff :
    (∃ e, s.add index docs = .error e) ↔ docs.all isStorable = false := by
  rcases allStorable_spec docs with ⟨hall, hdocs⟩ | ⟨hall, e, hdocs⟩
  · simp [add, hdocs, hall]
  · simp [add, hdocs, hall]

/-- A call to add that succeeds puts the documents behind those of the index. -/
theorem add_eq_ok_iff :
    s.add index docs = .ok s' ↔ docs.all isStorable = true ∧
      s' = s.set index (s.documents index ++ docs.filterMap Except.toOption) := by
  rcases allStorable_spec docs with ⟨hall, hdocs⟩ | ⟨hall, e, hdocs⟩
  · simp [add, hdocs, hall, eq_comm]
  · simp [add, hdocs, hall]

/-- A call that fails stores nothing, not even what stands before the bad submission. -/
theorem perform_add_of_error (h : ∃ e, s.add index docs = .error e) :
    s.perform (.add index docs) = s := by
  obtain ⟨e, he⟩ := h
  rw [perform, he]

theorem perform_add_of_ok (h : s.add index docs = .ok s') :
    s.perform (.add index docs) = s' := by
  rw [perform, h]

end Add

/-- **One call on one index**: it drops the documents, or adds some behind them. -/
theorem documents_perform (s : Store) (index : String) (c : StoreCall) :
    (s.perform c).documents index =
      if c.clears index then [] else s.documents index ++ c.adds index := by
  have hsame : s.documents index = s.documents index ++ [] := (List.append_nil _).symm
  cases c with
  | add target docs =>
    have hclears : (StoreCall.add target docs).clears index = false := rfl
    rw [hclears, if_neg Bool.false_ne_true, StoreCall.adds]
    cases hall : docs.all isStorable with
    | false =>
      -- The call is refused, and adds nothing to its own index either.
      rw [perform_add_of_error (add_eq_error_iff.mpr hall), Bool.and_false]
      exact hsame
    | true =>
      rw [perform_add_of_ok (add_eq_ok_iff.mpr ⟨hall, rfl⟩), Bool.and_true]
      by_cases htarget : target = index
      · subst htarget
        rw [documents_set_self, if_pos (beq_self_eq_true target)]
      · rw [documents_set_ne s (Ne.symm htarget), if_neg (by rwa [beq_iff_eq])]
        exact hsame
  | clear target =>
    rw [StoreCall.clears, perform]
    by_cases htarget : target = index
    · subst htarget
      rw [documents_clear_self, if_pos (beq_self_eq_true target)]
    · rw [documents_clear_ne s (Ne.symm htarget), if_neg (by rwa [beq_iff_eq])]
      exact hsame
  | count target => exact hsame
  | search request => exact hsame

/-- **An index that is spared only grows at its end**, by what the calls add. -/
theorem documents_after_of_spares {index : String} (calls : List StoreCall) :
    ∀ s : Store, (∀ c ∈ calls, c.Spares index) →
      (s.after calls).documents index = s.documents index ++ calls.flatMap (·.adds index) := by
  induction calls with
  | nil => intro s _; exact (List.append_nil _).symm
  | cons c cs ih =>
    intro s h
    have hc := StoreCall.clears_of_spares (h c List.mem_cons_self)
    rw [after_cons, ih (s.perform c) fun d hd => h d (List.mem_cons_of_mem _ hd),
      documents_perform, hc, if_neg Bool.false_ne_true, List.append_assoc, List.flatMap_cons]

/-- The documents that answer a query only grow at their end as well. -/
theorem matching_after_of_spares {index : String} {calls : List StoreCall} (s : Store)
    (h : ∀ c ∈ calls, c.Spares index) (q : Query) :
    ∃ new, (s.after calls).matching index q = s.matching index q ++ new := by
  refine ⟨(calls.flatMap (·.adds index)).filter q.matches, ?_⟩
  rw [matching, documents_after_of_spares calls s h, List.filter_append]
  rfl

end Store

end DocSearch
