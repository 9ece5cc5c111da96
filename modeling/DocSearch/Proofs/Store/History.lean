import DocSearch.Proofs.Store.Calls
import Mathlib.Data.List.DropRight

/-!
# What a store holds

A store that was empty holds in each index what has been added to it since the index was
last cleared, whatever was called in between.  Each call is about one index, and the other
ones keep their documents.

## Main results

* `Store.documents_after_empty` — **the documents of an index after any calls.**
* `Store.documents_perform_of_ne` — the other indexes.
* `Store.documents_after_singly` — documents added one by one.
* `Store.holds_what_was_added` — **what a store holds**: all of this together, and what
  counting and searching make of it.
-/

namespace DocSearch

namespace Store

/-- **The documents of an index after any calls**: those that were added behind the last
call that clears it, in order. -/
theorem documents_after_empty (calls : List StoreCall) (index : String) :
    (empty.after calls).documents index =
      (calls.rtakeWhile fun c => !c.clears index).flatMap (·.adds index) := by
  -- On the last call: it decides whether anything before it is still of interest.
  induction calls using List.reverseRecOn with
  | nil => rfl
  | append_singleton cs c ih =>
    rw [after_concat, documents_perform, ih]
    cases hc : c.clears index with
    | true =>
      -- What was added before is forgotten, on both sides.
      rw [List.rtakeWhile_concat_neg _ _ _ (by rw [hc]; exact Bool.false_ne_true)]
      rfl
    | false =>
      rw [List.rtakeWhile_concat_pos _ _ _ (by rw [hc]; rfl), List.flatMap_append,
        List.flatMap_singleton]
      rfl

/-- A call leaves the indexes alone that it is not about. -/
theorem documents_perform_of_ne (s : Store) {index : String} {c : StoreCall}
    (h : index ≠ c.index) : (s.perform c).documents index = s.documents index := by
  have hne : (c.index == index) = false := beq_eq_false_iff_ne.mpr (Ne.symm h)
  have hclears : c.clears index = false := by
    cases c with
    | clear target => exact hne
    | _ => rfl
  have hadds : c.adds index = [] := by
    cases c with
    | add target docs =>
      have htarget : (target == index) = false := hne
      rw [StoreCall.adds, htarget, Bool.false_and, if_neg Bool.false_ne_true]
    | _ => rfl
  rw [documents_perform, hclears, if_neg Bool.false_ne_true, hadds, List.append_nil]

/-! ### Documents one by one -/

/-- A call that adds all its documents adds what calls for each of them add. -/
theorem flatMap_adds_singly {docs : List Submitted} (h : docs.all isStorable = true)
    (target index : String) :
    (docs.map fun d => StoreCall.add target [d]).flatMap (·.adds index) =
      (StoreCall.add target docs).adds index := by
  rw [StoreCall.adds, h, Bool.and_true]
  -- Each of the documents can be stored, so none of the calls for one of them is refused.
  induction docs with
  | nil => split <;> rfl
  | cons d ds ih =>
    rw [List.all_cons, Bool.and_eq_true] at h
    rw [List.map_cons, List.flatMap_cons, ih h.2, StoreCall.adds, List.all_cons, h.1]
    cases target == index with
    | false => rfl
    | true => cases d <;> rfl

/-- Documents that are added one by one are in the end where one call puts them. -/
theorem documents_after_singly {s s' : Store} {target : String} {docs : List Submitted}
    (h : s.add target docs = .ok s') (index : String) :
    (s.after (docs.map fun d => .add target [d])).documents index = s'.documents index := by
  have hspares : ∀ c ∈ docs.map fun d => StoreCall.add target [d], c.Spares index := by
    simp only [List.forall_mem_map]
    exact fun d _ => trivial
  rw [documents_after_of_spares _ s hspares, flatMap_adds_singly (add_eq_ok_iff.mp h).1,
    ← perform_add_of_ok h, documents_perform]
  rfl

/-! ### All of it -/

/-- Every document of an index answers the query for all of them. -/
theorem matching_matchAll (s : Store) (index : String) :
    s.matching index .matchAll = s.documents index :=
  List.filter_eq_self.mpr fun _ _ => rfl

/-- **What a store holds.**  After any calls on an empty store an index has, in order, the
documents that were added since it was last cleared.  A call to add fails exactly when one of
its submissions is no object, and then changes nothing; no call changes another index.
Hence the number of documents is what a search for all of them finds, many documents can be
added at once or one by one, and what a search finds depends on its index only. -/
theorem holds_what_was_added :
    (∀ (calls : List StoreCall) (index : String), (empty.after calls).documents index =
      (calls.rtakeWhile fun c => !c.clears index).flatMap (·.adds index)) ∧
    (∀ (s : Store) (index : String) (docs : List Submitted),
      ((∃ e, s.add index docs = .error e) ↔ ∃ d ∈ docs, isStorable d = false) ∧
        ((∃ e, s.add index docs = .error e) → s.perform (.add index docs) = s)) ∧
    (∀ (s : Store) (c : StoreCall) (index : String), index ≠ c.index →
      (s.perform c).documents index = s.documents index) ∧
    (∀ (s : Store) (index : String) (page : Page),
      (s.search ⟨index, .matchAll, page⟩).total = s.count index) ∧
    (∀ (s s' : Store) (target : String) (docs : List Submitted), s.add target docs = .ok s' →
      ∀ index, (s.after (docs.map fun d => .add target [d])).documents index =
        s'.documents index) ∧
    ∀ (s s' : Store) (r : Request), s.documents r.index = s'.documents r.index →
      s.search r = s'.search r := by
  refine ⟨documents_after_empty, fun s index docs => ⟨?_, perform_add_of_error⟩,
    fun s c index h => s.documents_perform_of_ne h, fun s index page => ?_,
    fun s s' target docs h => documents_after_singly h, fun s s' r h => ?_⟩
  · rw [add_eq_error_iff, List.all_eq_false]
    simp only [Bool.not_eq_true]
  · rw [search, matching_matchAll, count]
  · rw [search, search, matching, matching, h]

/-- Of three calls to add the middle one is refused for its second document; the clearing
of another index, a count and a search do not matter. -/
theorem holds_what_was_added_refused :
    let doc (name : String) : Json := .object [("name", .string name)]
    let calls : List StoreCall :=
      [.add "docs" [.ok (doc "a")], .clear "docs", .add "docs" [.ok (doc "b")],
        .add "docs" [.ok (doc "c"), .ok .null], .clear "other", .count "docs",
        .add "docs" [.ok (doc "d"), .ok (doc "e")]]
    (∃ e, empty.add "docs" [.ok (doc "c"), .ok .null] = .error e) ∧
      (empty.after calls).documents "docs" = [doc "b", doc "d", doc "e"] := by
  intro doc calls
  have hrefused : ∃ d ∈ [.ok (doc "c"), .ok .null], isStorable d = false :=
    ⟨.ok .null, by simp, rfl⟩
  have hholds := holds_what_was_added
  refine ⟨(hholds.2.1 empty "docs" _).1.mpr hrefused, ?_⟩
  exact (hholds.1 calls "docs").trans rfl

end Store

end DocSearch
