import DocSearch.Proofs.Page.Arithmetic
import DocSearch.Proofs.Service.Paging
import DocSearch.Proofs.Store.Calls

/-!
# Walking through pages while others write

A client that wants all documents of a filter asks for page after page, until an
answer says that there is no next one.  Between two of its requests other clients
may add documents anywhere, search, and clear other indexes, so no two pages need be
cut from the same list of matches.  Still nothing is lost or repeated: the list only
grows at its end, and a page is followed by another only when it is full.

The invariant of the walk is that the pages so far are the first `number * size` of
the matches, whichever of the lists they were cut from.

## Main definitions

* `Walk` — a walk from a page on, with the calls of other clients in between.

## Main results

* `Walk.data_eq_matching` — **a walk that ends has collected what matches at its
  last request.**
-/

namespace DocSearch

/-- What a client learns when it asks for a page of untyped documents. -/
def askPage (s : Service) (f : Filter) (size : UInt32) (index : String) (number : UInt32)
    (store : Store) : Outcome (ResultPage Json) :=
  s.run store.backend .untyped (.paged f size number index)

/-- A walk through the pages of a filter from page `number` of a store on: the pages that
the client gets, and the store at its last request.  Other clients do not clear the
index meanwhile. -/
inductive Walk (s : Service) (f : Filter) (size : UInt32) (index : String) :
    UInt32 → Store → List (ResultPage Json) → Store → Prop
  /-- There is no next page, and the walk ends. -/
  | last {number : UInt32} {store : Store} {page : ResultPage Json}
      (hpage : askPage s f size index number store = .ok page) (hlast : page.hasNext = false) :
      Walk s f size index number store [page] store
  /-- There is a next page, which is asked for after some calls of other clients. -/
  | next {number next : UInt32} {store final : Store} {page : ResultPage Json}
      {pages : List (ResultPage Json)} {calls : List StoreCall}
      (hpage : askPage s f size index number store = .ok page) (hnext : page.hasNext = true)
      (hnumber : next.toNat = number.toNat + 1) (hcalls : ∀ c ∈ calls, c.Spares index)
      (hrest : Walk s f size index next (store.after calls) pages final) :
      Walk s f size index number store (page :: pages) final

section

variable {s : Service} {f : Filter} {q : Query} {size : UInt32} {index : String}

/-- Every request of the walk is answered with a page. -/
theorem askPage_eq (hq : s.compile DocumentType.untyped.name f = .ok q)
    (hindex : isBlankName index = false) (hsize : 0 < size.toNat) (number : UInt32)
    (store : Store) :
    askPage s f size index number store =
      .ok ⟨((store.matching index q).drop (number.toNat * size.toNat)).take size.toNat,
        (store.matching index q).length, size, number⟩ := by
  rw [askPage, Service.run_paged_eq s store .untyped hq hindex hsize number, Hits.normalize]
  have hdecode :=
    decodeHits_document ((Page.mk size number hsize).window (store.matching index q)) 0
  simp only [DocumentType.untyped, hdecode]
  rfl

/-- **The invariant of the walk**: the matches before the page asked for, followed by what
the rest of the walk collects, are the matches at the last request. -/
theorem Walk.take_append_data (hq : s.compile DocumentType.untyped.name f = .ok q)
    (hindex : isBlankName index = false) (hsize : 0 < size.toNat) {number : UInt32}
    {store final : Store} {pages : List (ResultPage Json)}
    (h : Walk s f size index number store pages final) :
    (store.matching index q).take (number.toNat * size.toNat) ++ pages.flatMap (·.data) =
      final.matching index q := by
  induction h with
  | @last number store page hpage hlast =>
    rw [askPage_eq hq hindex hsize, Except.ok.injEq] at hpage
    subst hpage
    -- The matches do not reach beyond the last page.
    have hend : (store.matching index q).length ≤ (number.toNat + 1) * size.toNat := by
      rw [← Nat.not_lt]
      intro hlt
      rw [(ResultPage.hasNext_iff _ hsize).mpr hlt] at hlast
      cases hlast
    rw [List.flatMap_singleton, ← List.take_add, ← Nat.succ_mul]
    exact List.take_of_length_le hend
  | @next number next store final page pages calls hpage hnext hnumber hcalls _ ih =>
    rw [askPage_eq hq hindex hsize, Except.ok.injEq] at hpage
    subst hpage
    have hfull : (number.toNat + 1) * size.toNat < (store.matching index q).length :=
      (ResultPage.hasNext_iff _ hsize).mp hnext
    -- What the others add comes behind the full pages.
    obtain ⟨new, hnew⟩ := store.matching_after_of_spares hcalls q
    rw [hnew, hnumber, List.take_append_of_le_length (Nat.le_of_lt hfull)] at ih
    rw [← ih, List.flatMap_cons, ← List.append_assoc, ← List.take_add, ← Nat.succ_mul]

/-- **A walk that ends has collected what matches at its last request**: all of it, in
the order of adding, and each document once.  No request of the walk fails. -/
theorem Walk.data_eq_matching (hq : s.compile DocumentType.untyped.name f = .ok q)
    (hindex : isBlankName index = false) (hsize : 0 < size.toNat) :
    (∀ number store, ∃ page, askPage s f size index number store = .ok page) ∧
      ∀ store pages final, Walk s f size index 0 store pages final →
        pages.flatMap (·.data) = (final.documents index).filter q.matches := by
  refine ⟨fun number store => ⟨_, askPage_eq hq hindex hsize number store⟩, ?_⟩
  intro store pages final h
  have hall := h.take_append_data hq hindex hsize
  rwa [UInt32.toNat_zero, Nat.zero_mul, List.take_zero, List.nil_append] at hall

/-- Two documents are walked through one by one; a third one that comes in behind the
first page is on the last page. -/
theorem Walk.data_eq_matching_growing :
    let doc (name : String) : Json := .object [("name", .string name)]
    let store : Store := ⟨[("docs", [doc "a", doc "b"]), ("other", [doc "x"])]⟩
    let calls : List StoreCall := [.add "docs" [.ok (doc "c")], .clear "other"]
    Service.standard.compile DocumentType.untyped.name .empty = .ok .matchAll ∧
      isBlankName "docs" = false ∧ 0 < (1 : UInt32).toNat ∧
      ∃ pages, Walk .standard .empty 1 "docs" 0 store pages (store.after calls) ∧
        pages.flatMap (·.data) = [doc "a", doc "b", doc "c"] := by
  intro doc store calls
  have hq : Service.standard.compile DocumentType.untyped.name .empty = .ok .matchAll := rfl
  have hindex : isBlankName "docs" = false := by decide
  have hsize : 0 < (1 : UInt32).toNat := by decide
  have hcalls : ∀ c ∈ calls, c.Spares "docs" := by
    simp [calls, StoreCall.Spares]
  have hfirst : askPage .standard .empty 1 "docs" 0 store = .ok ⟨[doc "a"], 2, 1, 0⟩ :=
    askPage_eq hq hindex hsize 0 store
  have hsecond : askPage .standard .empty 1 "docs" 1 (store.after calls) =
      .ok ⟨[doc "b"], 3, 1, 1⟩ := askPage_eq hq hindex hsize 1 _
  have hthird : askPage .standard .empty 1 "docs" 2 (store.after calls) =
      .ok ⟨[doc "c"], 3, 1, 2⟩ := askPage_eq hq hindex hsize 2 _
  have hwalk : Walk .standard .empty 1 "docs" 0 store
      [⟨[doc "a"], 2, 1, 0⟩, ⟨[doc "b"], 3, 1, 1⟩, ⟨[doc "c"], 3, 1, 2⟩] (store.after calls) := by
    refine .next hfirst (by decide) (show (1 : UInt32).toNat = _ from rfl) hcalls ?_
    refine .next hsecond (by decide) (show (2 : UInt32).toNat = _ from rfl)
      (List.forall_mem_nil _) ?_
    exact .last hthird (by decide)
  refine ⟨hq, hindex, hsize, _, hwalk, ?_⟩
  exact ((data_eq_matching hq hindex hsize).2 _ _ _ hwalk).trans rfl

end

end DocSearch
