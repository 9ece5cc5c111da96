import DocSearch.Store
import Mathlib.Data.List.Forall2

/-!
# Pages of a search in memory

A search for a page by a filter goes through four parts: the filter is compiled, the
documents of the index are sifted, the page is cut out, and its documents are decoded.
All of them count in the same way: the results of a page are a window of the list of
all matches, and a document that does not decode is told by its place in that window.

## Main definitions

* `pageWindow` — the matches that belong on a page.
* `AnswersPage` — what the answer to a search for a page is, told from the matches.

## Main results

* `Service.run_paged_answersPage` — **the answer of a search for a page depends on
  the number of all matches and on the matches in its window, and on nothing else.**
-/

namespace DocSearch

/-! ### Decoding hits -/

section

variable {α : Type} {decode : Decoder α}

/-- **Decoding hits stops at the first one that does not decode**, and tells its place
counted from `position`. -/
theorem decodeHits_spec (decode : Decoder α) (js : List Json) : ∀ position,
    (∃ as, decodeHits decode position js = .ok as ∧
        List.Forall₂ (fun j a => decode j = .ok a) js as) ∨
      ∃ pre j post fault, js = pre ++ j :: post ∧ (∀ x ∈ pre, ∃ a, decode x = .ok a) ∧
        decode j = .error fault ∧ decodeHits decode position js =
          .error (.malformedResult (position + pre.length) (.undecodable fault)) := by
  induction js with
  | nil => intro position; exact Or.inl ⟨[], rfl, List.Forall₂.nil⟩
  | cons j js ih =>
    intro position
    cases hj : decode j with
    | error fault =>
      refine Or.inr ⟨[], j, js, fault, rfl, by simp, hj, ?_⟩
      rw [decodeHits, hj]
      rfl
    | ok a =>
      -- The rest is counted from one place further on.
      rcases ih (position + 1) with ⟨as, has, hall⟩ | ⟨pre, k, post, fault, rfl, hpre, hk, herr⟩
      · refine Or.inl ⟨a :: as, ?_, List.Forall₂.cons hj hall⟩
        rw [decodeHits, hj]
        simp only [has]
      · refine Or.inr ⟨j :: pre, k, post, fault, rfl, ?_, hk, ?_⟩
        · exact List.forall_mem_cons.mpr ⟨⟨a, hj⟩, hpre⟩
        · rw [decodeHits, hj]
          simp only [herr, List.length_cons]
          rw [Nat.add_assoc, Nat.add_comm 1]

theorem exists_decode_of_forall₂ {js : List Json} {as : List α}
    (h : List.Forall₂ (fun j a => decode j = .ok a) js as) : ∀ j ∈ js, ∃ a, decode j = .ok a := by
  induction h with
  | nil => simp
  | cons hj _ ih => exact List.forall_mem_cons.mpr ⟨⟨_, hj⟩, ih⟩

end

/-- Documents as they are decode to themselves. -/
theorem decodeHits_document (js : List Json) :
    ∀ position, decodeHits Decoder.document position js = .ok js := by
  induction js with
  | nil => intro position; rfl
  | cons j js ih =>
    intro position
    rw [decodeHits, Decoder.document_apply]
    simp only [ih]

/-! ### Windows -/

/-- The matches that belong on a page: those from the page's offset on, up to a full page
or the last match. -/
def pageWindow (size number : UInt32) (found : List Json) : List Json :=
  (found.take (min found.length (number.toNat * size.toNat + size.toNat))).drop
    (number.toNat * size.toNat)

/-- The page that is cut out is the window. -/
theorem Page.window_eq_pageWindow (p : Page) (found : List Json) :
    p.window found = pageWindow p.size p.number found := by
  rw [window, pageWindow, offset, List.take_drop, List.take_eq_take_min, Nat.min_comm,
    Nat.add_comm]

theorem length_pageWindow (size number : UInt32) (found : List Json) :
    (pageWindow size number found).length =
      min size.toNat (found.length - number.toNat * size.toNat) := by
  rw [pageWindow, List.length_drop, List.length_take]
  omega

theorem getElem?_pageWindow {size number : UInt32} {found : List Json} {k : Nat}
    (hk : k < (pageWindow size number found).length) :
    (pageWindow size number found)[k]? = found[number.toNat * size.toNat + k]? := by
  rw [length_pageWindow] at hk
  rw [pageWindow, List.getElem?_drop, List.getElem?_take_of_lt]
  omega

/-! ### Answers -/

/-- What the answer to a search for a page is, told from the list of all matches. -/
structure AnswersPage {α : Type} (decode : Decoder α) (found : List Json)
    (size number : UInt32) (answer : Outcome (ResultPage α)) : Prop where
  /-- There is a page exactly when the whole window decodes. -/
  exists_page_iff : (∃ page, answer = .ok page) ↔
    ∀ j ∈ pageWindow size number found, ∃ a, decode j = .ok a
  /-- The page has the window, decoded in order, and the number of all matches. -/
  page : ∀ page, answer = .ok page →
    List.Forall₂ (fun j a => decode j = .ok a) (pageWindow size number found) page.data ∧
      page.data.length = min size.toNat (found.length - number.toNat * size.toNat) ∧
      page.total = found.length ∧ page.size = size ∧ page.number = number
  /-- An error tells the place in the window of its first match that does not decode. -/
  error : ∀ e, answer = .error e → ∃ i j fault,
    number.toNat * size.toNat ≤ i ∧
      i < min found.length (number.toNat * size.toNat + size.toNat) ∧ found[i]? = some j ∧
      decode j = .error fault ∧
      (∀ k x, number.toNat * size.toNat ≤ k → k < i → found[k]? = some x →
        ∃ a, decode x = .ok a) ∧
      e = .malformedResult (i - number.toNat * size.toNat) (.undecodable fault)

/-- Decoding the window of a page answers the search for the page. -/
theorem answersPage_normalize {α : Type} (decode : Decoder α) (found : List Json) (p : Page) :
    AnswersPage decode found p.size p.number
      (Hits.normalize decode ⟨p.window found, found.length⟩ p) := by
  rw [p.window_eq_pageWindow, Hits.normalize]
  rcases decodeHits_spec decode (pageWindow p.size p.number found) 0 with
    ⟨as, has, hall⟩ | ⟨pre, j, post, fault, hsplit, hpre, hj, herr⟩
  · simp only [has]
    refine ⟨iff_of_true ⟨_, rfl⟩ (exists_decode_of_forall₂ hall), ?_, fun e he => nomatch he⟩
    rintro page ⟨⟩
    exact ⟨hall, by rw [← hall.length_eq, length_pageWindow], rfl, rfl, rfl⟩
  · simp only [herr]
    refine ⟨iff_of_false (by simp) ?_, (fun page hpage => nomatch hpage), ?_⟩
    · intro h
      obtain ⟨a, ha⟩ := h j (by rw [hsplit]; exact List.mem_append_cons_self)
      rw [hj] at ha
      cases ha
    · rintro e ⟨⟩
      -- The faulty match is the one `pre.length` places into the window.
      have hlen := length_pageWindow p.size p.number found
      have hget : ∀ k, k < pre.length + 1 → (pageWindow p.size p.number found)[k]? =
          found[p.number.toNat * p.size.toNat + k]? := fun k hk =>
        getElem?_pageWindow (by rw [hsplit, List.length_append, List.length_cons]; omega)
      rw [hsplit, List.length_append, List.length_cons] at hlen
      refine ⟨p.number.toNat * p.size.toNat + pre.length, j, fault, by omega, by omega, ?_, hj,
        ?_, by rw [Nat.add_sub_cancel_left, Nat.zero_add]⟩
      · rw [← hget _ (Nat.lt_succ_self _), hsplit, List.getElem?_append_right (Nat.le_refl _)]
        simp
      · intro k x hlow hhigh hx
        obtain ⟨d, rfl⟩ := Nat.exists_eq_add_of_le hlow
        rw [← hget d (by omega), hsplit, List.getElem?_append_left (by omega)] at hx
        exact hpre x (List.mem_of_getElem? hx)

namespace Service

/-- A search for a page by a filter that compiles asks the store for that page. -/
theorem run_paged_eq {α : Type} (s : Service) (store : Store) (type : DocumentType α)
    {f : Filter} {q : Query} (hq : s.compile type.name f = .ok q) {index : String}
    (hindex : isBlankName index = false) {size : UInt32} (hsize : 0 < size.toNat)
    (number : UInt32) :
    s.run store.backend type (.paged f size number index) =
      Hits.normalize type.decode
        ⟨(Page.mk size number hsize).window (store.matching index q),
          (store.matching index q).length⟩ ⟨size, number, hsize⟩ := by
  have hrequest : s.request type.name (.paged f size number index) =
      .ok ⟨index, q, ⟨size, number, hsize⟩⟩ := by
    simp only [request, Page.of, dif_pos hsize, requestOn, hindex, hq]
    rfl
  simp only [run, hrequest]
  rfl

/-- **The answer of a search for a page depends on the number of all matches and on the
matches in its window, and on nothing else.**  It is the window, decoded in order, or
the place in the window of the first match that does not decode; matches outside of
the window may be of any type. -/
theorem run_paged_answersPage {α : Type} (s : Service) (store : Store)
    (type : DocumentType α) {f : Filter} {q : Query} (hq : s.compile type.name f = .ok q)
    {index : String} (hindex : isBlankName index = false) {size : UInt32}
    (hsize : 0 < size.toNat) (number : UInt32) :
    AnswersPage type.decode ((store.documents index).filter q.matches) size number
        (s.run store.backend type (.paged f size number index)) ∧
      ∀ other : Store,
        (other.matching index q).length = (store.matching index q).length →
        pageWindow size number (other.matching index q) =
          pageWindow size number (store.matching index q) →
        s.run other.backend type (.paged f size number index) =
          s.run store.backend type (.paged f size number index) := by
  constructor
  · rw [run_paged_eq s store type hq hindex hsize number]
    exact answersPage_normalize type.decode (store.matching index q) ⟨size, number, hsize⟩
  · intro other hlen hwindow
    rw [run_paged_eq s other type hq hindex hsize number,
      run_paged_eq s store type hq hindex hsize number, Page.window_eq_pageWindow,
      Page.window_eq_pageWindow, hlen, hwindow]

/-- A first document that is no item leaves the second page of single items alone. -/
theorem run_paged_answersPage_second_item :
    let bad : Json := .object [("name", .string "a"), ("price", .string "free")]
    let good : Json := .object [("name", .string "b"), ("price", .number (.integer 2 (by decide)))]
    let store : Store := ⟨[("items", [bad, good])]⟩
    standard.compile DocumentType.item.name .empty = .ok .matchAll ∧
      isBlankName "items" = false ∧ 0 < (1 : UInt32).toNat ∧
      (∀ a, DocumentType.item.decode bad ≠ .ok a) ∧
      ∃ page, standard.run store.backend .item (.paged .empty 1 1 "items") = .ok page := by
  intro bad good store
  have hq : standard.compile DocumentType.item.name .empty = .ok .matchAll := rfl
  have hindex : isBlankName "items" = false := by decide
  have hsize : 0 < (1 : UInt32).toNat := by decide
  have hgood : DocumentType.item.decode good = .ok ⟨"b", 2⟩ := by rfl
  have hlaw := (run_paged_answersPage standard store .item hq hindex hsize 1).1
  refine ⟨hq, hindex, hsize, by rintro a ⟨⟩, hlaw.exists_page_iff.mpr ?_⟩
  intro j hj
  have hj' : j ∈ [good] := hj
  rw [List.mem_singleton.mp hj']
  exact ⟨_, hgood⟩

end Service

end DocSearch
