import DocSearch.Proofs.Filter.Stored
import DocSearch.Proofs.Service.Asking

/-!
# Searches by id

A search by id asks for a page of one result, so what it gives depends on the first match only:
nothing when there is none, and otherwise that document or the fault in it, whatever the other
matches are.  A page of any other size begins with the same document.

## Main definitions

* `Service.firstOf` — the answer of a search by id, from the list of all matches.
* `Service.AnswersById` — what the answer is, told from the documents of the index.

## Main results

* `Service.found_byId` — **a search by id gives the first match.**
* `Service.exists_match_of_found` — what is found is a document of the index that matches.
* `Service.found_byId_eq_head?` — the first page of the matches begins with what is found.
* `Service.found_byId_exact` — **a search by id gives the first match and nothing else.**
-/

namespace DocSearch.Service

variable {α : Type} {s : Service} {store : Store} {type : DocumentType α} {id : Scalar}
  {index : String}

/-- What a search by id makes of all matches: the first one, if it decodes. -/
def firstOf (type : DocumentType α) : List Json → Outcome (Option α)
  | [] => .ok none
  | j :: _ =>
    match type.decode j with
    | .ok a => .ok (some a)
    | .error e => .error (.malformedResult 0 (.undecodable e))

theorem firstOf_eq_ok_some {js : List Json} {a : α} (h : firstOf type js = .ok (some a)) :
    ∃ j ∈ js, type.decode j = .ok a := by
  cases js with
  | nil => cases h
  | cons j js =>
    refine ⟨j, List.mem_cons_self, ?_⟩
    cases hj : type.decode j with
    | ok b =>
      simp only [firstOf, hj] at h
      cases h
      rfl
    | error e =>
      simp only [firstOf, hj] at h
      cases h

/-- Nothing is found only where there is nothing. -/
theorem firstOf_eq_ok_none_iff {js : List Json} : firstOf type js = .ok none ↔ js = [] := by
  cases js with
  | nil => exact iff_of_true rfl rfl
  | cons j js =>
    refine iff_of_false ?_ (List.cons_ne_nil j js)
    rw [firstOf]
    cases type.decode j <;> simp

/-- What is found stands first among as many decoded matches as one likes. -/
theorem firstOf_eq_head? {js : List Json} {as : List α} {count : Nat} (hcount : 0 < count)
    (h : List.Forall₂ (fun j a => type.decode j = .ok a) (js.take count) as) :
    firstOf type js = .ok as.head? := by
  obtain ⟨count, rfl⟩ := Nat.exists_eq_add_of_lt hcount
  cases js with
  | nil =>
    rw [List.take_nil] at h
    cases h
    rfl
  | cons j js =>
    rw [Nat.zero_add, List.take_succ_cons] at h
    cases h with
    | cons hj _ =>
      rw [firstOf, hj]
      rfl

/-- A search that has a page as its answer has been asked of the store. -/
theorem asks_of_run_eq_ok {search : Search} {page : ResultPage α}
    (h : s.run store.backend type search = .ok page) : ∃ r, s.Asks type.name search r ∧
      (store.search r).normalize type.decode r.page = .ok page := by
  rw [run] at h
  cases hrequest : s.request type.name search with
  | error e =>
    rw [hrequest] at h
    cases h
  | ok r =>
    rw [hrequest] at h
    exact ⟨r, request_eq_ok_iff.mp hrequest, h⟩

/-- **A search by id gives the first match**, or the fault in it. -/
theorem found_byId {q : Query} (hindex : isBlankName index = false)
    (hq : s.compile type.name (.ofId id) = .ok q) :
    found (s.run store.backend type (.byId id index)) = firstOf type (store.matching index q) := by
  have hrequest : s.request type.name (.byId id index) = .ok ⟨index, q, .single⟩ :=
    request_eq_ok_iff.2 (.byId hindex hq)
  have hrun : s.run store.backend type (.byId id index) = Hits.normalize type.decode
      ⟨Page.single.window (store.matching index q), (store.matching index q).length⟩ .single := by
    rw [run, hrequest]
    rfl
  rw [hrun]
  cases store.matching index q with
  | nil => rfl
  | cons j js =>
    have hwindow : Page.single.window (j :: js) = [j] := rfl
    simp only [Hits.normalize, hwindow, firstOf, decodeHits]
    cases type.decode j <;> rfl

/-- **What a search by id finds is a document of the index that matches the filter for the
id.** -/
theorem exists_match_of_found {x : α}
    (h : found (s.run store.backend type (.byId id index)) = .ok (some x)) :
    ∃ q doc, s.compile type.name (.ofId id) = .ok q ∧ doc ∈ store.documents index ∧
      q.matches doc = true ∧ type.decode doc = .ok x := by
  cases hrun : s.run store.backend type (.byId id index) with
  | error e =>
    rw [hrun] at h
    cases h
  | ok page =>
    obtain ⟨r, hasks, -⟩ := asks_of_run_eq_ok hrun
    cases hasks with
    | @byId _ _ q hindex hq =>
      rw [found_byId hindex hq] at h
      obtain ⟨doc, hdoc, hx⟩ := firstOf_eq_ok_some h
      obtain ⟨hmem, hmatches⟩ := List.mem_filter.1 hdoc
      exact ⟨q, doc, hq, hmem, hmatches, hx⟩

/-- **The first page of the matches begins with what a search by id finds**, however many results
it holds. -/
theorem found_byId_eq_head? {size : UInt32} {page : ResultPage α}
    (h : s.run store.backend type (.paged (.ofId id) size 0 index) = .ok page) :
    found (s.run store.backend type (.byId id index)) = .ok page.data.head? := by
  obtain ⟨r, hasks, hpage⟩ := asks_of_run_eq_ok h
  cases hasks with
  | @paged _ _ _ _ q hsize hindex hq =>
    have hanswers := answersPage_normalize type.decode (store.matching index q) ⟨size, 0, hsize⟩
    have hdata := (hanswers.page page hpage).1
    rw [← Page.window_eq_pageWindow ⟨size, 0, hsize⟩, Page.window, Page.offset, UInt32.toNat_zero,
      Nat.zero_mul, List.drop_zero] at hdata
    rw [found_byId hindex hq]
    exact firstOf_eq_head? hsize hdata

/-- What the answer of a search by id is, told from the documents of the index and from which of
them match. -/
structure AnswersById (type : DocumentType α) (docs : List Json) (matching : Json → Bool)
    (answer : Outcome (Option α)) : Prop where
  /-- Nothing is found exactly when no document matches. -/
  none_iff : answer = .ok none ↔ ∀ doc ∈ docs, matching doc = false
  /-- The first document that matches is found, if it decodes. -/
  first : ∀ pre doc post a, docs = pre ++ doc :: post → (∀ d ∈ pre, matching d = false) →
    matching doc = true → type.decode doc = .ok a → answer = .ok (some a)
  /-- Its fault is told if it does not decode, as that of the first result. -/
  fault : ∀ pre doc post e, docs = pre ++ doc :: post → (∀ d ∈ pre, matching d = false) →
    matching doc = true → type.decode doc = .error e →
      answer = .error (.malformedResult 0 (.undecodable e))

theorem answersById_firstOf (type : DocumentType α) (docs : List Json) (matching : Json → Bool) :
    AnswersById type docs matching (firstOf type (docs.filter matching)) := by
  -- The documents in front of the first match are dropped, and those behind it do not matter.
  have hfirst : ∀ pre doc post, docs = pre ++ doc :: post → (∀ d ∈ pre, matching d = false) →
      matching doc = true → docs.filter matching = doc :: post.filter matching := by
    rintro pre doc post rfl hpre hdoc
    have hnone : pre.filter matching = [] :=
      List.filter_eq_nil_iff.mpr fun d hd => Bool.eq_false_iff.mp (hpre d hd)
    rw [List.filter_append, hnone, List.nil_append, List.filter_cons_of_pos hdoc]
  refine ⟨?_, fun pre doc post a hdocs hpre hdoc ha => ?_,
    fun pre doc post e hdocs hpre hdoc he => ?_⟩
  · rw [firstOf_eq_ok_none_iff, List.filter_eq_nil_iff]
    simp only [Bool.not_eq_true]
  · rw [hfirst pre doc post hdocs hpre hdoc, firstOf, ha]
  · rw [hfirst pre doc post hdocs hpre hdoc, firstOf, he]

/-- **A search by id gives the first match and nothing else.**  Where the type has no table, or one
that lists the field for ids, the filter for the id compiles and matches the documents with an
equal scalar in that field.  The answer is nothing when no document of the index matches, and
otherwise the first one that does, or the fault in it, whatever stands behind it.  Whenever the
first page of the matches is given, of any size, it begins with the same answer. -/
theorem found_byId_exact (s : Service) (store : Store) (type : DocumentType α) (id : Scalar)
    {index : String} (hindex : isBlankName index = false)
    (hid : ∀ t, s.tables.lookup type.name = some t → ∃ field, t.resolve idField = .ok field) :
    ∃ q, s.compile type.name (.ofId id) = .ok q ∧
      (∀ doc, q.matches doc = true ↔
        (Predicate.equals idField id).Means (s.tables.lookup type.name) doc) ∧
      AnswersById type (store.documents index) q.matches
        (found (s.run store.backend type (.byId id index))) ∧
      ∀ size page, s.run store.backend type (.paged (.ofId id) size 0 index) = .ok page →
        found (s.run store.backend type (.byId id index)) = .ok page.data.head? := by
  have hstored : ∃ field, StoredAs (s.tables.lookup type.name) idField field := by
    cases htable : s.tables.lookup type.name with
    | none => exact ⟨idField, rfl⟩
    | some t =>
      obtain ⟨field, hfield⟩ := hid t htable
      exact ⟨field, t.resolve_eq_ok_iff.mp hfield⟩
  have hnamed : isBlankName idField = false := by decide
  have hvalid : (Predicate.equals idField id).Valid (s.tables.lookup type.name) :=
    ⟨hnamed, hstored, trivial⟩
  obtain ⟨q, hq, hmeans⟩ := Filter.exists_compile_single hvalid
  refine ⟨q, hq, hmeans, ?_, fun size page => found_byId_eq_head?⟩
  rw [found_byId hindex hq]
  exact answersById_firstOf type (store.documents index) q.matches

/-- Items with ids that are stored as codes.  A text of the number asked for is found in front of
the number itself, which stands in a document that is no item; the other way round that document
is at fault, and where only a member with the name of the id is left nothing is found. -/
theorem found_byId_exact_later_fault :
    let items : FieldTable := ⟨"Item", [("id", "code")], by decide, by decide, by decide⟩
    let s : Service := ⟨[("Item", items)], .standard⟩
    let seven : Json.Number := .integer 7 (by decide)
    let query : Query := .bool ⟨[.equals "code" (.number seven)], []⟩
    let other : Json := .object [("id", .number seven)]
    let good : Json := .object
      [("code", .string "7"), ("name", .string "b"), ("price", .number seven)]
    let bad : Json := .object [("code", .number seven), ("price", .string "free")]
    let answer (docs : List Json) : Outcome (Option Item) :=
      found (s.run (Store.backend ⟨[("docs", docs)]⟩) .item (.byId (.number seven) "docs"))
    s.compile DocumentType.item.name (.ofId (.number seven)) = .ok query ∧
      answer [other, good, bad] = .ok (some ⟨"b", 7⟩) ∧
      (∃ e, answer [other, bad, good] = .error (.malformedResult 0 (.undecodable e))) ∧
      answer [other] = .ok none := by
  intro items s seven query other good bad answer
  have hquery : s.compile DocumentType.item.name (.ofId (.number seven)) = .ok query := by
    decide +kernel
  have hindex : isBlankName "docs" = false := by decide
  have hid : ∀ t, s.tables.lookup DocumentType.item.name = some t →
      ∃ field, t.resolve idField = .ok field := by
    rintro t ⟨⟩
    exact ⟨"code", rfl⟩
  have hanswer : ∀ docs, AnswersById .item docs query.matches (answer docs) := by
    intro docs
    obtain ⟨q, hq, -, hanswers, -⟩ :=
      found_byId_exact s ⟨[("docs", docs)]⟩ .item (.number seven) hindex hid
    rw [hquery] at hq
    cases hq
    exact hanswers
  have hother : ∀ doc ∈ [other], query.matches doc = false :=
    List.forall_mem_singleton.mpr (by decide +kernel)
  have hgood : query.matches good = true := by decide +kernel
  have hbad : query.matches bad = true := by decide +kernel
  refine ⟨hquery, ?_, ?_, (hanswer _).none_iff.mpr hother⟩
  · exact (hanswer _).first [other] good [bad] _ rfl hother hgood rfl
  · exact ⟨_, (hanswer _).fault [other] bad [good] _ rfl hother hbad rfl⟩

end DocSearch.Service
