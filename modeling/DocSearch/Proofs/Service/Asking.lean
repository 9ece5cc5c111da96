import DocSearch.Proofs.Service.Faults

/-!
# Which searches ask the backend

A search is turned into a request, and the backend is asked for it, or else there is no
request and the backend is left alone.  Whether it was asked can be seen from the answer: the
errors that come before the backend are of other sorts than those that a backend gives and
those of its hits.

To tell what a backend has been asked, its requests are noted on the way to it.

## Main definitions

* `Service.Asks` — the request of each search that has one.
* `Backend.noting` — a backend with its requests noted.
* `Backend.FailsAsBackend` — the backends that fail with errors of a backend only.
* `Asking`, `Service.asking` — a search on a backend, with what it has asked.
* `Service.Told` — what there is to know about a search.

## Main results

* `Service.request_eq_ok_iff` — the requests that there are.
* `Service.run_noting` — **a search asks for its request and for nothing else.**
* `Cluster.Client.failsAsBackend`, `Store.failsAsBackend` — the backends that there are.
* `Service.fails_beforeBackend_iff_not_asked` — **what there is to know about any search**, and
  that its error tells whether the backend was asked.
-/

namespace DocSearch

/-! ### Requests -/

theorem Page.of_eq_ok_iff {size number : UInt32} {page : Page} :
    Page.of size number = .ok page ↔ ∃ h : 0 < size.toNat, page = ⟨size, number, h⟩ := by
  unfold Page.of
  split
  · next h => simp [h, eq_comm]
  · next h => simp [h]

theorem Page.of_eq_ok {size : UInt32} (h : 0 < size.toNat) (number : UInt32) :
    Page.of size number = .ok ⟨size, number, h⟩ :=
  Page.of_eq_ok_iff.mpr ⟨h, rfl⟩

/-- A setup gives a service when a page holds results; its pages are of that size. -/
theorem ServiceSetup.build_eq_ok_iff {setup : ServiceSetup} {s : Service} :
    setup.build = .ok s ↔
      ∃ h : 0 < setup.pageSize.toNat, s = ⟨setup.tables, ⟨setup.pageSize, 0, h⟩⟩ := by
  have hpage : setup.build = .ok s ↔
      ∃ page, Page.of setup.pageSize 0 = .ok page ∧ s = ⟨setup.tables, page⟩ := by
    rw [build, Page.first]
    cases Page.of setup.pageSize 0 <;> simp [eq_comm]
  rw [hpage]
  simp only [Page.of_eq_ok_iff]
  constructor
  · rintro ⟨_, ⟨hsize, rfl⟩, rfl⟩
    exact ⟨hsize, rfl⟩
  · rintro ⟨hsize, rfl⟩
    exact ⟨_, ⟨hsize, rfl⟩, rfl⟩

theorem TextSearch.of_eq_ok_iff {text : String} {size number : UInt32} {t : TextSearch} :
    TextSearch.of text size number = .ok t ↔ Text.trim text.toList ≠ [] ∧
      ∃ page, Page.of size number = .ok page ∧
        t = ⟨.multiMatch (String.ofList (Text.trim text.toList)) [allFields], page⟩ := by
  by_cases htext : Text.trim text.toList = []
  · simp [of, htext]
  · cases hpage : Page.of size number with
    | error e => simp [of, htext, hpage]
    | ok page =>
      simp only [of, String.isEmpty_iff, String.ofList_eq_empty_iff, htext, hpage, if_false,
        ne_eq, not_false_eq_true, true_and, Except.ok.injEq, exists_eq_left']
      exact eq_comm

namespace Service

variable {s : Service} {type : String}

/-- The request of a search for documents of a type. -/
inductive Asks (s : Service) (type : String) : Search → Request → Prop
  /-- The first page of a filter that compiles. -/
  | filtered {f : Filter} {index : String} {q : Query} (hindex : isBlankName index = false)
      (hq : s.compile type f = .ok q) : Asks s type (.filtered f index) ⟨index, q, s.defaultPage⟩
  /-- A page that holds results, of a filter that compiles. -/
  | paged {f : Filter} {size number : UInt32} {index : String} {q : Query}
      (hsize : 0 < size.toNat) (hindex : isBlankName index = false)
      (hq : s.compile type f = .ok q) :
      Asks s type (.paged f size number index) ⟨index, q, ⟨size, number, hsize⟩⟩
  /-- The page of one result, of the filter for an id. -/
  | byId {id : Scalar} {index : String} {q : Query} (hindex : isBlankName index = false)
      (hq : s.compile type (.ofId id) = .ok q) : Asks s type (.byId id index) ⟨index, q, .single⟩
  /-- A page that holds results, of a text with content. -/
  | byText {text : String} {size number : UInt32} {index : String}
      (htext : Text.trim text.toList ≠ []) (hsize : 0 < size.toNat)
      (hindex : isBlankName index = false) :
      Asks s type (.byText text size number index)
        ⟨index, .multiMatch (String.ofList (Text.trim text.toList)) [allFields],
          ⟨size, number, hsize⟩⟩

theorem requestOn_eq_ok_iff {index : String} {page : Page} {query : Outcome Query}
    {r : Request} : requestOn index page query = .ok r ↔
      isBlankName index = false ∧ ∃ q, query = .ok q ∧ r = ⟨index, q, page⟩ := by
  unfold requestOn
  cases isBlankName index with
  | true => simp
  | false => cases query <;> simp [eq_comm]

/-- **The requests that there are.** -/
theorem request_eq_ok_iff {search : Search} {r : Request} :
    s.request type search = .ok r ↔ s.Asks type search r := by
  constructor
  · intro h
    cases search with
    | filtered f index =>
      obtain ⟨hindex, q, hq, rfl⟩ := requestOn_eq_ok_iff.mp h
      exact .filtered hindex hq
    | paged f size number index =>
      -- The page comes first, then the index, then the filter; a request has passed them all.
      cases hpage : Page.of size number with
      | error e => rw [request, hpage] at h; cases h
      | ok page =>
        rw [request, hpage] at h
        obtain ⟨hsize, rfl⟩ := Page.of_eq_ok_iff.mp hpage
        obtain ⟨hindex, q, hq, rfl⟩ := requestOn_eq_ok_iff.mp h
        exact .paged hsize hindex hq
    | byId id index =>
      obtain ⟨hindex, q, hq, rfl⟩ := requestOn_eq_ok_iff.mp h
      exact .byId hindex hq
    | byText text size number index =>
      cases htext : TextSearch.of text size number with
      | error e => rw [request, htext] at h; cases h
      | ok t =>
        rw [request, htext] at h
        obtain ⟨hne, page, hpage, rfl⟩ := TextSearch.of_eq_ok_iff.mp htext
        obtain ⟨hsize, rfl⟩ := Page.of_eq_ok_iff.mp hpage
        obtain ⟨hindex, q, hq, rfl⟩ := requestOn_eq_ok_iff.mp h
        -- The query of a text is there already and cannot fail.
        cases hq
        exact .byText hne hsize hindex
  · intro h
    cases h with
    | filtered hindex hq => exact requestOn_eq_ok_iff.mpr ⟨hindex, _, hq, rfl⟩
    | paged hsize hindex hq =>
      rw [request, Page.of_eq_ok hsize]
      exact requestOn_eq_ok_iff.mpr ⟨hindex, _, hq, rfl⟩
    | byId hindex hq => exact requestOn_eq_ok_iff.mpr ⟨hindex, _, hq, rfl⟩
    | byText htext hsize hindex =>
      rw [request,
        TextSearch.of_eq_ok_iff.mpr ⟨htext, _, Page.of_eq_ok hsize _, rfl⟩]
      exact requestOn_eq_ok_iff.mpr ⟨hindex, _, rfl, rfl⟩

end Service

/-! ### What a backend is asked -/

/-- The backend with each request noted before it is asked. -/
def Backend.noting {m : Type → Type} [Monad m] (b : Backend m) :
    Backend (StateT (List Request) m) where
  name := b.name
  execute r := do
    modify (· ++ [r])
    b.execute r

/-- **A search asks for its request and for nothing else**, whatever the backend is. -/
theorem Service.run_noting {m : Type → Type} [Monad m] [LawfulMonad m] {α : Type} (s : Service)
    (b : Backend m) (type : DocumentType α) (search : Search) (asked : List Request) :
    (s.run b.noting type search).run asked =
      match s.request type.name search with
      | .error e => pure (.error e, asked)
      | .ok r => do return (finish type r (← b.execute r), asked ++ [r]) := by
  rw [run]
  cases s.request type.name search with
  | error e => rfl
  | ok r => simp [ask, Backend.noting]

section Backends

variable {σ : Type}

/-- The backend fails with the errors of a backend only, whatever state it is in. -/
def Backend.FailsAsBackend (b : Backend (StateM σ)) : Prop :=
  ∀ r w, FailsWith SearchError.fromBackend ((b.execute r).run w).1

/-- A cluster fails with the errors of a backend only, however its messages are carried. -/
theorem Cluster.Client.failsAsBackend (c : Client) (carry : Carrier (StateM σ)) :
    (c.backend carry).FailsAsBackend :=
  fun r w => c.failsWith_outcome ((carry (c.message r)).run w).1

/-- The store of the moment as a backend. -/
def Store.current : Backend (StateM Store) where
  name := "in_memory"
  execute r := do return (← get).backend.execute r

/-- A store does not fail. -/
theorem Store.failsAsBackend : Store.current.FailsAsBackend :=
  fun r w => .ok (w.search r)

end Backends

/-! ### Searches and what they ask -/

/-- What a search comes to on a backend. -/
structure Asking (σ α : Type) where
  /-- The answer. -/
  answer : Outcome (ResultPage α)
  /-- The requests that the backend was asked, in order. -/
  asked : List Request
  /-- The state of the backend after it. -/
  state : σ

namespace Service

variable {σ α : Type}

/-- A search on a backend in a state. -/
def asking (s : Service) (b : Backend (StateM σ)) (type : DocumentType α) (search : Search)
    (w : σ) : Asking σ α :=
  let done := ((s.run b.noting type search).run []).run w
  ⟨done.1.1, done.1.2, done.2⟩

/-- What there is to know about a search on a backend in a state. -/
inductive Told (s : Service) (b : Backend (StateM σ)) (type : DocumentType α)
    (search : Search) (w : σ) : Asking σ α → Prop
  /-- There is no request, and the backend is left as it was. -/
  | refused {e : SearchError} (hr : ∀ r, ¬ s.Asks type.name search r)
      (he : e.beforeBackend = true) : Told s b type search w ⟨.error e, [], w⟩
  /-- The backend is asked once and fails, and its error is the answer. -/
  | failed {r : Request} {e : SearchError} {w' : σ} (hr : s.Asks type.name search r)
      (hb : (b.execute r).run w = (.error e, w')) (he : e.beforeBackend = false) :
      Told s b type search w ⟨.error e, [r], w'⟩
  /-- The backend is asked once and gives hits, of which the answer is made. -/
  | answered {r : Request} {hits : Hits} {w' : σ} (hr : s.Asks type.name search r)
      (hb : (b.execute r).run w = (.ok hits, w')) :
      Told s b type search w ⟨hits.normalize type.decode r.page, [r], w'⟩

section Run

variable {s : Service} {b : Backend (StateM σ)} {type : DocumentType α} {search : Search} {w : σ}

theorem asking_of_request_error {e : SearchError}
    (h : s.request type.name search = .error e) : s.asking b type search w = ⟨.error e, [], w⟩ := by
  rw [asking, run_noting, h]
  rfl

theorem asking_of_request {r : Request} (h : s.request type.name search = .ok r) :
    s.asking b type search w =
      ⟨finish type r ((b.execute r).run w).1, [r], ((b.execute r).run w).2⟩ := by
  rw [asking, run_noting, h]
  rfl

/-- Noting the requests changes neither the answer nor the backend. -/
theorem run_eq_asking : (s.run b type search).run w =
    ((s.asking b type search w).answer, (s.asking b type search w).state) := by
  rw [run]
  cases h : s.request type.name search with
  | error e => rw [asking_of_request_error h]; rfl
  | ok r => rw [asking_of_request h]; rfl

/-- A search is told by the request that it has, if any, and by what the backend does. -/
theorem told_of_failsAsBackend (hb : b.FailsAsBackend) :
    s.Told b type search w (s.asking b type search w) := by
  cases h : s.request type.name search with
  | error e =>
    rw [asking_of_request_error h]
    refine .refused (fun r hr => ?_) (failsWith_request s type.name search e h)
    exact nomatch h.symm.trans (request_eq_ok_iff.mpr hr)
  | ok r =>
    have hr : s.Asks type.name search r := request_eq_ok_iff.mp h
    rw [asking_of_request h]
    rcases hexecute : (b.execute r).run w with ⟨answer, w'⟩
    cases answer with
    | error e =>
      have he : e.fromBackend = true := hb r w e (by rw [hexecute])
      exact .failed hr hexecute (SearchError.not_beforeBackend_of_fromBackend he)
    | ok hits => exact .answered hr hexecute

/-- **The error of a search tells whether the backend was asked.** -/
theorem Told.asked_eq_nil_iff {a : Asking σ α} (h : s.Told b type search w a) :
    (∃ e, a.answer = .error e ∧ e.beforeBackend = true) ↔ a.asked = [] := by
  cases h with
  | refused hr he => exact iff_of_true ⟨_, rfl, he⟩ rfl
  | failed hr hb he =>
    refine iff_of_false ?_ (List.cons_ne_nil _ _)
    rintro ⟨e, ⟨⟩, hbefore⟩
    exact nomatch he.symm.trans hbefore
  | answered hr hb =>
    refine iff_of_false ?_ (List.cons_ne_nil _ _)
    rintro ⟨e, hnormalize, hbefore⟩
    -- The hits may still not decode, but that is an error behind the backend.
    have he := SearchError.not_beforeBackend_of_fromBackend
      (Hits.failsWith_normalize type.decode _ _ e hnormalize)
    exact nomatch he.symm.trans hbefore

end Run

/-- A search by id fails as the search for its page does. -/
theorem found_eq_error_iff {result : Outcome (ResultPage α)} {e : SearchError} :
    found result = .error e ↔ result = .error e := by
  cases result <;> simp [found]

/-- A search that names no page is the search for the first page of the standard size. -/
theorem request_filtered {setup : ServiceSetup} {s : Service} (h : setup.build = .ok s)
    (type : String) (f : Filter) (index : String) :
    s.request type (.filtered f index) = s.request type (.paged f setup.pageSize 0 index) := by
  obtain ⟨hsize, rfl⟩ := ServiceSetup.build_eq_ok_iff.mp h
  rw [request, request, Page.of_eq_ok hsize]

/-- **What there is to know about any search** of a service on a backend that fails with
errors of a backend only.  Either there is no request, or the backend is asked for the
request of the search, once; then its error is the answer, or the answer is made of its
hits.  The search fails with an error that comes before the backend exactly when the backend
was not asked, also where only the first result is wanted.  A search that names no page is
the search for the first page of the standard size.  The cluster and the store are such
backends. -/
theorem fails_beforeBackend_iff_not_asked {setup : ServiceSetup} {s : Service}
    (hs : setup.build = .ok s) {b : Backend (StateM σ)} (hb : b.FailsAsBackend)
    (type : DocumentType α) :
    (∀ search w,
      (s.run b type search).run w =
          ((s.asking b type search w).answer, (s.asking b type search w).state) ∧
        s.Told b type search w (s.asking b type search w) ∧
        ((∃ e, (s.asking b type search w).answer = .error e ∧ e.beforeBackend = true) ↔
          (s.asking b type search w).asked = []) ∧
        ((∃ e, found (s.asking b type search w).answer = .error e ∧ e.beforeBackend = true) ↔
          (s.asking b type search w).asked = [])) ∧
      (∀ f index w, s.asking b type (.filtered f index) w =
        s.asking b type (.paged f setup.pageSize 0 index) w) ∧
      (∀ (c : Cluster.Client) (carry : Cluster.Carrier (StateM σ)),
        (c.backend carry).FailsAsBackend) ∧
      Store.current.FailsAsBackend := by
  refine ⟨fun search w => ?_, fun f index w => ?_, fun c carry => c.failsAsBackend carry,
    Store.failsAsBackend⟩
  · have htold : s.Told b type search w (s.asking b type search w) := told_of_failsAsBackend hb
    refine ⟨run_eq_asking, htold, htold.asked_eq_nil_iff, ?_⟩
    simp only [found_eq_error_iff]
    exact htold.asked_eq_nil_iff
  · rw [asking, asking, run_noting, run_noting, request_filtered hs]

/-- A backend that answers once and then is out of time is asked by the second search, too,
but not by a search with both a blank index and a range that is inverted. -/
theorem fails_beforeBackend_iff_not_asked_out_of_time :
    let b : Backend (StateM Nat) :=
      ⟨"once", fun _ n => (if n = 0 then .ok .none else .error (.backendUnavailable (.timedOut 1)),
        n + 1)⟩
    let inverted : Filter := ⟨[.between "at" (.text "b") (.text "a")]⟩
    ServiceSetup.standard.build = .ok standard ∧ b.FailsAsBackend ∧
      (standard.asking b .untyped (.filtered .empty "docs") 1).asked ≠ [] ∧
      (standard.asking b .untyped (.filtered inverted " ") 1).asked = [] := by
  intro b inverted
  have hs : ServiceSetup.standard.build = .ok standard := rfl
  have hb : b.FailsAsBackend := by
    intro r n
    show FailsWith _ (if n = 0 then .ok Hits.none else .error (.backendUnavailable (.timedOut 1)))
    split
    · exact .ok _
    · exact .error rfl
  have hlaw := (fails_beforeBackend_iff_not_asked hs hb .untyped).1
  refine ⟨hs, hb, ?_, (hlaw _ 1).2.2.1.mp ⟨_, rfl, rfl⟩⟩
  rw [Ne, ← (hlaw (.filtered .empty "docs") 1).2.2.1]
  rintro ⟨e, he, hbefore⟩
  cases he
  cases hbefore

end Service

end DocSearch
