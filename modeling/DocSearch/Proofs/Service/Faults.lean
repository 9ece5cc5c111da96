import DocSearch.Cluster.Client
import DocSearch.Proofs.Filter.Meaning
import DocSearch.Proofs.Service.Paging

/-!
# How the steps of a search fail

A search goes through steps of two sorts: those that make a request of it, and those that
make results of what the backend has answered.  A step fails with the errors of its own sort
only, and no error is of both sorts.

Steps are put together in two ways: one behind a test, and one behind another.  In both an
error of the whole is an error of a part.

## Main definitions

* `FailsWith` — an outcome that is no error, or an error of some sort.

## Main results

* `Service.failsWith_request` — without a request the error is one before the backend.
* `Cluster.Client.failsWith_outcome` — what comes back from a cluster.
* `Hits.failsWith_normalize` — what is made of the hits.
-/

namespace DocSearch

/-- The outcome is no error, or an error of the sort. -/
def FailsWith {α : Type} (sort : SearchError → Bool) (x : Outcome α) : Prop :=
  ∀ e, x = .error e → sort e = true

/-- No error is one before the backend and one of the backend. -/
theorem SearchError.not_beforeBackend_of_fromBackend {e : SearchError}
    (h : e.fromBackend = true) : e.beforeBackend = false := by
  cases e with
  | backendUnavailable fault => rfl
  | malformedResult position fault => rfl
  | _ => cases h

namespace FailsWith

variable {α β : Type} {sort : SearchError → Bool} {x : Outcome α} {e : SearchError}

theorem ok (a : α) : FailsWith sort (.ok a) := fun _ h => nomatch h

theorem error (h : sort e = true) : FailsWith sort (.error e : Outcome α) := by
  rintro _ ⟨⟩
  exact h

/-- A step that goes on from another one, and fails where that one fails. -/
theorem behind {y : Outcome β} (hx : FailsWith sort x)
    (herror : ∀ e, x = .error e → y = .error e) (hok : ∀ a, x = .ok a → FailsWith sort y) :
    FailsWith sort y := by
  cases h : x with
  | error e =>
    rw [herror e h]
    exact error (hx e h)
  | ok a => exact hok a h

/-- A step behind a test. -/
theorem guard {c : Prop} [Decidable c] (he : sort e = true) (hx : FailsWith sort x) :
    FailsWith sort (if c then .error e else x) := by
  split
  · exact error he
  · exact hx

end FailsWith

/-! ### Before the backend -/

theorem Page.failsWith_of (size number : UInt32) :
    FailsWith SearchError.beforeBackend (Page.of size number) := by
  unfold Page.of
  split
  · exact .ok _
  · exact .error rfl

theorem TextSearch.failsWith_of (text : String) (size number : UInt32) :
    FailsWith SearchError.beforeBackend (TextSearch.of text size number) := by
  refine .guard rfl ?_
  refine .behind (Page.failsWith_of size number) (fun e h => ?_) fun page h => ?_
  · rw [h]
  · rw [h]
    exact .ok _

/-- What is wrong with a predicate is wrong before the backend. -/
theorem Predicate.Fault.beforeBackend {fields : Option FieldTable} {p : Predicate}
    {e : SearchError} (h : p.Fault fields e) : e.beforeBackend = true := by
  cases h <;> rfl

theorem Filter.failsWith_compile (fields : Option FieldTable) (f : Filter) :
    FailsWith SearchError.beforeBackend (f.compile fields) := by
  intro e he
  obtain ⟨_, _, _, _, _, hfault⟩ := Filter.compile_eq_error_iff.mp he
  exact hfault.beforeBackend

namespace Service

theorem failsWith_requestOn (index : String) (page : Page) {query : Outcome Query}
    (hquery : FailsWith SearchError.beforeBackend query) :
    FailsWith SearchError.beforeBackend (requestOn index page query) := by
  refine .guard rfl ?_
  refine .behind hquery (fun e h => ?_) fun q h => ?_
  · rw [h]
  · rw [h]
    exact .ok _

/-- **Where there is no request the error is one before the backend**, whichever of several
faults it tells. -/
theorem failsWith_request (s : Service) (type : String) (search : Search) :
    FailsWith SearchError.beforeBackend (s.request type search) := by
  have hcompile : ∀ f, FailsWith SearchError.beforeBackend (s.compile type f) :=
    fun f => f.failsWith_compile _
  cases search with
  | filtered f index => exact failsWith_requestOn index _ (hcompile f)
  | paged f size number index =>
    refine .behind (Page.failsWith_of size number) (fun e h => ?_) fun page h => ?_
    · rw [request, h]
    · rw [request, h]
      exact failsWith_requestOn index page (hcompile f)
  | byId id index => exact failsWith_requestOn index _ (hcompile _)
  | byText text size number index =>
    refine .behind (TextSearch.failsWith_of text size number) (fun e h => ?_) fun t h => ?_
    · rw [request, h]
    · rw [request, h]
      exact failsWith_requestOn index t.page (.ok t.query)

end Service

/-! ### From the backend -/

namespace Cluster

theorem Reply.failsWith_documents (js : List (Option Json)) :
    ∀ position, FailsWith SearchError.fromBackend (documents position js) := by
  induction js with
  | nil => intro position; exact .ok _
  | cons j js ih =>
    intro position
    cases j with
    | none => exact .error rfl
    | some j =>
      refine .behind (ih (position + 1)) (fun e h => ?_) fun ds h => ?_
      · rw [documents, h]
      · rw [documents, h]
        exact .ok _

theorem Reply.failsWith_hits (r : Reply) : FailsWith SearchError.fromBackend r.hits := by
  refine .behind (failsWith_documents r.sources 0) (fun e h => ?_) fun ds h => ?_
  · rw [hits, h]
  · rw [hits, h]
    exact .ok _

theorem failsWith_hitsOfBody (body : List UInt8) :
    FailsWith SearchError.fromBackend (hitsOfBody body) := by
  unfold hitsOfBody
  split
  · exact .error rfl
  · split
    · exact .error rfl
    · exact Reply.failsWith_hits _

/-- **Whatever comes back from a cluster**, an error is one of the backend. -/
theorem Client.failsWith_outcome (c : Client) (exchange : Exchange) :
    FailsWith SearchError.fromBackend (c.outcome exchange) := by
  cases exchange with
  | timedOut => exact .error rfl
  | unreachable reason => exact .error rfl
  | answered status body text =>
    show FailsWith _ (if isSuccess status then hitsOfBody body else _)
    split
    · exact failsWith_hitsOfBody body
    · exact .error rfl
  | brokenOff status reason =>
    rw [outcome]
    split
    · exact .error rfl
    · exact .error rfl

end Cluster

theorem failsWith_decodeHits {α : Type} (decode : Decoder α) (js : List Json) (position : Nat) :
    FailsWith SearchError.fromBackend (decodeHits decode position js) := by
  rcases decodeHits_spec decode js position with
    ⟨as, has, -⟩ | ⟨pre, j, post, fault, -, -, -, herr⟩
  · rw [has]
    exact .ok as
  · rw [herr]
    exact .error rfl

/-- Hits that do not decode fail as a result of the backend. -/
theorem Hits.failsWith_normalize {α : Type} (decode : Decoder α) (hits : Hits) (page : Page) :
    FailsWith SearchError.fromBackend (hits.normalize decode page) := by
  refine .behind (failsWith_decodeHits decode hits.documents 0) (fun e h => ?_) fun data h => ?_
  · rw [normalize, h]
  · rw [normalize, h]
    exact .ok _

end DocSearch
