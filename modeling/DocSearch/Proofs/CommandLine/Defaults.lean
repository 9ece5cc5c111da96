import DocSearch.Proofs.CommandLine.Compile
import DocSearch.Proofs.CommandLine.ExitCode

/-!
# Defaults that a search accepts

What settings give by default is tested when they are loaded, and again by the search that
uses it.  The tests agree on the size of a page.  They do not agree on the index: loaded
settings have a default index with characters in it, and a search wants one that is not blank.
So settings may load whose default index is refused by each search that relies on it, and this
is the only way for a search with a query to be refused for its defaults.

## Main definitions

* `Command.Defaulted` — the commands that leave index and size to the settings, and whose
  search has a query.

## Main results

* `Service.run_eq_invalidQuery_iff` — a search is invalid exactly when its request is.
* `Command.Defaulted.run_eq_invalidQuery_iff` — which defaults such a command is refused for.
* `Surroundings.run_defaulted` — **loaded settings give a service whose page is of the default
  size, and it accepts their defaults exactly when the default index is not blank.**
-/

namespace DocSearch

/-! ### Searches that are invalid -/

namespace Service

/-- A request for a query is refused for a blank index and for nothing else. -/
theorem requestOn_eq_error_iff {index : String} {page : Page} {q : Query} {e : SearchError} :
    requestOn index page (.ok q) = .error e ↔
      isBlankName index = true ∧ e = .invalidQuery .blankIndex := by
  unfold requestOn
  cases isBlankName index with
  | true => simp [eq_comm]
  | false => simp

/-- **A search is invalid exactly when its request is**: a backend has other errors. -/
theorem run_eq_invalidQuery_iff {α : Type} {s : Service} {b : Backend Id}
    (hb : ∀ r, FailsWith SearchError.fromBackend (b.execute r)) {type : DocumentType α}
    {search : Search} {fault : QueryFault} :
    s.run (m := Id) b type search = .error (.invalidQuery fault) ↔
      s.request type.name search = .error (.invalidQuery fault) := by
  cases h : s.request type.name search with
  | error e =>
    have hrun : s.run (m := Id) b type search = .error e := by
      rw [run, h]
      rfl
    rw [hrun, Except.error.injEq, Except.error.injEq]
  | ok r =>
    constructor
    · intro hrun
      have hbackend := failsWith_run_of_request hb h _ hrun
      cases hbackend
    · intro hrequest
      cases hrequest

end Service

/-- A search that asks for a page of the default index is refused as invalid exactly when that
index is blank. -/
theorem SearchSettings.ask_eq_invalidQuery_iff {carry : Cluster.Carrier Id}
    {s : SearchSettings} {b : Backend Id} (hb : backendOf carry s = .ok b)
    (hsize : 0 < s.defaultPageSize.toNat) {search : Search} (page : Page) (q : Query)
    (hrequest : Service.request ⟨[], ⟨s.defaultPageSize, 0, hsize⟩⟩ DocumentType.untyped.name
      search = Service.requestOn s.defaultIndex page (.ok q)) {fault : QueryFault} :
    s.ask (m := Id) carry search = .error (.invalidQuery fault) ↔
      fault = .blankIndex ∧ isBlankName s.defaultIndex = true := by
  have hfails : ∀ r, FailsWith SearchError.fromBackend (b.execute r) := by
    rcases s.backendOf_cases carry with ⟨-, fault, hfault⟩ | ⟨-, b', hb', hfails⟩
    · exact nomatch hb.symm.trans hfault
    · cases hb.symm.trans hb'
      exact hfails
  unfold ask
  rw [serviceOf_of_backendOf hb hsize]
  apply (Service.run_eq_invalidQuery_iff hfails).trans
  rw [hrequest, Service.requestOn_eq_error_iff, SearchError.invalidQuery.injEq, and_comm]

/-- The filter for an id always compiles. -/
theorem Filter.compile_ofId (id : Scalar) :
    (ofId id).compile none = .ok (.bool ⟨[.equals idField id], []⟩) := by
  have hname : storedName none idField = .ok idField := by decide
  simp only [ofId, compile, Groups.ofPredicates, Predicate.clause, Predicate.name, hname]
  rfl

/-! ### Commands -/

/-- The command leaves index and size to the settings, and its search has a query: its filter
compiles, or its text is not blank, or it names an id. -/
inductive Command.Defaulted (files : Files Id) : Command → Prop
  /-- A filter that compiles. -/
  | filter {source : FilterSource} {f : Filter} {q : Query} (number : UInt32)
      (hread : filterOf (source.read files) = .ok f) (hq : f.compile none = .ok q) :
      Defaulted files (.filter source none none number)
  /-- A text that is not blank. -/
  | text {words : String} (number : UInt32) (hwords : Text.trim words.toList ≠ []) :
      Defaulted files (.text words none none number)
  /-- An id. -/
  | get (id : String) : Defaulted files (.get id none)

theorem CommandOutcome.map_ofSearch_eq_error_iff {α β : Type} {x : Outcome α} {f : α → β}
    {e : SearchError} : (ofSearch x).map f = .error (.search e) ↔ x = .error e := by
  cases x <;> simp [ofSearch, Except.map]

/-- **Such a command is refused as invalid exactly when the default index is blank.** -/
theorem Command.Defaulted.run_eq_invalidQuery_iff {files : Files Id} {command : Command}
    (h : command.Defaulted files) {carry : Cluster.Carrier Id} {s : SearchSettings}
    {b : Backend Id} (hb : backendOf carry s = .ok b) (hsize : 0 < s.defaultPageSize.toNat)
    {fault : QueryFault} :
    command.run (m := Id) files carry s = .error (.search (.invalidQuery fault)) ↔
      fault = .blankIndex ∧ isBlankName s.defaultIndex = true := by
  cases h with
  | @filter source f q number hread hq =>
    rw [run_filter, hread]
    apply CommandOutcome.map_ofSearch_eq_error_iff.trans
    apply s.ask_eq_invalidQuery_iff hb hsize ⟨s.defaultPageSize, number, hsize⟩ q
    rw [Service.request, Option.getD_none, Page.of_eq_ok hsize, ← hq]
    rfl
  | @text words number hwords =>
    apply CommandOutcome.map_ofSearch_eq_error_iff.trans
    apply s.ask_eq_invalidQuery_iff hb hsize ⟨s.defaultPageSize, number, hsize⟩
      (.multiMatch (String.ofList (Text.trim words.toList)) [allFields])
    rw [Service.request, Option.getD_none,
      TextSearch.of_eq_ok_iff.2 ⟨hwords, _, Page.of_eq_ok hsize number, rfl⟩]
    rfl
  | get id =>
    apply CommandOutcome.map_ofSearch_eq_error_iff.trans
    apply Service.found_eq_error_iff.trans
    apply s.ask_eq_invalidQuery_iff hb hsize .single (.bool ⟨[.equals idField (.text id)], []⟩)
    exact congrArg (Service.requestOn s.defaultIndex .single) (Filter.compile_ofId (.text id))

/-! ### Runs -/

namespace Surroundings

/-- **Defaults of loaded settings.**  Settings that load and have a backend give a service whose
page is of the default size, and their default index is not empty.  A run that leaves index and
size to them, and whose search has a query, ends with an invalid query exactly when the default
index is blank, and never for another reason. -/
theorem run_defaulted {w : Surroundings Id} {args : List String} {i : Invocation}
    (hi : Invocation.ofArguments w.vars args = .ok i) {s : Settings}
    (hload : Settings.load w.files w.vars i.config = .ok s) {b : Backend Id}
    (hb : backendOf w.carry (s.searchWith i.node) = .ok b) :
    (∃ page : Page, page.size = s.search.defaultPageSize ∧ page.number = 0 ∧
        serviceOf w.carry (s.searchWith i.node) = .ok (⟨[], page⟩, b)) ∧
      s.search.defaultIndex ≠ "" ∧
      (i.command.Defaulted w.files → ∀ fault : QueryFault,
        (w.run args).error? = some (.search (.invalidQuery fault)) ↔
          fault = .blankIndex ∧ isBlankName s.search.defaultIndex = true) := by
  have hcheck := Settings.check_of_load hload
  have hsize : 0 < (s.searchWith i.node).defaultPageSize.toNat := by
    rw [s.defaultPageSize_searchWith i.node]
    exact SearchSettings.pageSize_pos_of_check hcheck
  refine ⟨⟨_, s.defaultPageSize_searchWith i.node, rfl, serviceOf_of_backendOf hb hsize⟩,
    SearchSettings.defaultIndex_ne_empty_of_check hcheck, fun hdefaulted fault => ?_⟩
  rw [← s.defaultIndex_searchWith i.node, ← hdefaulted.run_eq_invalidQuery_iff hb hsize,
    run_of_load_ok hi hload]
  cases i.command.run (m := Id) w.files w.carry (s.searchWith i.node) with
  | error e => rw [Ending.error?, Option.some.injEq, Except.error.injEq]
  | ok j => simp [Ending.error?]

/-- The standard settings on a store in memory are accepted. -/
theorem run_defaulted_documents :
    let w : Surroundings Id := ⟨fun _ => .error .notFound,
      [("FILTER_SEARCH__SEARCH__BACKEND", "in_memory")], fun _ => .timedOut⟩
    let s : Settings := { search := { backend := .inMemory } }
    Invocation.ofArguments w.vars ["get", "7"] = .ok ⟨none, none, .get "7" none⟩ ∧
      Settings.load w.files w.vars none = .ok s ∧
      (∃ b, backendOf w.carry (s.searchWith none) = .ok b) ∧
      ∀ fault, (w.run ["get", "7"]).error? ≠ some (.search (.invalidQuery fault)) := by
  intro w s
  have hi : Invocation.ofArguments w.vars ["get", "7"] = .ok ⟨none, none, .get "7" none⟩ := rfl
  have hload : Settings.load w.files w.vars none = .ok s :=
    Settings.load_of_toOption (by decide +kernel)
  have hrun := (run_defaulted hi hload rfl).2.2 (.get "7")
  have hindex : isBlankName s.search.defaultIndex = false := by decide
  refine ⟨hi, hload, ⟨_, rfl⟩, fun fault h => ?_⟩
  exact nomatch hindex.symm.trans ((hrun fault).1 h).2

/-- A default index that is a single blank loads, and the search for all documents is refused
for it. -/
theorem run_blank_default_index :
    let w : Surroundings Id := ⟨fun _ => .error .notFound,
      [("FILTER_SEARCH__SEARCH__BACKEND", "in_memory"),
        ("FILTER_SEARCH__SEARCH__DEFAULT_INDEX", " ")], fun _ => .timedOut⟩
    let i : Invocation := ⟨none, none, .filter .absent none none 0⟩
    let s : Settings := { search := { backend := .inMemory, defaultIndex := " " } }
    Invocation.ofArguments w.vars ["filter"] = .ok i ∧
      Settings.load w.files w.vars i.config = .ok s ∧
      (∃ b, backendOf w.carry (s.searchWith i.node) = .ok b) ∧ i.command.Defaulted w.files ∧
      (w.run ["filter"]).error? = some (.search (.invalidQuery .blankIndex)) := by
  intro w i s
  have hlayer : environmentLayer w.vars =
      [("search.backend", .text "in_memory"), ("search.default_index", .text " ")] := rfl
  have hlayers : Settings.load (m := Id) w.files w.vars i.config =
      Settings.ofLayers [defaultLayer, environmentLayer w.vars] := rfl
  have hload : Settings.load w.files w.vars i.config = .ok s := by
    apply Settings.load_of_toOption
    rw [hlayers, hlayer]
    decide +kernel
  have hdefaulted : i.command.Defaulted w.files := .filter 0 rfl rfl
  have hrefused : i.command.run (m := Id) w.files w.carry (s.searchWith i.node) =
      .error (.search (.invalidQuery .blankIndex)) := by
    apply (hdefaulted.run_eq_invalidQuery_iff rfl (by decide)).2
    exact ⟨rfl, by decide⟩
  refine ⟨rfl, hload, ⟨_, rfl⟩, hdefaulted, ?_⟩
  rw [run_of_load_ok rfl hload, hrefused]
  rfl

end Surroundings

end DocSearch
