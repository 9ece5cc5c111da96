import DocSearch.CommandLine.Program
import DocSearch.Proofs.Service.Asking

/-!
# The exit codes of failing runs

The code with which the program ends is meant to tell three sorts of errors apart: settings
that cannot be used, searches that are not well formed, and everything else.  Settings that do
not load end the program as they should.  But settings that load may still say too little to
reach a cluster, and that comes to light only when the backend is made: the error then has the
code of a configuration error, and the program ends as if it were any other.  There is no
other way for a run to end with the wrong code.

## Main definitions

* `CommandError.Classified` — an exit code that fits an error.
* `SearchSettings.Unreachable` — settings for a cluster that do not say how it is reached.
* `Command.Searches` — the commands that come to a search.
* `Surroundings.Unbuilt` — an invocation that comes to a search without a backend.

## Main results

* `CommandError.classified_iff` — which errors have the exit code that fits.
* `SearchSettings.ask_cases` — a search has no backend, or fails as a search.
* `Command.run_cases` — the same of a command.
* `Surroundings.classified_of_not_unbuilt` — the same of a run.
* `Surroundings.exitCode_run` — **the exit codes of failing runs.**
-/

namespace DocSearch

/-! ### Exit codes -/

/-- The exit code fits the error: 78 for errors of the configuration, 2 for errors that arise
before the backend is asked, and 1 for all others. -/
structure CommandError.Classified (e : CommandError) (exitCode : Nat) : Prop where
  /-- Configuration errors, and no others, have the exit code 78. -/
  configuration : exitCode = 78 ↔ e.code = "CONFIGURATION_ERROR"
  /-- Errors before the backend, and no others, have the exit code 2. -/
  beforeBackend : exitCode = 2 ↔ ∃ fault, e = .search fault ∧ fault.beforeBackend = true
  /-- All others have the exit code 1. -/
  other : exitCode = 1 ↔ e.code ≠ "CONFIGURATION_ERROR" ∧
    ¬ ∃ fault, e = .search fault ∧ fault.beforeBackend = true

/-- The errors of a search that has been set up. -/
def SearchError.fromSearch (e : SearchError) : Bool := e.beforeBackend || e.fromBackend

/-- **The errors with the exit code that fits** are all but the configuration errors of a
search. -/
theorem CommandError.classified_iff {e : CommandError} :
    e.Classified e.exitCode ↔ ∀ fault, e = .search fault → fault.fromSearch = true := by
  constructor
  · rintro h fault rfl
    cases fault with
    | configuration fault => exact nomatch h.configuration.2 rfl
    | _ => rfl
  · intro h
    cases e with
    | search fault =>
      have hfault := h fault rfl
      cases fault with
      | configuration fault => cases hfault
      | _ =>
        constructor <;>
          simp [exitCode, code, SearchError.code, SearchError.beforeBackend]
    | _ => constructor <;> simp [exitCode, code]

/-! ### Filters -/

theorem Predicate.failsWith_ofJson (j : Json) :
    FailsWith SearchError.beforeBackend (ofJson j) := by
  unfold ofJson
  split
  · split
    · exact .error rfl
    · split
      · exact .ok _
      · exact .error rfl
  · exact .error rfl

theorem Predicate.failsWith_ofJsons (js : List Json) :
    FailsWith SearchError.beforeBackend (ofJsons js) := by
  induction js with
  | nil => exact .ok _
  | cons j js ih =>
    refine .behind (failsWith_ofJson j) (fun e h => ?_) fun p h => ?_
    · rw [ofJsons, h]
    · refine .behind ih (fun e h' => ?_) fun ps h' => ?_
      · rw [ofJsons, h, h']
      · rw [ofJsons, h, h']
        exact .ok _

theorem Filter.failsWith_ofItems (items : List Json) :
    FailsWith SearchError.beforeBackend (ofItems items) := by
  refine .behind (Predicate.failsWith_ofJsons items) (fun e h => ?_) fun ps h => ?_
  · rw [ofItems, h]
  · rw [ofItems, h]
    exact .ok _

/-- A document that is no filter is an error before the backend. -/
theorem Filter.failsWith_ofJson (j : Json) : FailsWith SearchError.beforeBackend (ofJson j) := by
  unfold ofJson
  split
  · split
    · exact failsWith_ofItems _
    · exact .ok _
    · exact .ok _
    · exact .error rfl
  · exact failsWith_ofItems _
  · exact .error rfl

/-! ### Backends -/

namespace FailsWith

variable {α : Type} {x : Outcome α}

theorem fromSearch_of_beforeBackend (h : FailsWith SearchError.beforeBackend x) :
    FailsWith SearchError.fromSearch x := fun e he => by simp [SearchError.fromSearch, h e he]

theorem fromSearch_of_fromBackend (h : FailsWith SearchError.fromBackend x) :
    FailsWith SearchError.fromSearch x := fun e he => by simp [SearchError.fromSearch, h e he]

end FailsWith

/-- A search that has a request fails as its backend does. -/
theorem Service.failsWith_run_of_request {α : Type} {s : Service} {b : Backend Id}
    (hb : ∀ r, FailsWith SearchError.fromBackend (b.execute r)) {type : DocumentType α}
    {search : Search} {r : Request} (h : s.request type.name search = .ok r) :
    FailsWith SearchError.fromBackend (s.run (m := Id) b type search) := by
  rw [run, h]
  refine .behind (hb r) (fun e h' => ?_) fun hits h' => ?_
  · exact congrArg (finish type r) h'
  · have hfinish : ask b type (.ok r) = hits.normalize type.decode r.page :=
      congrArg (finish type r) h'
    rw [hfinish]
    exact hits.failsWith_normalize type.decode r.page

/-- A search on a backend that fails as a backend does. -/
theorem Service.failsWith_run {α : Type} (s : Service) {b : Backend Id}
    (hb : ∀ r, FailsWith SearchError.fromBackend (b.execute r)) (type : DocumentType α)
    (search : Search) : FailsWith SearchError.fromSearch (s.run (m := Id) b type search) := by
  have hrequest := s.failsWith_request type.name search
  refine .behind hrequest.fromSearch_of_beforeBackend (fun e h => ?_) fun r h => ?_
  · rw [run, h]
    rfl
  · exact (failsWith_run_of_request hb h).fromSearch_of_fromBackend

namespace SearchSettings

/-- The settings ask for a user and a password, and one of them is missing or blank. -/
def CredentialsMissing (s : SearchSettings) : Prop :=
  s.securityEnabled = true ∧ ∀ user password, s.username = some user →
    s.password = some password → isBlank user = true ∨ isBlank password = true

/-- The settings ask for a cluster and do not say how it is reached: they name no node, or
credentials are missing. -/
structure Unreachable (s : SearchSettings) : Prop where
  /-- The backend is a cluster. -/
  cluster : s.backend = .elasticsearch
  /-- Something is missing to reach it. -/
  missing : s.nodes = [] ∨ s.CredentialsMissing

theorem baseUrl_cases (s : SearchSettings) :
    (s.nodes = [] ∧ ∃ fault, s.baseUrl = .error (.configuration fault)) ∨
      s.nodes ≠ [] ∧ ∃ url, s.baseUrl = .ok url := by
  rcases hnodes : s.nodes with _ | ⟨node, nodes⟩
  · exact .inl ⟨rfl, .nodeMissing, by rw [baseUrl, hnodes]⟩
  · exact .inr ⟨List.cons_ne_nil _ _, _, by rw [baseUrl, hnodes]⟩

theorem credentials_cases (s : SearchSettings) :
    (s.CredentialsMissing ∧ ∃ fault, s.credentials = .error (.configuration fault)) ∨
      ¬ s.CredentialsMissing ∧ ∃ c, s.credentials = .ok c := by
  unfold CredentialsMissing
  rcases hsecurity : s.securityEnabled with _ | _
  · exact .inr ⟨by simp, none, by simp [credentials, hsecurity]⟩
  · rcases huser : s.username with _ | user <;> rcases hpassword : s.password with _ | password
    -- One of them is missing.
    iterate 3 exact .inl ⟨by simp, .credentialsMissing, by
      simp [credentials, hsecurity, huser, hpassword]⟩
    by_cases hblank : isBlank user = true ∨ isBlank password = true
    · exact .inl ⟨by simpa using hblank, .credentialsMissing, by
        simp [credentials, hsecurity, huser, hpassword, hblank]⟩
    · exact .inr ⟨by simpa using hblank, some (user, password), by
        simp [credentials, hsecurity, huser, hpassword, hblank]⟩

/-- Settings have a backend, which fails as a backend does, unless they do not say how their
cluster is reached. -/
theorem backendOf_cases (carry : Cluster.Carrier Id) (s : SearchSettings) :
    (s.Unreachable ∧ ∃ fault, backendOf carry s = .error (.configuration fault)) ∨
      ¬ s.Unreachable ∧ ∃ b, backendOf carry s = .ok b ∧
        ∀ r, FailsWith SearchError.fromBackend (b.execute r) := by
  rcases hbackend : s.backend
  · rcases s.baseUrl_cases with ⟨hnodes, fault, hurl⟩ | ⟨hnodes, url, hurl⟩
    · exact .inl ⟨⟨hbackend, .inl hnodes⟩, fault, by
        simp only [backendOf, hbackend, Cluster.Client.of, hurl]⟩
    · rcases s.credentials_cases with ⟨hmissing, fault, hfault⟩ | ⟨hgiven, c, hc⟩
      · exact .inl ⟨⟨hbackend, .inr hmissing⟩, fault, by
          simp only [backendOf, hbackend, Cluster.Client.of, hurl, hfault]⟩
      · let client : Cluster.Client := ⟨url, c, s.requestTimeoutSecs⟩
        refine .inr ⟨fun h => h.missing.elim hnodes hgiven, client.backend carry, ?_,
          fun r => client.failsWith_outcome (carry (client.message r))⟩
        simp only [backendOf, hbackend, Cluster.Client.of, hurl, hc, client]
  · refine .inr ⟨fun h => ?_, _, by simp only [backendOf, hbackend]; rfl, fun r => .ok _⟩
    have hcluster := h.cluster
    rw [hbackend] at hcluster
    cases hcluster

/-- **A search has no backend, or fails as a search.** -/
theorem ask_cases (carry : Cluster.Carrier Id) (s : SearchSettings) (search : Search) :
    (s.Unreachable ∧ ∃ fault, s.ask (m := Id) carry search = .error (.configuration fault)) ∨
      ¬ s.Unreachable ∧ FailsWith SearchError.fromSearch (s.ask (m := Id) carry search) := by
  rcases s.backendOf_cases carry with ⟨hs, fault, hfault⟩ | ⟨hs, b, hb, hfails⟩
  · exact .inl ⟨hs, fault, by simp only [ask, serviceOf, hfault]; rfl⟩
  · refine .inr ⟨hs, ?_⟩
    -- The page of the service is the page of the standard size.
    have hbuild : FailsWith SearchError.beforeBackend
        ({ ServiceSetup.standard with pageSize := s.defaultPageSize }.build) := by
      refine .behind (Page.failsWith_of s.defaultPageSize 0) (fun e h => ?_) fun page h => ?_
      · simp only [ServiceSetup.build, Page.first, h]
      · simp only [ServiceSetup.build, Page.first, h]
        exact .ok _
    refine .behind hbuild.fromSearch_of_beforeBackend (fun e h => ?_) fun service h => ?_
    · simp only [ask, serviceOf, hb, h]
      rfl
    · simp only [ask, serviceOf, hb, h]
      exact service.failsWith_run hfails .untyped search

end SearchSettings

/-! ### Commands -/

/-- The command comes to a search. -/
def Command.Searches (files : Files Id) : Command → Prop
  | .filter source _ _ _ => ∃ f, filterOf (source.read files) = .ok f
  | .text _ _ _ _ => True
  | .get _ _ => True
  | .compile _ _ => False

/-- The command fails with an error that has the exit code that fits, if it fails. -/
def CommandOutcome.FailsFittingly {α : Type} (x : CommandOutcome α) : Prop :=
  ∀ e, x = .error e → e.Classified e.exitCode

namespace CommandOutcome

variable {α β : Type} {x : Outcome α}

theorem failsFittingly_map {x : CommandOutcome α} (h : x.FailsFittingly) (f : α → β) :
    FailsFittingly (x.map f) := by
  intro e he
  cases x with
  | error e' =>
    cases he
    exact h e rfl
  | ok a => cases he

theorem failsFittingly_ofSearch (h : FailsWith SearchError.fromSearch x) :
    FailsFittingly (ofSearch x) := by
  intro e he
  rw [CommandError.classified_iff]
  rintro fault rfl
  cases x with
  | error fault' =>
    cases he
    exact h _ rfl
  | ok a => cases he

end CommandOutcome

/-- Texts that are no filters are errors with the exit code that fits. -/
theorem failsFittingly_filterOf (text : Except InputFault (Option String)) :
    (filterOf text).FailsFittingly := by
  unfold filterOf
  split
  · rintro e ⟨⟩
    exact CommandError.classified_iff.2 (by simp)
  · rintro e ⟨⟩
  · split
    · rintro e ⟨⟩
      exact CommandError.classified_iff.2 (by simp)
    · exact CommandOutcome.failsFittingly_ofSearch
        (Filter.failsWith_ofJson _).fromSearch_of_beforeBackend

theorem failsWith_compiledRequest (s : SearchSettings) (index : String) (f : Filter) :
    FailsWith SearchError.beforeBackend (compiledRequest s index f) := by
  refine .behind (f.failsWith_compile none) (fun e h => ?_) fun q h => ?_
  · simp only [compiledRequest, h]
  · refine .behind (Page.failsWith_of s.defaultPageSize 0) (fun e h' => ?_) fun page h' => ?_
    · simp only [compiledRequest, h, Page.first, h']
    · simp only [compiledRequest, h, Page.first, h']
      exact .ok _

namespace Command

/-- What a command shows of its search. -/
theorem shown_cases {α : Type} (carry : Cluster.Carrier Id) (s : SearchSettings)
    {search : Search} {x : Outcome α}
    (hx : ∀ e, x = .error e ↔ s.ask (m := Id) carry search = .error e) (f : α → Json) :
    (s.Unreachable ∧
        ∃ fault, (CommandOutcome.ofSearch x).map f = .error (.search (.configuration fault))) ∨
      ¬ s.Unreachable ∧ CommandOutcome.FailsFittingly ((CommandOutcome.ofSearch x).map f) := by
  rcases s.ask_cases carry search with ⟨hs, fault, hfault⟩ | ⟨hs, hfails⟩
  · rw [← hx] at hfault
    exact .inl ⟨hs, fault, by rw [hfault]; rfl⟩
  · have hfails' : FailsWith SearchError.fromSearch x := fun e he => hfails e ((hx e).1 he)
    exact .inr ⟨hs, CommandOutcome.failsFittingly_map
      (CommandOutcome.failsFittingly_ofSearch hfails') f⟩

/-- A command that reads a filter goes on from it. -/
theorem run_filter (files : Files Id) (carry : Cluster.Carrier Id) (s : SearchSettings)
    (source : FilterSource) (index : Option String) (size : Option UInt32) (number : UInt32) :
    run (m := Id) files carry s (.filter source index size number) =
      match filterOf (source.read files) with
      | .error e => .error e
      | .ok f => (CommandOutcome.ofSearch (f.ask (m := Id) carry s size number index)).map
          (·.toJson) := by
  cases h : filterOf (source.read files) <;> simp only [run, bind, pure, h]

theorem run_compile (files : Files Id) (carry : Cluster.Carrier Id) (s : SearchSettings)
    (source : FilterSource) (index : Option String) :
    run (m := Id) files carry s (.compile source index) =
      match filterOf (source.read files) with
      | .error e => .error e
      | .ok f => (CommandOutcome.ofSearch
          (compiledRequest s (index.getD s.defaultIndex) f)).map (·.toJson) := by
  cases h : filterOf (source.read files) <;> simp only [run, bind, pure, h]

/-- **A command comes to a search without a backend, or fails with the exit code that fits.** -/
theorem run_cases (files : Files Id) (carry : Cluster.Carrier Id) (s : SearchSettings)
    (command : Command) :
    (command.Searches files ∧ s.Unreachable ∧
        ∃ fault, command.run (m := Id) files carry s = .error (.search (.configuration fault))) ∨
      ¬ (command.Searches files ∧ s.Unreachable) ∧
        CommandOutcome.FailsFittingly (command.run (m := Id) files carry s) := by
  cases command with
  | filter source index size number =>
    have hread := failsFittingly_filterOf (source.read files)
    rw [run_filter]
    rcases hf : filterOf (source.read files) with e | f
    · rw [hf] at hread
      refine .inr ⟨?_, fun e' he => ?_⟩
      · rintro ⟨⟨f, hf'⟩, -⟩
        exact nomatch hf.symm.trans hf'
      · cases he
        exact hread e rfl
    · rcases shown_cases carry s (fun e => Iff.rfl) ResultPage.toJson with h | h
      · exact .inl ⟨⟨f, hf⟩, h.1, h.2⟩
      · exact .inr ⟨fun hs => h.1 hs.2, h.2⟩
  | text words index size number =>
    rcases shown_cases carry s (fun e => Iff.rfl) ResultPage.toJson with h | h
    · exact .inl ⟨trivial, h.1, h.2⟩
    · exact .inr ⟨fun hs => h.1 hs.2, h.2⟩
  | get id index =>
    rcases shown_cases carry s (fun e => Service.found_eq_error_iff)
      Json.ofOption with h | h
    · exact .inl ⟨trivial, h.1, h.2⟩
    · exact .inr ⟨fun hs => h.1 hs.2, h.2⟩
  | compile source index =>
    refine .inr ⟨fun hs => hs.1, ?_⟩
    have hread := failsFittingly_filterOf (source.read files)
    rw [run_compile]
    rcases hf : filterOf (source.read files) with e | f
    · intro e' he
      cases he
      rw [hf] at hread
      exact hread e rfl
    · exact CommandOutcome.failsFittingly_map (CommandOutcome.failsFittingly_ofSearch
        (failsWith_compiledRequest s _ f).fromSearch_of_beforeBackend) _

end Command

/-! ### Runs -/

/-- A run that ends with an error ends with the exit code of the error. -/
theorem Ending.exitCode_of_error? {ending : Ending} {e : CommandError}
    (h : ending.error? = some e) : ending.exitCode = e.exitCode := by
  cases ending with
  | shown text => cases h
  | misused fault => cases h
  | unsettled fault =>
    cases h
    rfl
  | failed e' =>
    cases h
    rfl

namespace Surroundings

/-- The invocation comes to a search, and its settings load, but do not say how their cluster
is reached. -/
def Unbuilt (w : Surroundings Id) (i : Invocation) : Prop :=
  ∃ s, Settings.load w.files w.vars i.config = .ok s ∧ i.command.Searches w.files ∧
    (s.searchWith i.node).Unreachable

variable {w : Surroundings Id} {args : List String} {i : Invocation}

theorem run_of_load_error (hi : Invocation.ofArguments w.vars args = .ok i)
    {fault : SettingsFault} (h : Settings.load w.files w.vars i.config = .error fault) :
    w.run args = .unsettled fault := by
  simp only [run, hi, Invocation.run, bind, pure, h]

theorem run_of_load_ok (hi : Invocation.ofArguments w.vars args = .ok i) {s : Settings}
    (h : Settings.load w.files w.vars i.config = .ok s) :
    w.run args = match i.command.run (m := Id) w.files w.carry (s.searchWith i.node) with
      | .error e => .failed e
      | .ok j => .shown (String.ofList (j.prettyText 0) ++ "\n") := by
  simp only [run, hi, Invocation.run, bind, pure, h]
  rfl

/-- What is unbuilt fails with an error of the configuration. -/
theorem error?_of_unbuilt (hi : Invocation.ofArguments w.vars args = .ok i) (h : w.Unbuilt i) :
    ∃ fault, (w.run args).error? = some (.search (.configuration fault)) := by
  obtain ⟨s, hload, hsearches, hs⟩ := h
  rcases i.command.run_cases w.files w.carry (s.searchWith i.node) with
    ⟨-, -, fault, hfault⟩ | ⟨hbuilt, -⟩
  · exact ⟨fault, by rw [run_of_load_ok hi hload, hfault]; rfl⟩
  · exact absurd ⟨hsearches, hs⟩ hbuilt

/-- Whatever else fails has the exit code that fits. -/
theorem classified_of_not_unbuilt (hi : Invocation.ofArguments w.vars args = .ok i)
    (h : ¬ w.Unbuilt i) {e : CommandError} (he : (w.run args).error? = some e) :
    e.Classified e.exitCode := by
  rcases hload : Settings.load w.files w.vars i.config with fault | s
  · rw [run_of_load_error hi hload] at he
    cases he
    exact CommandError.classified_iff.2 (by simp)
  · rw [run_of_load_ok hi hload] at he
    rcases i.command.run_cases w.files w.carry (s.searchWith i.node) with
      ⟨hsearches, hs, -⟩ | ⟨-, hfails⟩
    · exact absurd ⟨s, hload, hsearches, hs⟩ h
    · cases hrun : i.command.run (m := Id) w.files w.carry (s.searchWith i.node) with
      | ok j =>
        rw [hrun] at he
        cases he
      | error e' =>
        rw [hrun] at he
        cases he
        exact hfails e hrun

/-- **The exit codes of failing runs.**  An invocation that comes to a search without a way to
its cluster fails with a configuration error and the exit code 1.  Whenever any other
invocation fails, its exit code fits its error. -/
theorem exitCode_run (hi : Invocation.ofArguments w.vars args = .ok i) :
    (w.Unbuilt i → ∃ e, (w.run args).error? = some e ∧ e.code = "CONFIGURATION_ERROR" ∧
      (w.run args).exitCode = 1) ∧
    (¬ w.Unbuilt i → ∀ e, (w.run args).error? = some e →
      e.Classified (w.run args).exitCode) := by
  constructor
  · intro h
    obtain ⟨fault, hfault⟩ := error?_of_unbuilt hi h
    exact ⟨_, hfault, rfl, Ending.exitCode_of_error? hfault⟩
  · intro h e he
    rw [Ending.exitCode_of_error? he]
    exact classified_of_not_unbuilt hi h he

/-- Settings with a number of seconds that is out of bounds do not load, and the program ends
with the exit code 78. -/
theorem exitCode_run_no_time :
    let w : Surroundings Id := ⟨fun _ => .error .notFound,
      [("FILTER_SEARCH__SEARCH__REQUEST_TIMEOUT_SECS", "0")], fun _ => .timedOut⟩
    Invocation.ofArguments w.vars ["get", "7"] = .ok ⟨none, none, .get "7" none⟩ ∧
      ∃ e, (w.run ["get", "7"]).error? = some e ∧ e.Classified 78 := by
  intro w
  have hi : Invocation.ofArguments w.vars ["get", "7"] = .ok ⟨none, none, .get "7" none⟩ := by
    rfl
  have hload : (Settings.load (m := Id) w.files w.vars none).toOption = none := by decide +kernel
  obtain ⟨fault, hfault⟩ : ∃ fault, Settings.load (m := Id) w.files w.vars none = .error fault := by
    cases h : Settings.load (m := Id) w.files w.vars none with
    | error fault => exact ⟨fault, rfl⟩
    | ok s =>
      rw [h] at hload
      cases hload
  have hunbuilt : ¬ w.Unbuilt ⟨none, none, .get "7" none⟩ := by
    rintro ⟨s, hs, -⟩
    exact nomatch hfault.symm.trans hs
  have hrun : w.run ["get", "7"] = .unsettled fault := run_of_load_error hi hfault
  have hclassified := (exitCode_run hi).2 hunbuilt
  rw [hrun] at hclassified
  exact ⟨hi, _, by rw [hrun]; rfl, hclassified _ rfl⟩

/-- Settings that ask for a user and a password and do not give them load, and the program
ends with a configuration error and the exit code 1. -/
theorem exitCode_run_no_credentials :
    let w : Surroundings Id := ⟨fun _ => .error .notFound,
      [("FILTER_SEARCH__SEARCH__SECURITY_ENABLED", "true")], fun _ => .timedOut⟩
    Invocation.ofArguments w.vars ["filter"] = .ok ⟨none, none, .filter .absent none none 0⟩ ∧
      ∃ e, (w.run ["filter"]).error? = some e ∧ e.code = "CONFIGURATION_ERROR" ∧
        (w.run ["filter"]).exitCode = 1 := by
  intro w
  have herror : (w.run ["filter"]).error? =
      some (.search (.configuration .credentialsMissing)) := by decide +kernel
  exact ⟨rfl, _, herror, rfl, Ending.exitCode_of_error? herror⟩

end Surroundings

end DocSearch
