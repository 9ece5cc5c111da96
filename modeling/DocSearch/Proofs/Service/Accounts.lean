import DocSearch.Proofs.Metrics.Readings
import DocSearch.Service
import Mathlib.Algebra.BigOperators.Group.List.Basic
import Mathlib.Algebra.Order.BigOperators.Group.List
import Mathlib.Algebra.Order.Group.Nat
import Mathlib.Data.List.Nodup
import Mathlib.Logic.Relation

/-!
# The account of all searches

Many searches may be under way at a time, by many services on many backends, and all of them
write to one account.  A search comes to its result, with the changes that it has to make;
these are made one at a time, and those of other searches may come in between.

However a search ends, its changes are those for its result.  So whatever the order in which
the changes of many searches are made, they are in the end the changes for all results, and
the figures of the account can be told from the results alone.

## Main definitions

* `Finished` — a search with its result.
* `Traffic`, `Traffic.Step` — searches under way, and what may happen next.
* `Metrics.AccountsFor` — the figures have grown by just what the results say.

## Main results

* `Service.runNoted_eq` — **every way out of a search makes the changes for its result.**
* `Traffic.Step.accounted` — one step keeps the changes made and due together those for the
  results.
* `Traffic.accounts_for_all` — **the account of any traffic that has come to rest.**
-/

namespace DocSearch

/-! ### Kinds and outcomes -/

/-- The kinds of searches. -/
def Search.kinds : List String := [filterKind, idKind, textKind]

theorem Search.kind_mem_kinds (search : Search) : search.kind ∈ kinds := by
  cases search <;> simp [kind, kinds]

namespace SearchError

/-- The codes of errors. -/
def codes : List String :=
  ["UNSUPPORTED_FILTER_KIND", "INVALID_FILTER", "UNKNOWN_FIELD", "INVALID_QUERY",
    "BACKEND_UNAVAILABLE", "MALFORMED_RESULT", "CONFIGURATION_ERROR"]

theorem code_mem_codes (e : SearchError) : e.code ∈ codes := by
  cases e <;> simp [code, codes]

end SearchError

theorem SearchError.code_ne_okOutcome (e : SearchError) : e.code ≠ Metrics.okOutcome := by
  have hok : Metrics.okOutcome ∉ codes := by decide
  exact fun h => hok (h ▸ e.code_mem_codes)

/-- The outcomes of searches. -/
def Metrics.outcomes : List String := okOutcome :: SearchError.codes

theorem Metrics.nodup_outcomes : outcomes.Nodup := by decide

/-- The kinds of searches begin with different letters, so a kind and an outcome can be told
from their characters run together. -/
theorem Series.key_kind_outcome_inj {k kind o outcome : String} (hk : k ∈ Search.kinds)
    (hkind : kind ∈ Search.kinds) :
    key [k, o] = key [kind, outcome] ↔ k = kind ∧ o = outcome := by
  have hkey : ∀ a b : String, key [a, b] = a.toList ++ b.toList := by simp [key]
  rw [hkey, hkey]
  by_cases h : k = kind
  · subst h
    simp [String.toList_inj]
  · simp only [h, false_and, iff_false]
    simp only [Search.kinds, List.mem_cons, List.not_mem_nil, or_false] at hk hkind
    rcases hk with rfl | rfl | rfl <;> rcases hkind with rfl | rfl | rfl <;>
      first | exact absurd rfl h | simp [filterKind, idKind, textKind]

/-! ### The changes for a search -/

namespace Service

variable {α : Type}

/-- **Every way out of a search makes the changes for its result**, and no others: also where
the page or the text is refused before there is a request. -/
theorem runNoted_eq {m : Type → Type} [Monad m] [LawfulMonad m] (s : Service) (b : Backend m)
    (type : DocumentType α) (search : Search) :
    s.runNoted b type search =
      (do let result ← s.run b type search; return (result, changesFor search.kind result)) := by
  cases search with
  | filtered f index => rfl
  | paged f size number index =>
    rw [runNoted, run, request]
    cases Page.of size number with
    | error e => simp [ask, refused, changesFor, Search.kind]
    | ok page => rfl
  | byId id index => rfl
  | byText text size number index =>
    rw [runNoted, run, request]
    cases TextSearch.of text size number with
    | error e => simp [ask, refused, changesFor, Search.kind]
    | ok t => rfl

end Service

/-- A search with its result. -/
structure Finished where
  {α : Type}
  /-- The search. -/
  search : Search
  /-- The result. -/
  result : Outcome (ResultPage α)

namespace Finished

/-- The changes for the search. -/
def changes (d : Finished) : List Change := Service.changesFor d.search.kind d.result

/-- Whether the search is of a kind. -/
def isOf (kind : String) (d : Finished) : Bool := d.search.kind == kind

/-- Whether the search has succeeded. -/
def succeeded (d : Finished) : Bool := d.result.isOk

/-- Whether the search has failed with an error of some code. -/
def failedWith (code : String) (d : Finished) : Bool :=
  match d.result with
  | .ok _ => false
  | .error e => e.code == code

/-- The number of results. -/
def returned (d : Finished) : Nat :=
  match d.result with
  | .ok page => page.data.length
  | .error _ => 0

/-- How the search has come out. -/
def outcome (d : Finished) : String :=
  match d.result with
  | .ok _ => Metrics.okOutcome
  | .error e => e.code

variable (d : Finished) {kind outcome : String}

theorem changes_eq : d.changes = Change.ofSearch d.search.kind d.outcome d.returned := by
  rcases d with ⟨search, _ | _⟩ <;> rfl

theorem outcome_mem_outcomes : d.outcome ∈ Metrics.outcomes := by
  rcases d with ⟨search, e | page⟩
  · exact List.mem_cons_of_mem _ e.code_mem_codes
  · exact List.mem_cons_self

theorem outcome_beq_ok : (d.outcome == Metrics.okOutcome) = d.succeeded := by
  rcases d with ⟨search, e | page⟩
  · exact beq_false_of_ne e.code_ne_okOutcome
  · rfl

theorem outcome_beq_of_ne_ok (h : outcome ≠ Metrics.okOutcome) :
    (d.outcome == outcome) = d.failedWith outcome := by
  rcases d with ⟨search, e | page⟩
  · rfl
  · exact beq_false_of_ne h.symm

/-- A search is counted once, under its kind and its outcome. -/
theorem countP_counts_changes (hkind : kind ∈ Search.kinds) :
    d.changes.countP (·.counts kind outcome) =
      if d.isOf kind && d.outcome == outcome then 1 else 0 := by
  have hcounts : Change.counts kind outcome (.counted d.search.kind d.outcome) =
      (d.isOf kind && d.outcome == outcome) := by
    rw [Bool.eq_iff_iff, Change.counts, beq_iff_eq,
      Series.key_kind_outcome_inj d.search.kind_mem_kinds hkind]
    simp [isOf]
  rw [changes_eq, Change.ofSearch]
  split
  · rw [List.countP_cons, hcounts]
    exact Nat.zero_add _
  · rw [List.countP_cons, hcounts]
    exact Nat.zero_add _

/-- A search is timed once. -/
theorem countP_times_changes :
    d.changes.countP (·.times kind) = if d.isOf kind then 1 else 0 := by
  rw [changes_eq, Change.ofSearch]
  split <;> simp [List.countP_cons, Change.times, isOf]

/-- The hits of a search are told when it succeeds. -/
theorem filterMap_hits_changes :
    d.changes.filterMap (·.hits? kind) =
      if d.isOf kind && d.succeeded then [d.returned] else [] := by
  rw [changes_eq, Change.ofSearch, ← outcome_beq_ok]
  by_cases hok : d.outcome = Metrics.okOutcome
  · by_cases hkind : d.search.kind = kind <;> simp [Change.hits?, isOf, hok, hkind]
  · simp [Change.hits?, hok]

theorem returned_of_not_succeeded (h : d.succeeded = false) : d.returned = 0 := by
  rcases d with ⟨search, e | page⟩
  · rfl
  · cases h

end Finished

/-! ### The changes for many searches -/

section Many

variable {finished : List Finished} {kind outcome : String}

/-- The changes of one figure, counted search by search. -/
theorem countP_flatMap_changes {p : Change → Bool} {q : Finished → Bool}
    (h : ∀ d : Finished, d.changes.countP p = if q d then 1 else 0) (finished : List Finished) :
    (finished.flatMap (·.changes)).countP p = finished.countP q := by
  induction finished with
  | nil => rfl
  | cons d ds ih =>
    rw [List.flatMap_cons, List.countP_append, ih, h, List.countP_cons, Nat.add_comm]

theorem filterMap_hits_flatMap_changes (finished : List Finished) :
    (finished.flatMap (·.changes)).filterMap (·.hits? kind) =
      (finished.filter fun d => d.isOf kind && d.succeeded).map (·.returned) := by
  induction finished with
  | nil => rfl
  | cons d ds ih =>
    rw [List.flatMap_cons, List.filterMap_append, ih, d.filterMap_hits_changes, List.filter_cons]
    split <;> rfl

/-- Searches that fail return nothing, so they may be left in a sum of what was returned. -/
theorem sum_returned_succeeded (finished : List Finished) :
    ((finished.filter fun d => d.isOf kind && d.succeeded).map (·.returned)).sum =
      ((finished.filter (·.isOf kind)).map (·.returned)).sum := by
  induction finished with
  | nil => rfl
  | cons d ds ih =>
    cases hkind : d.isOf kind with
    | false => simp [hkind, ih]
    | true =>
      cases hok : d.succeeded with
      | false => simp [hkind, hok, ih, d.returned_of_not_succeeded hok]
      | true => simp [hkind, hok, ih]

/-- What a single search adds to the counts by outcome: one, when it is of the kind. -/
theorem sum_one_outcome (d : Finished) (outcomes : List String) :
    (outcomes.map fun o => if d.isOf kind && d.outcome == o then 1 else 0).sum =
      if d.isOf kind then outcomes.count d.outcome else 0 := by
  cases hkind : d.isOf kind with
  | false => simp
  | true =>
    induction outcomes with
    | nil => rfl
    | cons o os ih =>
      simp only [Bool.true_and, if_true] at ih ⊢
      rw [List.map_cons, List.sum_cons, ih, List.count_cons, Nat.add_comm, BEq.comm (a := o)]

/-- Each search has one of the outcomes, so counting by outcome counts every search once. -/
theorem sum_countP_outcome (finished : List Finished) :
    (Metrics.outcomes.map fun o =>
        finished.countP fun d => d.isOf kind && d.outcome == o).sum =
      finished.countP (·.isOf kind) := by
  induction finished with
  | nil => rfl
  | cons d ds ih =>
    have hone : Metrics.outcomes.count d.outcome = 1 :=
      List.count_eq_one_of_mem Metrics.nodup_outcomes d.outcome_mem_outcomes
    simp only [List.countP_cons]
    rw [List.sum_map_add, ih, sum_one_outcome, hone]

end Many

/-! ### Traffic -/

/-- Searches under way, and the account that they share. -/
structure Traffic where
  /-- The account. -/
  account : Metrics
  /-- The changes that have still to be made, search by search. -/
  due : List (List Change)
  /-- The searches that have come to their results. -/
  finished : List Finished

namespace Traffic

/-- What may happen next. -/
inductive Step : Traffic → Traffic → Prop
  /-- A search of any service comes to its result, on any backend in whatever state. -/
  | result {σ α : Type} {s : Service} {b : Backend (StateM σ)} {type : DocumentType α}
      {search : Search} {w : σ} {r : Outcome (ResultPage α)} {cs : List Change}
      (h : ((s.runNoted b type search).run w).1 = (r, cs)) (t : Traffic) :
      Step t ⟨t.account, t.due ++ [cs], t.finished ++ [⟨search, r⟩]⟩
  /-- The first change that a search has still to make is made. -/
  | change (m : Metrics) (pre : List (List Change)) (c : Change) (cs : List Change)
      (post : List (List Change)) (finished : List Finished) :
      Step ⟨m, pre ++ (c :: cs) :: post, finished⟩ ⟨m.change c, pre ++ cs :: post, finished⟩

/-- Several steps. -/
abbrev Run : Traffic → Traffic → Prop := Relation.ReflTransGen Step

/-- The traffic before any search. -/
def start (m : Metrics) : Traffic := ⟨m, [], []⟩

/-- No change has still to be made. -/
def AtRest (t : Traffic) : Prop := ∀ cs ∈ t.due, cs = []

/-- The changes that have been made since the account was `m`, and those still to be made,
are together the changes for the results. -/
def Accounted (m : Metrics) (t : Traffic) : Prop :=
  ∃ made, t.account = m.after made ∧
    (made ++ t.due.flatten).Perm (t.finished.flatMap (·.changes))

variable {m : Metrics} {t t' : Traffic}

theorem accounted_start (m : Metrics) : (start m).Accounted m := ⟨[], rfl, .nil⟩

/-- **One step** keeps the changes made and due together those for the results. -/
theorem Step.accounted (h : Step t t') (ht : t.Accounted m) : t'.Accounted m := by
  obtain ⟨made, haccount, hperm⟩ := ht
  cases h with
  | @result σ α s b type search w r cs h t =>
    have hcs : Finished.changes ⟨search, r⟩ = cs := by
      rw [Service.runNoted_eq] at h
      exact (congrArg (Service.changesFor search.kind) (congrArg Prod.fst h)).symm.trans
        (congrArg Prod.snd h)
    refine ⟨made, haccount, ?_⟩
    rw [← hcs]
    simp only [List.flatten_append, List.flatten_singleton, List.flatMap_append,
      List.flatMap_singleton, ← List.append_assoc]
    exact hperm.append_right _
  | change m pre c cs post finished =>
    -- The change moves from those due to the end of those made.
    refine ⟨made ++ [c], by rw [Metrics.after_append, ← haccount]; rfl, ?_⟩
    refine List.Perm.trans ?_ hperm
    simp only [List.flatten_append, List.flatten_cons, List.append_assoc, List.cons_append,
      List.nil_append]
    exact (List.perm_middle.symm).append_left made

/-- A whole run keeps them so as well. -/
theorem Run.accounted (h : Run (start m) t) : t.Accounted m := by
  induction h with
  | refl => exact accounted_start m
  | tail _ hstep ih => exact hstep.accounted ih

/-- Of traffic at rest all changes for the results have been made, in some order. -/
theorem Accounted.at_rest (h : t.Accounted m) (hrest : t.AtRest) :
    ∃ made, t.account = m.after made ∧ made.Perm (t.finished.flatMap (·.changes)) := by
  obtain ⟨made, haccount, hperm⟩ := h
  refine ⟨made, haccount, ?_⟩
  rwa [List.flatten_eq_nil_iff.mpr hrest, List.append_nil] at hperm

/-- The changes of a search may be made one right after the other. -/
theorem run_after (pre : List (List Change)) (post : List (List Change))
    (finished : List Finished) (cs : List Change) :
    ∀ m : Metrics,
      Run ⟨m, pre ++ cs :: post, finished⟩ ⟨m.after cs, pre ++ [] :: post, finished⟩ := by
  induction cs with
  | nil => intro m; exact .refl
  | cons c cs ih => intro m; exact .head (.change m pre c cs post finished) (ih (m.change c))

/-- **A search that writes to the account by itself is traffic, too.** -/
theorem run_of_runMetered {σ α : Type} (s : Service) (b : Backend (StateM σ))
    (type : DocumentType α) (search : Search) (w : σ) (t : Traffic) :
    let done := ((s.runMetered b type search t.account).run w).1
    Run t ⟨done.2, t.due ++ [[]], t.finished ++ [⟨search, done.1⟩]⟩ :=
  .head (.result rfl t) (run_after t.due [] _ _ t.account)

end Traffic

/-! ### What the account says -/

namespace Metrics

/-- The number of searches of a kind, however they came out. -/
def requestsOf (m : Metrics) (kind : String) : Nat := (outcomes.map (m.requests kind)).sum

/-- The figures of the account have grown by just what the results say.  Figures that are
kept as doubles count up to the limit. -/
structure AccountsFor (before : Metrics) (finished : List Finished) (after : Metrics) :
    Prop where
  /-- All searches of a kind are counted. -/
  searches : ∀ kind ∈ Search.kinds,
    before.requestsOf kind + finished.countP (·.isOf kind) ≤ exactLimit →
      after.requestsOf kind = before.requestsOf kind + finished.countP (·.isOf kind)
  /-- Those that succeed are counted as such. -/
  succeeded : ∀ kind ∈ Search.kinds,
    before.requests kind okOutcome +
        finished.countP (fun d => d.isOf kind && d.succeeded) ≤ exactLimit →
      after.requests kind okOutcome = before.requests kind okOutcome +
        finished.countP fun d => d.isOf kind && d.succeeded
  /-- Those that fail are counted under the codes of their errors. -/
  failed : ∀ kind ∈ Search.kinds, ∀ code ≠ okOutcome,
    before.requests kind code +
        finished.countP (fun d => d.isOf kind && d.failedWith code) ≤ exactLimit →
      after.requests kind code = before.requests kind code +
        finished.countP fun d => d.isOf kind && d.failedWith code
  /-- Nothing is counted under other outcomes. -/
  others : ∀ kind ∈ Search.kinds, ∀ outcome ∉ outcomes,
    after.requests kind outcome = before.requests kind outcome
  /-- All searches of a kind are timed. -/
  timed : ∀ kind, after.timed kind = before.timed kind + finished.countP (·.isOf kind)
  /-- There is an observation of hits for each search that succeeds. -/
  observed : ∀ kind, (after.hits kind).count = (before.hits kind).count +
    finished.countP fun d => d.isOf kind && d.succeeded
  /-- The hits add up to all that was returned. -/
  returned : ∀ kind,
    (before.hits kind).sum + ((finished.filter (·.isOf kind)).map (·.returned)).sum ≤
        exactLimit →
      (after.hits kind).sum =
        (before.hits kind).sum + ((finished.filter (·.isOf kind)).map (·.returned)).sum

end Metrics

namespace Traffic

open Metrics

variable {m : Metrics}

theorem accountsFor_of_perm {made : List Change} {finished : List Finished}
    (h : made.Perm (finished.flatMap (·.changes))) : m.AccountsFor finished (m.after made) := by
  have hcounts : ∀ kind ∈ Search.kinds, ∀ outcome, made.countP (·.counts kind outcome) =
      finished.countP fun d => d.isOf kind && d.outcome == outcome := by
    intro kind hkind outcome
    rw [h.countP_eq]
    exact countP_flatMap_changes (fun d => d.countP_counts_changes hkind) finished
  have hhits : ∀ kind, (made.filterMap (·.hits? kind)).Perm
      ((finished.filter fun d => d.isOf kind && d.succeeded).map (·.returned)) := by
    intro kind
    rw [← filterMap_hits_flatMap_changes]
    exact h.filterMap _
  constructor
  case searches =>
    intro kind hkind hlimit
    simp only [requestsOf, ← sum_countP_outcome, ← List.sum_map_add] at hlimit ⊢
    refine congrArg List.sum (List.map_congr_left fun outcome houtcome => ?_)
    rw [← hcounts kind hkind]
    refine requests_after made m (Nat.le_trans ?_ hlimit)
    rw [hcounts kind hkind]
    exact List.le_sum_of_mem (List.mem_map_of_mem houtcome)
  case succeeded =>
    intro kind hkind hlimit
    simp only [← Finished.outcome_beq_ok, ← hcounts kind hkind] at hlimit ⊢
    exact requests_after made m hlimit
  case failed =>
    intro kind hkind code hcode hlimit
    simp only [← Finished.outcome_beq_of_ne_ok _ hcode, ← hcounts kind hkind] at hlimit ⊢
    exact requests_after made m hlimit
  case others =>
    intro kind hkind outcome houtcome
    refine requests_after_of_not_counted made m fun c hc => ?_
    have hnone : made.countP (·.counts kind outcome) = 0 := by
      rw [hcounts kind hkind, List.countP_eq_zero]
      intro d _
      have hne : d.outcome ≠ outcome := fun h => houtcome (h ▸ d.outcome_mem_outcomes)
      simp [hne]
    exact Bool.eq_false_iff.mpr (List.countP_eq_zero.mp hnone c hc)
  case timed =>
    intro kind
    rw [timed_after, h.countP_eq, countP_flatMap_changes fun d => d.countP_times_changes]
  case observed =>
    intro kind
    rw [count_hits_after, (hhits kind).length_eq, List.length_map, List.countP_eq_length_filter]
  case returned =>
    intro kind hlimit
    rw [← sum_returned_succeeded, ← (hhits kind).sum_eq] at hlimit ⊢
    exact sum_hits_after made m hlimit

/-- **The account of all searches.**  Once the traffic has come to rest, every search has
entered the account exactly once: it is counted under its kind and its outcome and timed
under its kind, and when it succeeds its results are added up.  That holds for any searches
of any services on any backends, in whatever order their changes are made; a search that
writes to the account by itself is one such order.  Counts and sums that are kept as doubles
are told up to `2 ^ 53`. -/
theorem accounts_for_all (m : Metrics) :
    (∀ t, Run (start m) t → t.AtRest → m.AccountsFor t.finished t.account) ∧
      ∀ {σ α : Type} (s : Service) (b : Backend (StateM σ)) (type : DocumentType α)
        (search : Search) (w : σ) (t : Traffic),
        let done := ((s.runMetered b type search t.account).run w).1
        Run t ⟨done.2, t.due ++ [[]], t.finished ++ [⟨search, done.1⟩]⟩ := by
  refine ⟨fun t hrun hrest => ?_, fun s b type search w t => run_of_runMetered s b type search w t⟩
  obtain ⟨made, haccount, hperm⟩ := hrun.accounted.at_rest hrest
  rw [haccount]
  exact accountsFor_of_perm hperm

/-- A search that gives two results and one that is refused, with the changes of the second
made between those of the first. -/
theorem accounts_for_all_interleaved :
    let first : Finished := ⟨.filtered .empty "docs", .ok ⟨[Json.null, .null], 2, 10, 0⟩⟩
    let second : Finished :=
      ⟨.paged .empty 0 0 "docs", (.error (.invalidQuery .zeroPageSize) : Outcome (ResultPage Json))⟩
    ∃ account, Run (start .empty) ⟨account, [[], []], [first, second]⟩ ∧
      account.requestsOf filterKind = 2 ∧ (account.hits filterKind).sum = 2 := by
  intro first second
  let b : Backend (StateM Nat) := ⟨"growing", fun _ n => (.ok ⟨List.replicate n .null, n⟩, n + 1)⟩
  have hfirst : ((Service.standard.runNoted b .untyped first.search).run 2).1 =
      (.ok ⟨[.null, .null], 2, 10, 0⟩,
        [.counted filterKind okOutcome, .timed filterKind, .returned filterKind 2]) := rfl
  have hsecond : ((Service.standard.runNoted b .untyped second.search).run 3).1 =
      (.error (.invalidQuery .zeroPageSize),
        [.counted filterKind "INVALID_QUERY", .timed filterKind]) := rfl
  have hrun : Run (start .empty) ⟨_, [[], []], [first, second]⟩ :=
    .head (.result hfirst _) <| .head (.result hsecond _) <|
      .head (.change _ [_] _ _ [] _) <| .head (.change _ [] _ _ [_] _) <|
      .head (.change _ [] _ _ [_] _) <| .head (.change _ [_] _ _ [] _) <|
      .head (.change _ [] _ _ [_] _) .refl
  have hrest : ∀ account, AtRest ⟨account, [[], []], [first, second]⟩ := by simp [AtRest]
  have haccounts := (accounts_for_all .empty).1 _ hrun (hrest _)
  have hkind : filterKind ∈ Search.kinds := List.mem_cons_self
  refine ⟨_, hrun, ?_, ?_⟩
  · exact haccounts.searches filterKind hkind (by decide)
  · exact haccounts.returned filterKind (by decide)

/-- At the limit one more result adds nothing, and neither does one more search. -/
theorem full_account_stays :
    let b : Backend Id := ⟨"stub", fun _ => .ok ⟨[.null], 1⟩⟩
    let search : Search := .filtered .empty "docs"
    let full : Metrics := Metrics.empty.record filterKind okOutcome exactLimit
    let worn : Metrics := ⟨[([filterKind, okOutcome], exactLimit)], [], []⟩
    (∃ page, Service.standard.run b .untyped search = .ok page ∧ page.data.length = 1) ∧
      ((Service.standard.runMetered b .untyped search full).2.hits filterKind).sum =
        (full.hits filterKind).sum ∧
      (Service.standard.runMetered b .untyped search worn).2.requests filterKind okOutcome =
        worn.requests filterKind okOutcome := by
  intro b search full worn
  refine ⟨⟨⟨[.null], 1, 10, 0⟩, rfl, rfl⟩, ?_, ?_⟩ <;> decide +kernel

end Traffic

end DocSearch
