import DocSearch.Proofs.FieldTable.Pairs
import DocSearch.Proofs.Json.Field
import DocSearch.Query.Compile

/-!
# The meaning of a filter

What a filter says about a document, told without compiling it.  Each predicate is
on its own either valid or at fault in one way, and a valid one asks for a scalar
in its field, or for the absence of one.  A filter asks for all of that at once, so
neither the order of its predicates nor their number matters.

Compiling goes through the predicates one by one and puts their clauses into two
groups; `Filter.compile_meaning` says that nothing is lost on that way.

## Main definitions

* `StoredAs` — the stored name of a field, with or without a table.
* `Predicate.Valid`, `Predicate.Fault` — what a predicate needs on its own, and
  what is wrong with one that lacks it.
* `Filter.FirstFault` — the fault of the first predicate that is not valid.
* `Predicate.on` — the clause that a predicate becomes on a stored field.
* `Predicate.Means`, `Filter.Means` — what is said about a document.

## Main results

* `Filter.compile_meaning` — **compiling and then matching is the meaning of the
  filter**: which filters compile, which error the others give, and which documents
  a compiled filter matches.
-/

namespace DocSearch

/-! ### Names of fields -/

/-- The field called `name` is stored under `field`. -/
def StoredAs (fields : Option FieldTable) (name field : String) : Prop :=
  match fields with
  | none => field = name
  | some t => (name, field) ∈ t.pairs

theorem storedName_eq_ok_iff {fields : Option FieldTable} {name field : String} :
    storedName fields name = .ok field ↔
      isBlankName name = false ∧ StoredAs fields name field := by
  unfold storedName
  split
  · next h => simp [h]
  · next h =>
    cases fields with
    | none => simp [h, StoredAs, eq_comm]
    | some t => simp [h, StoredAs, t.resolve_eq_ok_iff]

theorem storedName_eq_error_iff {fields : Option FieldTable} {name : String} {e : SearchError} :
    storedName fields name = .error e ↔
      (isBlankName name = true ∧ e = .invalidFilter .blankName) ∨
        (isBlankName name = false ∧ ∃ t, fields = some t ∧ e = .unknownField t.entity name ∧
          ∀ field, (name, field) ∉ t.pairs) := by
  unfold storedName
  split
  · next h => simp [h, eq_comm]
  · next h =>
    cases fields with
    | none => simp [h]
    | some t => simp [h, t.resolve_eq_error_iff]

/-- A name is stored under one name at most. -/
theorem StoredAs.unique {fields : Option FieldTable} {name a b : String}
    (ha : StoredAs fields name a) (hb : StoredAs fields name b) : a = b := by
  cases fields with
  | none => exact ha.trans hb.symm
  | some t =>
    have h := (t.lookup_eq_some_iff.mpr ha).symm.trans (t.lookup_eq_some_iff.mpr hb)
    exact Option.some.inj h

/-! ### Predicates on their own -/

namespace Predicate

/-- The bounds of a range can be compared and are not inverted. -/
def Ordered : Predicate → Prop
  | .equals _ _ => True
  | .differs _ _ => True
  | .between _ low high => low.order high = some .lt ∨ low.order high = some .eq

/-- What a predicate needs in order to be compiled. -/
structure Valid (fields : Option FieldTable) (p : Predicate) : Prop where
  /-- The name of its field has content. -/
  named : isBlankName p.name = false
  /-- Its field is stored. -/
  stored : ∃ field, StoredAs fields p.name field
  /-- Its bounds are in order. -/
  ordered : p.Ordered

/-- What is wrong with a predicate: its name, else its field, else its bounds. -/
inductive Fault (fields : Option FieldTable) : Predicate → SearchError → Prop
  /-- The name of the field has no content. -/
  | blank {p : Predicate} (hb : isBlankName p.name = true) :
      Fault fields p (.invalidFilter .blankName)
  /-- The table does not list the field. -/
  | unlisted {p : Predicate} {t : FieldTable} (hb : isBlankName p.name = false)
      (ht : fields = some t) (hn : ∀ field, (p.name, field) ∉ t.pairs) :
      Fault fields p (.unknownField t.entity p.name)
  /-- The lower bound lies above the upper bound. -/
  | inverted {name field : String} {low high : Scalar} (hb : isBlankName name = false)
      (hf : StoredAs fields name field) (ho : low.order high = some .gt) :
      Fault fields (.between name low high) (.invalidFilter (.inverted field low high))
  /-- The bounds have no order. -/
  | incomparable {name field : String} {low high : Scalar} (hb : isBlankName name = false)
      (hf : StoredAs fields name field) (ho : low.order high = none) :
      Fault fields (.between name low high) (.invalidFilter (.incomparable field low high))

end Predicate

theorem checkBounds_eq_ok_iff {field : String} {low high : Scalar} :
    checkBounds field low high = .ok () ↔
      low.order high = some .lt ∨ low.order high = some .eq := by
  unfold checkBounds
  split
  · next h => simp [h]
  · next o h hgt => cases o <;> simp_all
  · next h => simp [h]

theorem checkBounds_eq_error_iff {field : String} {low high : Scalar} {e : SearchError} :
    checkBounds field low high = .error e ↔
      (low.order high = some .gt ∧ e = .invalidFilter (.inverted field low high)) ∨
        (low.order high = none ∧ e = .invalidFilter (.incomparable field low high)) := by
  unfold checkBounds
  split
  · next h => simp [h, eq_comm]
  · next h hgt => simp_all
  · next h => simp [h, eq_comm]

namespace Predicate

/-- The clause that a predicate becomes on a stored field. -/
def on (field : String) : Predicate → Clause
  | .equals _ value => .equals field value
  | .differs _ value => .equals field value
  | .between _ low high => .range field low high

/-- The test of the bounds, which only a range has. -/
def checkOn (field : String) : Predicate → Outcome Unit
  | .between _ low high => checkBounds field low high
  | _ => .ok ()

variable {fields : Option FieldTable} {p : Predicate}

theorem checkOn_eq_ok_iff {field : String} : p.checkOn field = .ok () ↔ p.Ordered := by
  cases p with
  | equals name value => exact iff_of_true rfl trivial
  | differs name value => exact iff_of_true rfl trivial
  | between name low high => exact checkBounds_eq_ok_iff

theorem clause_of_storedName_error {e : SearchError} (h : storedName fields p.name = .error e) :
    p.clause fields = .error e := by
  rw [clause, h]

/-- Once the field is found, only the bounds can be at fault. -/
theorem clause_of_storedName {field : String} (h : storedName fields p.name = .ok field) :
    p.clause fields = (p.checkOn field).map fun _ => p.on field := by
  rw [clause, h]
  cases p with
  | equals name value => rfl
  | differs name value => rfl
  | between name low high =>
    simp only [checkOn]
    cases checkBounds field low high <;> rfl

/-- What there is to know about a clause that a predicate has become. -/
theorem clause_eq_ok_iff {c : Clause} : p.clause fields = .ok c ↔
    ∃ field, storedName fields p.name = .ok field ∧ p.Ordered ∧ c = p.on field := by
  constructor
  · intro hc
    cases hname : storedName fields p.name with
    | error e => rw [clause_of_storedName_error hname] at hc; cases hc
    | ok field =>
      rw [clause_of_storedName hname] at hc
      cases hcheck : p.checkOn field with
      | error e => rw [hcheck] at hc; cases hc
      | ok u =>
        rw [hcheck] at hc
        cases hc
        exact ⟨field, rfl, checkOn_eq_ok_iff.mp hcheck, rfl⟩
  · rintro ⟨field, hname, hordered, rfl⟩
    rw [clause_of_storedName hname, checkOn_eq_ok_iff.mpr hordered]
    rfl

/-- **The predicates with a clause are the valid ones.** -/
theorem exists_clause_iff : (∃ c, p.clause fields = .ok c) ↔ p.Valid fields := by
  constructor
  · rintro ⟨c, hc⟩
    obtain ⟨field, hname, hordered, -⟩ := clause_eq_ok_iff.mp hc
    obtain ⟨hnamed, hstored⟩ := storedName_eq_ok_iff.mp hname
    exact ⟨hnamed, ⟨field, hstored⟩, hordered⟩
  · rintro ⟨hnamed, ⟨field, hstored⟩, hordered⟩
    have hname : storedName fields p.name = .ok field :=
      storedName_eq_ok_iff.mpr ⟨hnamed, hstored⟩
    exact ⟨p.on field, clause_eq_ok_iff.mpr ⟨field, hname, hordered, rfl⟩⟩

/-- **The error of a predicate is its fault.** -/
theorem clause_eq_error_iff {e : SearchError} : p.clause fields = .error e ↔ p.Fault fields e := by
  constructor
  · intro he
    cases hname : storedName fields p.name with
    | error e' =>
      rw [clause_of_storedName_error hname, Except.error.injEq] at he
      subst he
      rcases storedName_eq_error_iff.mp hname with ⟨hb, rfl⟩ | ⟨hb, t, rfl, rfl, hn⟩
      · exact Fault.blank hb
      · exact Fault.unlisted hb rfl hn
    | ok field =>
      obtain ⟨hnamed, hstored⟩ := storedName_eq_ok_iff.mp hname
      rw [clause_of_storedName hname] at he
      -- Of the three sorts only a range has anything left to fail.
      cases p with
      | equals name value => cases he
      | differs name value => cases he
      | between name low high =>
        rw [checkOn] at he
        cases hbounds : checkBounds field low high with
        | ok u => rw [hbounds] at he; cases he
        | error e' =>
          rw [hbounds] at he
          cases he
          rcases checkBounds_eq_error_iff.mp hbounds with ⟨ho, rfl⟩ | ⟨ho, rfl⟩
          · exact Fault.inverted hnamed hstored ho
          · exact Fault.incomparable hnamed hstored ho
  · intro hfault
    cases hfault with
    | blank hb =>
      exact clause_of_storedName_error (storedName_eq_error_iff.mpr (Or.inl ⟨hb, rfl⟩))
    | unlisted hb ht hn =>
      exact clause_of_storedName_error
        (storedName_eq_error_iff.mpr (Or.inr ⟨hb, _, ht, rfl, hn⟩))
    | @inverted name field low high hb hf ho =>
      have hname : storedName fields (between name low high).name = .ok field :=
        storedName_eq_ok_iff.mpr ⟨hb, hf⟩
      rw [clause_of_storedName hname, checkOn, checkBounds_eq_error_iff.mpr (Or.inl ⟨ho, rfl⟩)]
      rfl
    | @incomparable name field low high hb hf ho =>
      have hname : storedName fields (between name low high).name = .ok field :=
        storedName_eq_ok_iff.mpr ⟨hb, hf⟩
      rw [clause_of_storedName hname, checkOn, checkBounds_eq_error_iff.mpr (Or.inr ⟨ho, rfl⟩)]
      rfl

theorem Valid.not_fault (h : p.Valid fields) (e : SearchError) : ¬ p.Fault fields e := by
  intro hfault
  obtain ⟨c, hc⟩ := exists_clause_iff.mpr h
  rw [clause_eq_error_iff.mpr hfault] at hc
  cases hc

end Predicate

/-! ### What is said about a document -/

/-- A scalar that passes the test is in the field called `name`. -/
def Json.Meets (doc : Json) (fields : Option FieldTable) (name : String)
    (test : Scalar → Prop) : Prop :=
  ∃ field v s, StoredAs fields name field ∧ doc.Field field v ∧ v.Reaches s ∧ test s

namespace Predicate

/-- What a predicate says about a document.  A range asks for one scalar between both of
its bounds. -/
def Means (fields : Option FieldTable) (doc : Json) : Predicate → Prop
  | .equals name value => doc.Meets fields name fun s => s.order value = some .eq
  | .differs name value => ¬ doc.Meets fields name fun s => s.order value = some .eq
  | .between name low high =>
    doc.Meets fields name fun s =>
      (s.order low = some .gt ∨ s.order low = some .eq) ∧
        (s.order high = some .lt ∨ s.order high = some .eq)

end Predicate

/-- A clause holds when a scalar of its field passes its test. -/
theorem Clause.holds_iff {doc : Json} {c : Clause} {P : Scalar → Prop}
    (h : ∀ j v, Scalar.ofJson? j = some v → (c.test j = true ↔ P v)) :
    c.holds doc = true ↔ ∃ v s, doc.Field c.field v ∧ v.Reaches s ∧ P s := by
  rw [holds]
  cases hat : doc.at? c.field with
  | none =>
    simp only [Bool.false_eq_true, false_iff]
    rintro ⟨v, s, hv, -, -⟩
    rw [Json.at?_eq_some_iff.mpr hv] at hat
    cases hat
  | some u =>
    simp only [Json.anyScalar_iff h u]
    constructor
    · rintro ⟨s, hs, hP⟩; exact ⟨u, s, Json.at?_eq_some_iff.mp hat, hs, hP⟩
    · rintro ⟨v, s, hv, hs, hP⟩
      rw [Json.at?_eq_some_iff.mpr hv, Option.some.injEq] at hat
      subst hat
      exact ⟨s, hs, hP⟩

theorem Clause.test_equals_iff {field : String} {value v : Scalar} {j : Json}
    (h : Scalar.ofJson? j = some v) :
    (Clause.equals field value).test j = true ↔ v.order value = some .eq := by
  simp [test, storedOrder, h]

theorem Clause.test_range_iff {field : String} {low high v : Scalar} {j : Json}
    (h : Scalar.ofJson? j = some v) :
    (Clause.range field low high).test j = true ↔
      (v.order low = some .gt ∨ v.order low = some .eq) ∧
        (v.order high = some .lt ∨ v.order high = some .eq) := by
  simp [test, storedOrder, h]

namespace Predicate

variable {fields : Option FieldTable} {p : Predicate}

theorem meets_iff {doc : Json} {name field : String} {test : Scalar → Prop}
    (h : StoredAs fields name field) :
    doc.Meets fields name test ↔ ∃ v s, doc.Field field v ∧ v.Reaches s ∧ test s := by
  constructor
  · rintro ⟨field', v, s, hstored, hv, hs, ht⟩
    rw [hstored.unique h] at hv
    exact ⟨v, s, hv, hs, ht⟩
  · rintro ⟨v, s, hv, hs, ht⟩; exact ⟨field, v, s, h, hv, hs, ht⟩

/-- **The clause of a predicate, negated where the predicate is, is its meaning.** -/
theorem means_iff_of_clause {c : Clause} (hc : p.clause fields = .ok c) (doc : Json) :
    p.Means fields doc ↔ c.holds doc = !p.isNegated := by
  obtain ⟨field, hname, -, rfl⟩ := clause_eq_ok_iff.mp hc
  have hstored := (storedName_eq_ok_iff.mp hname).2
  cases p with
  | equals name value =>
    refine (meets_iff hstored).trans ?_
    exact (Clause.holds_iff fun j v h => Clause.test_equals_iff h).symm
  | differs name value =>
    -- The clause of a negated predicate is that of the positive one.
    refine (not_congr ((meets_iff hstored).trans ?_)).trans (Iff.of_eq (Bool.not_eq_true _))
    exact (Clause.holds_iff fun j v h => Clause.test_equals_iff h).symm
  | between name low high =>
    refine (meets_iff hstored).trans ?_
    exact (Clause.holds_iff fun j v h => Clause.test_range_iff h).symm

end Predicate

/-! ### Lists of predicates -/

/-- The fault of the first predicate that is not valid. -/
def FirstFault (fields : Option FieldTable) (ps : List Predicate) (e : SearchError) : Prop :=
  ∃ pre p post, ps = pre ++ p :: post ∧ (∀ q ∈ pre, q.Valid fields) ∧ p.Fault fields e

variable {fields : Option FieldTable}

theorem firstFault_cons_of_valid {p : Predicate} (hp : p.Valid fields) {ps : List Predicate}
    {e : SearchError} : FirstFault fields (p :: ps) e ↔ FirstFault fields ps e := by
  constructor
  · rintro ⟨pre, q, post, hsplit, hpre, hq⟩
    -- The faulty predicate is not `p`, so it stands behind it.
    cases pre with
    | nil =>
      rw [List.nil_append, List.cons.injEq] at hsplit
      exact absurd (hsplit.1 ▸ hq) (hp.not_fault e)
    | cons r pre =>
      rw [List.cons_append, List.cons.injEq] at hsplit
      exact ⟨pre, q, post, hsplit.2, fun x hx => hpre x (List.mem_cons_of_mem _ hx), hq⟩
  · rintro ⟨pre, q, post, rfl, hpre, hq⟩
    refine ⟨p :: pre, q, post, rfl, ?_, hq⟩
    intro x hx
    rcases List.mem_cons.mp hx with rfl | hx
    · exact hp
    · exact hpre x hx

theorem firstFault_cons_of_fault {p : Predicate} {e : SearchError} (hp : p.Fault fields e)
    {ps : List Predicate} {e' : SearchError} : FirstFault fields (p :: ps) e' ↔ e = e' := by
  constructor
  · rintro ⟨pre, q, post, hsplit, hpre, hq⟩
    cases pre with
    | nil =>
      rw [List.nil_append, List.cons.injEq] at hsplit
      have h := Predicate.clause_eq_error_iff.mpr (hsplit.1 ▸ hq)
      rw [Predicate.clause_eq_error_iff.mpr hp, Except.error.injEq] at h
      exact h
    | cons r pre =>
      rw [List.cons_append, List.cons.injEq] at hsplit
      exact absurd hp ((hsplit.1 ▸ hpre r List.mem_cons_self).not_fault e)
  · rintro rfl
    exact ⟨[], p, ps, rfl, by simp, hp⟩

namespace Groups

/-- The loop over the predicates goes on behind a clause. -/
theorem ofPredicates_cons_eq_ok_iff {p : Predicate} {ps : List Predicate} {g : Groups} :
    ofPredicates fields (p :: ps) = .ok g ↔ ∃ c rest, p.clause fields = .ok c ∧
      ofPredicates fields ps = .ok rest ∧ g = rest.cons p.isNegated c := by
  rw [ofPredicates]
  cases p.clause fields with
  | error e => simp
  | ok c => cases ofPredicates fields ps <;> simp [eq_comm]

/-- A clause in front of its group is one more condition. -/
theorem admits_cons (negated : Bool) (c : Clause) (g : Groups) (doc : Json) :
    (g.cons negated c).admits doc = true ↔ c.holds doc = !negated ∧ g.admits doc = true := by
  cases negated <;> simp [cons, admits] <;> tauto

/-- **The loop over the predicates**: it stops at the first fault and otherwise gives
groups that admit the documents of which every predicate is true. -/
theorem ofPredicates_spec (fields : Option FieldTable) (ps : List Predicate) :
    (∃ e, ofPredicates fields ps = .error e ∧ (¬ ∀ p ∈ ps, p.Valid fields) ∧
        ∀ e', FirstFault fields ps e' ↔ e = e') ∨
      (∃ g, ofPredicates fields ps = .ok g ∧ (∀ p ∈ ps, p.Valid fields) ∧
        (∀ e', ¬ FirstFault fields ps e') ∧
        ∀ doc, g.admits doc = true ↔ ∀ p ∈ ps, p.Means fields doc) := by
  induction ps with
  | nil =>
    refine Or.inr ⟨⟨[], []⟩, rfl, by simp, ?_, by simp [admits]⟩
    rintro e' ⟨pre, p, post, hsplit, -⟩
    simp at hsplit
  | cons p ps ih =>
    cases hp : p.clause fields with
    | error e =>
      -- The loop stops here, whatever the predicates behind `p` are.
      have hfault := Predicate.clause_eq_error_iff.mp hp
      refine Or.inl ⟨e, by rw [ofPredicates, hp], ?_, fun e' => firstFault_cons_of_fault hfault⟩
      exact fun h => (h p List.mem_cons_self).not_fault e hfault
    | ok c =>
      have hvalid := Predicate.exists_clause_iff.mp ⟨c, hp⟩
      rcases ih with ⟨e, he, hinvalid, hfirst⟩ | ⟨g, hg, hvalids, hfirst, hmeans⟩
      · refine Or.inl ⟨e, by rw [ofPredicates, hp]; simp only [he], ?_, ?_⟩
        · exact fun h => hinvalid fun q hq => h q (List.mem_cons_of_mem _ hq)
        · exact fun e' => (firstFault_cons_of_valid hvalid).trans (hfirst e')
      · refine Or.inr ⟨g.cons p.isNegated c, by rw [ofPredicates, hp]; simp only [hg], ?_, ?_, ?_⟩
        · exact List.forall_mem_cons.mpr ⟨hvalid, hvalids⟩
        · exact fun e' h => hfirst e' ((firstFault_cons_of_valid hvalid).mp h)
        · intro doc
          rw [admits_cons, hmeans, List.forall_mem_cons, p.means_iff_of_clause hp doc]

end Groups

/-- Without clauses every document is admitted, as the query for every document says. -/
theorem Query.matches_ofGroups (g : Groups) (doc : Json) :
    (Query.ofGroups g).matches doc = g.admits doc := by
  unfold ofGroups
  split
  · next h =>
    simp only [Groups.isEmpty, Bool.and_eq_true, List.isEmpty_iff] at h
    simp [Query.matches, Groups.admits, h.1, h.2]
  · rfl

/-! ### Filters -/

/-- What a filter says about a document: all that its predicates say. -/
def Filter.Means (fields : Option FieldTable) (f : Filter) (doc : Json) : Prop :=
  ∀ p ∈ f.predicates, p.Means fields doc

namespace Filter

variable {f : Filter}

/-- The query of a filter is that of its groups. -/
theorem compile_eq_ok_iff {q : Query} : f.compile fields = .ok q ↔
    ∃ g, Groups.ofPredicates fields f.predicates = .ok g ∧ q = Query.ofGroups g := by
  rw [compile]
  cases Groups.ofPredicates fields f.predicates <;> simp [eq_comm]

theorem exists_compile_iff :
    (∃ q, f.compile fields = .ok q) ↔ ∀ p ∈ f.predicates, p.Valid fields := by
  rw [compile]
  rcases Groups.ofPredicates_spec fields f.predicates with
    ⟨e, he, hinvalid, -⟩ | ⟨g, hg, hvalid, -⟩
  · simp [he, hinvalid]
  · simp only [hg, Except.ok.injEq, exists_eq', true_iff]
    exact hvalid

theorem compile_eq_error_iff {e : SearchError} :
    f.compile fields = .error e ↔ FirstFault fields f.predicates e := by
  rw [compile]
  rcases Groups.ofPredicates_spec fields f.predicates with
    ⟨e', he, -, hfirst⟩ | ⟨g, hg, -, hfirst, -⟩
  · simp [he, hfirst]
  · simp [hg, hfirst]

theorem matches_iff_of_compile {q : Query} (hq : f.compile fields = .ok q) (doc : Json) :
    q.matches doc = true ↔ f.Means fields doc := by
  obtain ⟨g, hg, rfl⟩ := compile_eq_ok_iff.mp hq
  rcases Groups.ofPredicates_spec fields f.predicates with
    ⟨e', he, -⟩ | ⟨g', hg', -, -, hmeans⟩
  · rw [he] at hg; cases hg
  · obtain rfl := Except.ok.inj (hg.symm.trans hg')
    rw [Query.matches_ofGroups, hmeans, Means]

/-- **Compiling and then matching is the meaning of the filter.**  A filter compiles
exactly when each of its predicates is valid on its own, and otherwise fails with the
fault of the first one that is not.  What a compiled filter matches is what the
filter means.  Hence filters with the same predicates, in any order and any number of
times, compile together and match the same documents. -/
theorem compile_meaning (fields : Option FieldTable) (f : Filter) :
    ((∃ q, f.compile fields = .ok q) ↔ ∀ p ∈ f.predicates, p.Valid fields) ∧
      (∀ e, f.compile fields = .error e ↔ FirstFault fields f.predicates e) ∧
      (∀ q, f.compile fields = .ok q → ∀ doc, q.matches doc = true ↔ f.Means fields doc) ∧
      ∀ g : Filter, (∀ p, p ∈ f.predicates ↔ p ∈ g.predicates) →
        ((∃ q, f.compile fields = .ok q) ↔ ∃ r, g.compile fields = .ok r) ∧
          ∀ q r, f.compile fields = .ok q → g.compile fields = .ok r →
            ∀ doc, q.matches doc = r.matches doc := by
  refine ⟨exists_compile_iff, fun e => compile_eq_error_iff,
    fun q hq doc => matches_iff_of_compile hq doc, ?_⟩
  intro g hsame
  constructor
  · rw [exists_compile_iff, exists_compile_iff]
    simp only [hsame]
  · intro q r hq hr doc
    rw [Bool.eq_iff_iff, matches_iff_of_compile hq, matches_iff_of_compile hr, Means, Means]
    simp only [hsame]

/-- A range looks into lists inside lists, and a name that is absent differs from every
text; turning the two predicates round and repeating one changes nothing. -/
theorem compile_meaning_nested_list :
    let price : Predicate :=
      .between "price" (.number (.integer 2 (by decide))) (.number (.integer 5 (by decide)))
    let f : Filter := ⟨[price, .differs "name" (.text "a")]⟩
    let g : Filter := ⟨[.differs "name" (.text "a"), price, price]⟩
    let doc : Json :=
      .object [("price", .array [.number (.integer 9 (by decide)),
        .array [.number (.integer 3 (by decide))]])]
    ∃ q r, f.compile none = .ok q ∧ g.compile none = .ok r ∧ q.matches doc = true ∧
      f.Means none doc ∧ r.matches doc = true := by
  intro price f g doc
  let range : Clause :=
    .range "price" (.number (.integer 2 (by decide))) (.number (.integer 5 (by decide)))
  let name : Clause := .equals "name" (.text "a")
  have hq : f.compile none = .ok (.bool ⟨[range], [name]⟩) := by decide
  have hr : g.compile none = .ok (.bool ⟨[range, range], [name]⟩) := by decide
  have hdoc : (Query.bool ⟨[range], [name]⟩).matches doc = true := by decide
  have hsame : ∀ p, p ∈ f.predicates ↔ p ∈ g.predicates := by
    intro p
    simp only [f, g, List.mem_cons, List.not_mem_nil, or_false]
    tauto
  have hmeaning := compile_meaning none f
  refine ⟨_, _, hq, hr, hdoc, (hmeaning.2.2.1 _ hq doc).mp hdoc, ?_⟩
  rw [← (hmeaning.2.2.2 g hsame).2 _ _ hq hr doc]
  exact hdoc

end Filter

end DocSearch
