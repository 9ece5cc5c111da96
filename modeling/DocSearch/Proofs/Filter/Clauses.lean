import DocSearch.Proofs.Filter.Meaning

/-!
# The clauses of a filter

A filter that compiles becomes one clause for each predicate.  The clauses stand in two groups,
each in the order of the predicates, and a clause is its predicate on the field that the name
of the predicate is stored under.

A table of fields has no other part in this than to give that field.  So the query under a table
is the query without one, renamed, and since a table gives different names different fields,
renaming loses nothing.

## Main definitions

* `Groups.mapClauses`, `Query.mapClauses` — clauses changed one by one.
* `targetIn`, `FieldTable.target` — the field that a name is stored under.
* `Groups.under` — the clauses of predicates, told at once.
* `Clause.renamed`, `Query.renamed` — fields renamed.
* `Filter.RenamedBy` — what a table makes of the query of a filter.

## Main results

* `Groups.ofPredicates_eq_ok_iff` — the loop over the predicates gives their clauses.
* `Predicate.valid_some_iff` — what a predicate needs under a table.
* `Filter.compile_some` — **a table of fields renames the query.**
-/

namespace DocSearch

/-! ### Clauses changed one by one -/

/-- The groups with each clause changed. -/
def Groups.mapClauses (change : Clause → Clause) (g : Groups) : Groups :=
  ⟨g.must.map change, g.mustNot.map change⟩

/-- The query with each clause changed. -/
def Query.mapClauses (change : Clause → Clause) : Query → Query
  | .matchAll => .matchAll
  | .bool g => .bool (g.mapClauses change)
  | .multiMatch text fields => .multiMatch text fields

/-- No clause comes or goes, so the query of the groups stays of its sort. -/
theorem Query.ofGroups_mapClauses (change : Clause → Clause) (g : Groups) :
    ofGroups (g.mapClauses change) = (ofGroups g).mapClauses change := by
  have hempty : (g.mapClauses change).isEmpty = g.isEmpty := by
    simp only [Groups.isEmpty, Groups.mapClauses, List.isEmpty_map]
  rw [ofGroups, ofGroups, hempty]
  split <;> rfl

/-! ### The fields of names -/

/-- The field that a table gives a name; a name that it does not list stands for itself. -/
def FieldTable.target (t : FieldTable) (name : String) : String :=
  (t.pairs.lookup name).getD name

/-- The field that a name is stored under, with a table or without. -/
def targetIn (fields : Option FieldTable) (name : String) : String :=
  match fields with
  | none => name
  | some t => t.target name

theorem FieldTable.target_of_resolve {t : FieldTable} {name field : String}
    (h : t.resolve name = .ok field) : t.target name = field := by
  rw [resolve_eq_ok_iff, ← lookup_eq_some_iff] at h
  rw [target, h, Option.getD_some]

theorem StoredAs.targetIn_eq {fields : Option FieldTable} {name field : String}
    (h : StoredAs fields name field) : targetIn fields name = field := by
  cases fields with
  | none => exact h.symm
  | some t => exact FieldTable.target_of_resolve (t.resolve_eq_ok_iff.mpr h)

/-! ### The query of a filter, told at once -/

/-- The clauses of predicates on the fields of their names: those that have to hold and those
that must not, each in the order of the predicates. -/
def Groups.under (target : String → String) (ps : List Predicate) : Groups where
  must := (ps.filter fun p => !p.isNegated).map fun p => p.on (target p.name)
  mustNot := (ps.filter fun p => p.isNegated).map fun p => p.on (target p.name)

theorem Groups.under_cons (target : String → String) (p : Predicate) (ps : List Predicate) :
    under target (p :: ps) = (under target ps).cons p.isNegated (p.on (target p.name)) := by
  cases p <;> rfl

section Fields

variable {fields : Option FieldTable}

/-- A valid predicate becomes the clause on its field. -/
theorem Predicate.clause_eq_ok_iff_valid {p : Predicate} {c : Clause} :
    p.clause fields = .ok c ↔ p.Valid fields ∧ c = p.on (targetIn fields p.name) := by
  rw [clause_eq_ok_iff]
  constructor
  · rintro ⟨field, hname, hordered, rfl⟩
    obtain ⟨hnamed, hstored⟩ := storedName_eq_ok_iff.mp hname
    exact ⟨⟨hnamed, ⟨field, hstored⟩, hordered⟩, by rw [hstored.targetIn_eq]⟩
  · rintro ⟨⟨hnamed, ⟨field, hstored⟩, hordered⟩, rfl⟩
    rw [hstored.targetIn_eq]
    exact ⟨field, storedName_eq_ok_iff.mpr ⟨hnamed, hstored⟩, hordered, rfl⟩

/-- **The loop over the predicates gives their clauses**, when all of them are valid. -/
theorem Groups.ofPredicates_eq_ok_iff {ps : List Predicate} {g : Groups} :
    ofPredicates fields ps = .ok g ↔
      (∀ p ∈ ps, p.Valid fields) ∧ g = under (targetIn fields) ps := by
  induction ps generalizing g with
  | nil => simp [ofPredicates, under, eq_comm]
  | cons p ps ih =>
    rw [ofPredicates_cons_eq_ok_iff, List.forall_mem_cons, under_cons]
    constructor
    · rintro ⟨c, rest, hc, hrest, rfl⟩
      obtain ⟨hvalid, rfl⟩ := Predicate.clause_eq_ok_iff_valid.mp hc
      obtain ⟨hvalids, rfl⟩ := ih.mp hrest
      exact ⟨⟨hvalid, hvalids⟩, rfl⟩
    · rintro ⟨⟨hvalid, hvalids⟩, rfl⟩
      exact ⟨_, _, Predicate.clause_eq_ok_iff_valid.mpr ⟨hvalid, rfl⟩, ih.mpr ⟨hvalids, rfl⟩, rfl⟩

/-- **The query of a filter, told at once.** -/
theorem Filter.compile_eq_ok_iff_valid {f : Filter} {q : Query} :
    f.compile fields = .ok q ↔ (∀ p ∈ f.predicates, p.Valid fields) ∧
      q = Query.ofGroups (Groups.under (targetIn fields) f.predicates) := by
  rw [compile_eq_ok_iff]
  simp only [Groups.ofPredicates_eq_ok_iff]
  constructor
  · rintro ⟨g, ⟨hvalids, rfl⟩, rfl⟩
    exact ⟨hvalids, rfl⟩
  · rintro ⟨hvalids, rfl⟩
    exact ⟨_, ⟨hvalids, rfl⟩, rfl⟩

end Fields

/-! ### Renaming -/

/-- A clause on the renamed field. -/
def Clause.renamed (rename : String → String) : Clause → Clause
  | .equals field value => .equals (rename field) value
  | .range field low high => .range (rename field) low high

/-- A query with the fields of its clauses renamed. -/
def Query.renamed (rename : String → String) (q : Query) : Query :=
  q.mapClauses (Clause.renamed rename)

theorem Predicate.field_on (field : String) (p : Predicate) : (p.on field).field = field := by
  cases p <;> rfl

theorem Predicate.on_renamed (rename : String → String) (field : String) (p : Predicate) :
    (p.on field).renamed rename = p.on (rename field) := by
  cases p <;> rfl

/-- Clauses on the names themselves, renamed, are clauses on the renamed names. -/
theorem Groups.under_renamed (rename : String → String) (ps : List Predicate) :
    (under (targetIn none) ps).mapClauses (Clause.renamed rename) = under rename ps := by
  simp only [under, mapClauses, List.map_map, Function.comp_def, Predicate.on_renamed, targetIn]

section Table

variable {t : FieldTable} {f : Filter}

/-- Under a table a predicate has to be valid without one, and its name has to be listed. -/
theorem Predicate.valid_some_iff {p : Predicate} :
    p.Valid (some t) ↔ p.Valid none ∧ ∃ field, t.resolve p.name = .ok field := by
  constructor
  · rintro ⟨hnamed, ⟨field, hstored⟩, hordered⟩
    exact ⟨⟨hnamed, ⟨p.name, rfl⟩, hordered⟩, field, t.resolve_eq_ok_iff.mpr hstored⟩
  · rintro ⟨hvalid, field, hfield⟩
    exact ⟨hvalid.named, ⟨field, t.resolve_eq_ok_iff.mp hfield⟩, hvalid.ordered⟩

/-- What a table makes of the query `q` of a filter. -/
structure Filter.RenamedBy (t : FieldTable) (f : Filter) (q r : Query) : Prop where
  /-- The table lists the names of all predicates. -/
  resolve_eq : ∀ p ∈ f.predicates, t.resolve p.name = .ok (t.target p.name)
  /-- The fields of the query are renamed; its groups, their order and the values stay. -/
  eq_renamed : r = q.renamed t.target
  /-- So each predicate has its clause, on the field of its name. -/
  eq_under : r = Query.ofGroups (Groups.under t.target f.predicates)
  /-- Two predicates have one field exactly when they have one name. -/
  field_eq_iff : ∀ p ∈ f.predicates, ∀ p' ∈ f.predicates,
    (p.on (t.target p.name)).field = (p'.on (t.target p'.name)).field ↔ p.name = p'.name

theorem Filter.renamedBy_of_compile {r : Query} (h : f.compile (some t) = .ok r) :
    ∃ q, f.compile none = .ok q ∧ f.RenamedBy t q r := by
  obtain ⟨hvalids, rfl⟩ := compile_eq_ok_iff_valid.mp h
  have hplain : ∀ p ∈ f.predicates, p.Valid none := fun p hp =>
    (Predicate.valid_some_iff.mp (hvalids p hp)).1
  have hresolve : ∀ p ∈ f.predicates, t.resolve p.name = .ok (t.target p.name) := by
    intro p hp
    obtain ⟨field, hfield⟩ := (Predicate.valid_some_iff.mp (hvalids p hp)).2
    rw [FieldTable.target_of_resolve hfield, hfield]
  refine ⟨_, compile_eq_ok_iff_valid.mpr ⟨hplain, rfl⟩, hresolve, ?_, rfl, ?_⟩
  · rw [Query.renamed, ← Query.ofGroups_mapClauses, Groups.under_renamed]
    rfl
  · intro p hp p' hp'
    rw [Predicate.field_on, Predicate.field_on]
    constructor
    · -- One field cannot be that of two names.
      intro hfield
      have hname : t.resolve p.name = .ok (t.target p'.name) := hfield ▸ hresolve p hp
      exact t.resolve_injective hname (hresolve p' hp')
    · exact congrArg t.target

/-- **A table of fields renames the query.**  A filter compiles under a table exactly when it
compiles without one and the table lists the name of each predicate.  The query is then the
plain one with each field replaced by what the table gives for it: the groups, their order and
the values stay, and two predicates have one field exactly when they have one name.  Otherwise
the error is the fault of the first predicate that is not valid under the table: its name is
blank, else the table does not list it, else its bounds are not in order. -/
theorem Filter.compile_some (t : FieldTable) (f : Filter) :
    ((∃ r, f.compile (some t) = .ok r) ↔
        (∃ q, f.compile none = .ok q) ∧
          ∀ p ∈ f.predicates, ∃ field, t.resolve p.name = .ok field) ∧
      (∀ r, f.compile (some t) = .ok r → ∃ q, f.compile none = .ok q ∧ f.RenamedBy t q r) ∧
      ∀ e, f.compile (some t) = .error e ↔ FirstFault (some t) f.predicates e := by
  refine ⟨?_, fun r => renamedBy_of_compile, fun e => compile_eq_error_iff⟩
  rw [exists_compile_iff, exists_compile_iff]
  simp only [Predicate.valid_some_iff]
  exact forall₂_and

/-- A name that two predicates share, one in each group; and a name that is not listed, which is
the fault of its predicate although the bounds are inverted and a blank name stands behind it. -/
theorem Filter.compile_some_shared_name :
    let t : FieldTable :=
      ⟨"Item", [("Name", "name"), ("Price", "price")], by decide, by decide, by decide⟩
    let f : Filter := ⟨[.differs "Price" (.text "5"), .between "Name" (.text "a") (.text "b"),
      .equals "Price" (.text "7")]⟩
    let g : Filter := ⟨[.equals "Name" (.text "a"), .between "name" (.text "b") (.text "a"),
      .equals " " (.text "a")]⟩
    (∃ q r, f.compile none = .ok q ∧ f.compile (some t) = .ok r ∧ r = q.renamed t.target ∧
      r = .bool ⟨[.range "name" (.text "a") (.text "b"), .equals "price" (.text "7")],
        [.equals "price" (.text "5")]⟩) ∧
      g.compile (some t) = .error (.unknownField "Item" "name") := by
  intro t f g
  have hr : f.compile (some t) =
      .ok (.bool ⟨[.range "name" (.text "a") (.text "b"), .equals "price" (.text "7")],
        [.equals "price" (.text "5")]⟩) := by decide +kernel
  obtain ⟨q, hq, hby⟩ := (compile_some t f).2.1 _ hr
  refine ⟨⟨q, _, hq, hr, hby.eq_renamed, rfl⟩, ((compile_some t g).2.2 _).mpr ?_⟩
  have hfirst : (Predicate.equals "Name" (.text "a")).Valid (some t) :=
    ⟨by decide, ⟨"name", List.mem_cons_self⟩, trivial⟩
  have hunlisted : ∀ field, ("name", field) ∉ t.pairs := by simp [t]
  exact ⟨[_], .between "name" (.text "b") (.text "a"), [_], rfl,
    List.forall_mem_singleton.mpr hfirst, .unlisted (by decide) rfl hunlisted⟩

end Table

end DocSearch
