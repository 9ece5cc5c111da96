import DocSearch.Proofs.Service.Asking

/-!
# Field tables of several types

A service is set up by registering field tables, each for one type, and then built.  Every step
looks at what is there before it, but what comes of all steps can be said at once: there is a
service when no table is empty, no type comes twice and a page holds results.

A search is for documents of one type, and of all that is registered it sees the table of that
type only.  So it is the search of a service without the other tables, and neither they nor the
order of registering matter.  A search for words names no fields, and sees no table at all.

## Main definitions

* `Service.assemble` — the service that comes of registering tables and building.
* `Service.Isolates` — a service in which each type has its own table.
* `Service.SearchesAs` — services whose searches are the same.

## Main results

* `ServiceSetup.register_eq_ok_iff`, `ServiceSetup.registerAll_eq_ok_iff` — one table, and a
  list of them.
* `Service.run_congr` — what a search sees of a service.
* `Service.assemble_isolates` — **registered tables are isolated**: all of this together.
-/

namespace DocSearch

/-! ### Setting up -/

namespace ServiceSetup

variable {s s' : ServiceSetup}

/-- **One table** is registered when it has fields and its type has no table yet. -/
theorem register_eq_ok_iff {type : String} {table : FieldTable} :
    s.register type table = .ok s' ↔ table.isEmpty = false ∧ type ∉ s.tables.map (·.1) ∧
      s' = ⟨(type, table) :: s.tables, s.pageSize⟩ := by
  rw [← lookup_eq_none_iff_notMem, register]
  cases table.isEmpty with
  | true => simp
  | false => cases s.tables.lookup type <;> simp [eq_comm]

theorem registerAll_cons_eq_ok_iff {t : String × FieldTable} {ts : List (String × FieldTable)} :
    s.registerAll (t :: ts) = .ok s' ↔
      ∃ s₁, s.register t.1 t.2 = .ok s₁ ∧ s₁.registerAll ts = .ok s' := by
  rw [registerAll]
  cases s.register t.1 t.2 <;> simp

/-- **A list of tables** is registered when none is empty, and no type comes twice or has a
table already. -/
theorem registerAll_eq_ok_iff {ts : List (String × FieldTable)} :
    s.registerAll ts = .ok s' ↔ (∀ t ∈ ts, t.2.isEmpty = false) ∧ (ts.map (·.1)).Nodup ∧
      (∀ t ∈ ts, t.1 ∉ s.tables.map (·.1)) ∧ s' = ⟨ts.reverse ++ s.tables, s.pageSize⟩ := by
  induction ts generalizing s with
  | nil =>
    rw [registerAll, Except.ok.injEq]
    constructor
    · rintro rfl
      exact ⟨List.forall_mem_nil _, List.nodup_nil, List.forall_mem_nil _, rfl⟩
    · rintro ⟨-, -, -, rfl⟩
      rfl
  | cons t ts ih =>
    have hapart : t.1 ∉ ts.map (·.1) ↔ ∀ u ∈ ts, u.1 ≠ t.1 := by
      rw [List.mem_map, not_exists]
      simp only [not_and]
    rw [registerAll_cons_eq_ok_iff]
    simp only [register_eq_ok_iff, ih, List.forall_mem_cons, List.map_cons, List.nodup_cons, hapart,
      List.reverse_cons, List.append_assoc, List.singleton_append]
    constructor
    · rintro ⟨_, ⟨hfields, hnew, rfl⟩, hall, hnodup, hnews, rfl⟩
      -- The type of `t` is among those that have a table when the rest is registered.
      simp only [List.map_cons, List.mem_cons, not_or] at hnews
      exact ⟨⟨hfields, hall⟩, ⟨fun u hu => (hnews u hu).1, hnodup⟩,
        ⟨hnew, fun u hu => (hnews u hu).2⟩, rfl⟩
    · rintro ⟨⟨hfields, hall⟩, ⟨hother, hnodup⟩, ⟨hnew, hnews⟩, rfl⟩
      refine ⟨_, ⟨hfields, hnew, rfl⟩, hall, hnodup, fun u hu => ?_, rfl⟩
      rw [List.map_cons, List.mem_cons, not_or]
      exact ⟨hother u hu, hnews u hu⟩

end ServiceSetup

namespace Service

/-- The service that comes of registering field tables one after the other, and building. -/
def assemble (pageSize : UInt32) (ts : List (String × FieldTable)) : Outcome Service :=
  (ServiceSetup.registerAll ⟨[], pageSize⟩ ts).bind (·.build)

variable {pageSize : UInt32} {ts us : List (String × FieldTable)} {s s' : Service}

theorem assemble_eq_ok_iff : assemble pageSize ts = .ok s ↔
    (∀ t ∈ ts, t.2.isEmpty = false) ∧ (ts.map (·.1)).Nodup ∧
      ∃ h : 0 < pageSize.toNat, s = ⟨ts.reverse, ⟨pageSize, 0, h⟩⟩ := by
  have hsteps : assemble pageSize ts = .ok s ↔ ∃ setup,
      ServiceSetup.registerAll ⟨[], pageSize⟩ ts = .ok setup ∧ setup.build = .ok s := by
    rw [assemble]
    cases ServiceSetup.registerAll ⟨[], pageSize⟩ ts <;> simp [Except.bind]
  rw [hsteps]
  simp only [ServiceSetup.registerAll_eq_ok_iff, ServiceSetup.build_eq_ok_iff, List.map_nil,
    List.append_nil]
  constructor
  · rintro ⟨_, ⟨hall, hnodup, -, rfl⟩, hsize, rfl⟩
    exact ⟨hall, hnodup, hsize, rfl⟩
  · rintro ⟨hall, hnodup, hsize, rfl⟩
    exact ⟨_, ⟨hall, hnodup, fun _ _ => List.not_mem_nil, rfl⟩, hsize, rfl⟩

/-- **The lists of tables that there is a service for.** -/
theorem exists_assemble_iff : (∃ s, assemble pageSize ts = .ok s) ↔
    (∀ t ∈ ts, t.2.isEmpty = false) ∧ (ts.map (·.1)).Nodup ∧ 0 < pageSize.toNat := by
  simp only [assemble_eq_ok_iff]
  constructor
  · rintro ⟨_, hall, hnodup, hsize, -⟩
    exact ⟨hall, hnodup, hsize⟩
  · rintro ⟨hall, hnodup, hsize⟩
    exact ⟨_, hall, hnodup, hsize, rfl⟩

/-! ### What a search sees -/

/-- **A search sees the table of its type and the standard page**, and nothing else of a
service. -/
theorem run_congr (s s' : Service) {m : Type → Type} [Monad m] {α : Type} {type : DocumentType α}
    (htable : s.tables.lookup type.name = s'.tables.lookup type.name)
    (hpage : s.defaultPage = s'.defaultPage) (b : Backend m) (search : Search) :
    s.run b type search = s'.run b type search := by
  have hrequest : s.request type.name search = s'.request type.name search := by
    cases search with
    | filtered f index => rw [request, request, compile, compile, htable, hpage]
    | paged f size number index => rw [request, request, compile, compile, htable]
    | byId id index => rw [request, request, compile, compile, htable]
    | byText text size number index => rfl
  rw [run, run, hrequest]

/-- The searches of both services are the same, for documents of any type and on any backend. -/
structure SearchesAs (s s' : Service) : Prop where
  /-- They compile filters alike. -/
  compile_eq : ∀ type f, s.compile type f = s'.compile type f
  /-- They have one standard page. -/
  defaultPage_eq : s.defaultPage = s'.defaultPage
  /-- Their searches are the same. -/
  run_eq : ∀ (m : Type → Type) [Monad m] (α : Type) (b : Backend m) (type : DocumentType α)
    search, s.run b type search = s'.run b type search

theorem SearchesAs.of_lookup (hpage : s.defaultPage = s'.defaultPage)
    (htable : ∀ type, s.tables.lookup type = s'.tables.lookup type) : s.SearchesAs s' := by
  refine ⟨fun type f => ?_, hpage, fun m _ α b type search => ?_⟩
  · rw [compile, compile, htable]
  · exact run_congr s s' (htable type.name) hpage b search

/-- A service in which each type has the table that is listed for it, and no other part in the
rest of the list. -/
structure Isolates (s : Service) (ts : List (String × FieldTable)) : Prop where
  /-- Filters for a type that is listed are compiled with its own table. -/
  registered : ∀ type table, (type, table) ∈ ts → ∀ f, s.compile type f = f.compile (some table)
  /-- Filters for any other type are compiled without a table. -/
  unregistered : ∀ type, type ∉ ts.map (·.1) → ∀ f, s.compile type f = f.compile none
  /-- Searches for a type that is listed are those of the service with its table only. -/
  run_registered : ∀ (m : Type → Type) [Monad m] (α : Type) (b : Backend m)
    (type : DocumentType α) table, (type.name, table) ∈ ts → ∀ search,
      s.run b type search = run ⟨[(type.name, table)], s.defaultPage⟩ b type search
  /-- Searches for any other type are those of the service without tables. -/
  run_unregistered : ∀ (m : Type → Type) [Monad m] (α : Type) (b : Backend m)
    (type : DocumentType α), type.name ∉ ts.map (·.1) → ∀ search,
      s.run b type search = run ⟨[], s.defaultPage⟩ b type search

/-- The tables are found in the order of the list as well as in the order of registering. -/
theorem lookup_tables_of_assemble (h : assemble pageSize ts = .ok s) (type : String) :
    s.tables.lookup type = ts.lookup type := by
  obtain ⟨-, hnodup, hsize, rfl⟩ := assemble_eq_ok_iff.mp h
  exact (lookup_eq_of_perm (List.reverse_perm ts).symm hnodup type).symm

theorem isolates_of_assemble (h : assemble pageSize ts = .ok s) : s.Isolates ts := by
  have hlisted : ∀ type table, (type, table) ∈ ts → s.tables.lookup type = some table := by
    intro type table hmem
    rw [lookup_tables_of_assemble h, lookup_eq_some_iff_mem (assemble_eq_ok_iff.mp h).2.1]
    exact hmem
  have hunlisted : ∀ type, type ∉ ts.map (·.1) → s.tables.lookup type = none := by
    intro type hnot
    rw [lookup_tables_of_assemble h, lookup_eq_none_iff_notMem]
    exact hnot
  refine ⟨fun type table hmem f => ?_, fun type hnot f => ?_,
    fun m _ α b type table hmem search => ?_, fun m _ α b type hnot search => ?_⟩
  · rw [compile, hlisted type table hmem]
  · rw [compile, hunlisted type hnot]
  · have htable : s.tables.lookup type.name = [(type.name, table)].lookup type.name := by
      rw [hlisted type.name table hmem, List.lookup_cons_self]
    exact run_congr s ⟨[(type.name, table)], s.defaultPage⟩ htable rfl b search
  · exact run_congr s ⟨[], s.defaultPage⟩ (hunlisted type.name hnot) rfl b search

/-- Registering in another order gives a service whose searches are the same. -/
theorem exists_assemble_of_perm (hp : ts.Perm us) (h : assemble pageSize ts = .ok s) :
    ∃ s', assemble pageSize us = .ok s' ∧ s.SearchesAs s' := by
  obtain ⟨hall, hnodup, hsize, rfl⟩ := assemble_eq_ok_iff.mp h
  have hall' : ∀ t ∈ us, t.2.isEmpty = false := fun t ht => hall t (hp.mem_iff.mpr ht)
  have hnodup' : (us.map (·.1)).Nodup := (hp.map _).nodup_iff.mp hnodup
  have h' : assemble pageSize us = .ok ⟨us.reverse, ⟨pageSize, 0, hsize⟩⟩ :=
    assemble_eq_ok_iff.mpr ⟨hall', hnodup', hsize, rfl⟩
  refine ⟨_, h', .of_lookup rfl fun type => ?_⟩
  rw [lookup_tables_of_assemble h, lookup_tables_of_assemble h']
  exact lookup_eq_of_perm hp hnodup type

/-- **Registered tables are isolated.**  Registering tables and building succeeds exactly when
each table has fields, the types are different and a page holds results.  The service then
compiles the filters for a type with its own table, and those for a type without one as they
are; its searches for a type are those of a service that has no other table.  The order of
registering does not matter, and a search for words is the same on every service. -/
theorem assemble_isolates (pageSize : UInt32) (ts : List (String × FieldTable)) :
    ((∃ s, assemble pageSize ts = .ok s) ↔
        (∀ t ∈ ts, t.2.isEmpty = false) ∧ (ts.map (·.1)).Nodup ∧ 0 < pageSize.toNat) ∧
      (∀ s, assemble pageSize ts = .ok s → s.Isolates ts) ∧
      (∀ us, ts.Perm us → ∀ s, assemble pageSize ts = .ok s →
        ∃ s', assemble pageSize us = .ok s' ∧ s.SearchesAs s') ∧
      ∀ (m : Type → Type) [Monad m] (α : Type) (s s' : Service) (b : Backend m)
        (type : DocumentType α) text size number index,
        s.run b type (.byText text size number index) =
          s'.run b type (.byText text size number index) :=
  ⟨exists_assemble_iff, fun _ => isolates_of_assemble, fun _ hp _ => exists_assemble_of_perm hp,
    fun _ _ _ _ _ _ _ _ _ _ _ => rfl⟩

/-- Two types with tables, in both orders: a name is stored as the table of the type says, and for
a third type as it is.  A type that is listed again, though with another table, is refused. -/
theorem assemble_isolates_third_type :
    let items : FieldTable := ⟨"Item", [("Name", "name")], by decide, by decide, by decide⟩
    let values : FieldTable := ⟨"Value", [("Name", "title")], by decide, by decide, by decide⟩
    let ts : List (String × FieldTable) := [("Item", items), ("Value", values)]
    let f : Filter := ⟨[.equals "Name" (.text "a")]⟩
    (∃ s s', assemble 5 ts = .ok s ∧ assemble 5 ts.reverse = .ok s' ∧
      s'.compile "Item" f = .ok (.bool ⟨[.equals "name" (.text "a")], []⟩) ∧
      s'.compile "Value" f = .ok (.bool ⟨[.equals "title" (.text "a")], []⟩) ∧
      s'.compile "Tepix" f = .ok (.bool ⟨[.equals "Name" (.text "a")], []⟩)) ∧
    ¬ ∃ s, assemble 5 (("Item", values) :: ts) = .ok s := by
  intro items values ts f
  obtain ⟨hexists, hisolates, hany, -⟩ := assemble_isolates 5 ts
  obtain ⟨s, hs⟩ := hexists.mpr ⟨by decide, by decide, by decide⟩
  obtain ⟨s', hs', hsame⟩ := hany _ (List.reverse_perm ts).symm s hs
  have hisolated : s.Isolates ts := hisolates s hs
  refine ⟨⟨s, s', hs, hs', ?_, ?_, ?_⟩, ?_⟩
  · rw [← hsame.compile_eq, hisolated.registered "Item" items List.mem_cons_self]
    rfl
  · rw [← hsame.compile_eq,
      hisolated.registered "Value" values (List.mem_cons_of_mem _ List.mem_cons_self)]
    rfl
  · rw [← hsame.compile_eq, hisolated.unregistered "Tepix" (by decide)]
    rfl
  · rw [(assemble_isolates 5 (("Item", values) :: ts)).1]
    rintro ⟨-, hnodup, -⟩
    exact absurd hnodup (by decide)

end Service

end DocSearch
