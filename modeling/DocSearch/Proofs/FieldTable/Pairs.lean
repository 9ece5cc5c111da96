import DocSearch.FieldTable
import Mathlib.Data.List.Nodup

/-!
# Which pairs make a field table

A field table is made of a list of pairs, taken in one after the other.  A pair is refused for
what is wrong with it on its own or next to the pairs in front of it, so the loop stops at the
first pair that does not fit.  That there is no such pair can be said without an order: names
have content, and neither column repeats one.

What a table is asked for is the serialized name of a logical name.  Either column decides
the other, and where the pairs stand does not matter.

## Main definitions

* `FieldTable.Agrees` — tables that answer alike.
* `MakesTable` — the lists of pairs without fault.
* `Misfit` — what is wrong with a pair behind others.
* `FieldTable.Lists` — what a table says of the pairs that it is made of.

## Main results

* `FieldTable.insert_spec`, `FieldTable.insertAll_spec` — one pair, and a list of them.
* `FieldTable.exists_ofPairs_iff`, `FieldTable.ofPairs_eq_error_iff` — which lists make a
  table, and the fault of the others.
* `FieldTable.Agrees.of_perm` — a table is its pairs, in any order.
* `FieldTable.ofPairs_reverse_pairs` — there are no tables besides those made of pairs.
* `FieldTable.ofPairs_exact` — **a table is validated exactly**: all of this together.
-/

namespace DocSearch

/-! ### Looking names up -/

section Lookup

variable {α : Type}

/-- Looking a name up in pairs of different names finds the pair of that name. -/
theorem lookup_eq_some_iff_mem {pairs : List (String × α)}
    (hnodup : (pairs.map (·.1)).Nodup) {name : String} {a : α} :
    pairs.lookup name = some a ↔ (name, a) ∈ pairs := by
  induction pairs with
  | nil => simp
  | cons p ps ih =>
    obtain ⟨n, b⟩ := p
    rw [List.map_cons, List.nodup_cons] at hnodup
    rw [List.lookup_cons, List.mem_cons]
    by_cases hn : name = n
    · subst hn
      have habsent : (name, a) ∉ ps := fun h => hnodup.1 (List.mem_map.mpr ⟨_, h, rfl⟩)
      simp [habsent, eq_comm]
    · have hne : (name == n) = false := by simpa using hn
      rw [hne, ih hnodup.2]
      simp [hn]

/-- A name that is not there is not found. -/
theorem lookup_eq_none_iff_notMem {pairs : List (String × α)} {name : String} :
    pairs.lookup name = none ↔ name ∉ pairs.map (·.1) := by
  rw [List.lookup_eq_none_iff, List.mem_map]
  constructor
  · rintro h ⟨p, hp, rfl⟩
    simpa using h p hp
  · intro h p hp
    rw [bne_iff_ne]
    rintro rfl
    exact h ⟨p, hp, rfl⟩

/-- Pairs of different names are looked up alike, in whatever order they stand. -/
theorem lookup_eq_of_perm {ps qs : List (String × α)} (h : ps.Perm qs)
    (hnodup : (ps.map (·.1)).Nodup) (name : String) : ps.lookup name = qs.lookup name := by
  have hnodup' : (qs.map (·.1)).Nodup := (h.map _).nodup_iff.mp hnodup
  apply Option.ext
  intro a
  rw [lookup_eq_some_iff_mem hnodup, lookup_eq_some_iff_mem hnodup', h.mem_iff]

end Lookup

namespace FieldTable

variable {t u : FieldTable}

/-- A table lists a name with one stored name only. -/
theorem lookup_eq_some_iff (t : FieldTable) {name field : String} :
    t.pairs.lookup name = some field ↔ (name, field) ∈ t.pairs :=
  lookup_eq_some_iff_mem t.names_nodup

/-- What `FieldTable.resolve` finds is what the table lists. -/
theorem resolve_eq_ok_iff (t : FieldTable) {name field : String} :
    t.resolve name = .ok field ↔ (name, field) ∈ t.pairs := by
  rw [← t.lookup_eq_some_iff, resolve]
  cases t.pairs.lookup name <;> simp

theorem resolve_eq_error_iff (t : FieldTable) {name : String} {e : SearchError} :
    t.resolve name = .error e ↔
      e = .unknownField t.entity name ∧ ∀ field, (name, field) ∉ t.pairs := by
  simp only [← t.lookup_eq_some_iff, resolve]
  cases t.pairs.lookup name <;> simp [eq_comm]

/-- **Different names are stored under different names.** -/
theorem resolve_injective (t : FieldTable) {a b field : String} (ha : t.resolve a = .ok field)
    (hb : t.resolve b = .ok field) : a = b := by
  rw [resolve_eq_ok_iff] at ha hb
  exact congrArg Prod.fst (List.inj_on_of_nodup_map t.targets_nodup ha hb rfl)

/-- Two tables of one entity that list the same pairs, and so answer alike. -/
structure Agrees (t u : FieldTable) : Prop where
  /-- They are tables of one entity. -/
  entity_eq : t.entity = u.entity
  /-- They list the same pairs. -/
  pairs_perm : t.pairs.Perm u.pairs
  /-- They have the same number of fields. -/
  size_eq : t.size = u.size
  /-- They find the same serialized names, and fail alike. -/
  resolve_eq : ∀ name, t.resolve name = u.resolve name

/-- **A table is its pairs, in any order.** -/
theorem Agrees.of_perm (hentity : t.entity = u.entity) (hpairs : t.pairs.Perm u.pairs) :
    t.Agrees u := by
  refine ⟨hentity, hpairs, hpairs.length_eq, fun name => ?_⟩
  rw [resolve, resolve, lookup_eq_of_perm hpairs t.names_nodup, hentity]

end FieldTable

/-! ### Pairs without fault -/

/-- The pairs make a table. -/
structure MakesTable (ps : List (String × String)) : Prop where
  /-- All names have content. -/
  named : ∀ p ∈ ps, isBlankName p.1 = false ∧ isBlankName p.2 = false
  /-- Each logical name is listed once. -/
  names_nodup : (ps.map (·.1)).Nodup
  /-- Each serialized name is listed once. -/
  targets_nodup : (ps.map (·.2)).Nodup

theorem FieldTable.makesTable (t : FieldTable) : MakesTable t.pairs :=
  ⟨t.named, t.names_nodup, t.targets_nodup⟩

/-- Whether pairs make a table does not depend on their order. -/
theorem MakesTable.perm {ps qs : List (String × String)} (h : MakesTable ps) (hp : ps.Perm qs) :
    MakesTable qs where
  named p hmem := h.named p (hp.mem_iff.mpr hmem)
  names_nodup := (hp.map _).nodup_iff.mp h.names_nodup
  targets_nodup := (hp.map _).nodup_iff.mp h.targets_nodup

/-- What is wrong with a pair behind others: a name without content, else a serialized name
that is there already, else a logical name that is. -/
inductive Misfit (entity : String) (earlier : List (String × String)) (p : String × String) :
    SetupFault → Prop
  /-- One of the names has no content. -/
  | blank (hblank : isBlankName p.1 = true ∨ isBlankName p.2 = true) :
      Misfit entity earlier p (.blankFieldName entity)
  /-- The serialized name is there already. -/
  | target (hname : isBlankName p.1 = false) (htarget : isBlankName p.2 = false)
      (hmem : p.2 ∈ earlier.map (·.2)) : Misfit entity earlier p (.repeatedTarget entity p.2)
  /-- The logical name is there already. -/
  | name (hname : isBlankName p.1 = false) (htarget : isBlankName p.2 = false)
      (hnew : p.2 ∉ earlier.map (·.2)) (hmem : p.1 ∈ earlier.map (·.1)) :
      Misfit entity earlier p (.repeatedName entity p.1)

namespace Misfit

variable {entity : String} {earlier : List (String × String)} {p : String × String}
  {fault : SetupFault}

/-- The order of the pairs in front does not matter. -/
theorem perm (h : Misfit entity earlier p fault) {others : List (String × String)}
    (hp : earlier.Perm others) : Misfit entity others p fault := by
  have hnames : p.1 ∈ earlier.map (·.1) ↔ p.1 ∈ others.map (·.1) := (hp.map _).mem_iff
  have htargets : p.2 ∈ earlier.map (·.2) ↔ p.2 ∈ others.map (·.2) := (hp.map _).mem_iff
  cases h with
  | blank hblank => exact .blank hblank
  | target hname htarget hmem => exact .target hname htarget (htargets.mp hmem)
  | name hname htarget hnew hmem =>
    exact .name hname htarget (mt htargets.mpr hnew) (hnames.mp hmem)

/-- With a pair that does not fit there is no table, whatever stands behind it. -/
theorem not_makesTable (h : Misfit entity earlier p fault) (later : List (String × String)) :
    ¬ MakesTable (earlier ++ p :: later) := by
  intro hmakes
  have hnamed := hmakes.named p List.mem_append_cons_self
  have hnames := hmakes.names_nodup
  have htargets := hmakes.targets_nodup
  rw [List.map_append, List.map_cons, List.nodup_middle, List.nodup_cons] at hnames htargets
  cases h with
  | blank hblank =>
    rw [hnamed.1, hnamed.2] at hblank
    cases hblank <;> contradiction
  | target _ _ hmem => exact htargets.1 (List.mem_append_left _ hmem)
  | name _ _ _ hmem => exact hnames.1 (List.mem_append_left _ hmem)

end Misfit

namespace FieldTable

variable {entity : String} {t u : FieldTable} {p : String × String}
  {ps : List (String × String)} {fault : SetupFault}

/-! ### One pair -/

/-- A pair that does not fit is refused for its fault. -/
theorem insert_of_misfit (h : Misfit t.entity t.pairs p fault) :
    t.insert p = .error (.configuration fault) := by
  unfold insert
  cases h with
  | blank hblank => rw [dif_pos hblank]
  | target hname htarget hmem => rw [dif_neg (by simp [hname, htarget]), dif_pos hmem]
  | name hname htarget hnew hmem =>
    rw [dif_neg (by simp [hname, htarget]), dif_neg hnew, dif_pos hmem]

/-- **One pair**: it does not fit and is refused, or it is taken in. -/
theorem insert_spec (t : FieldTable) (p : String × String) :
    (∃ fault, Misfit t.entity t.pairs p fault) ∨
      ∃ u, t.insert p = .ok u ∧ u.entity = t.entity ∧ u.pairs = p :: t.pairs := by
  by_cases hblank : isBlankName p.1 = true ∨ isBlankName p.2 = true
  · exact .inl ⟨_, .blank hblank⟩
  · have hnamed := hblank
    rw [not_or, Bool.not_eq_true, Bool.not_eq_true] at hnamed
    by_cases htarget : p.2 ∈ t.pairs.map (·.2)
    · exact .inl ⟨_, .target hnamed.1 hnamed.2 htarget⟩
    · by_cases hname : p.1 ∈ t.pairs.map (·.1)
      · exact .inl ⟨_, .name hnamed.1 hnamed.2 htarget hname⟩
      · right
        unfold insert
        rw [dif_neg hblank, dif_neg htarget, dif_neg hname]
        exact ⟨_, rfl, rfl, rfl⟩

/-! ### A list of pairs -/

/-- **A list of pairs**: it is taken in up to the first pair that does not fit, which is
refused, or all of it is. -/
theorem insertAll_spec (ps : List (String × String)) : ∀ t : FieldTable,
    (∃ pre p post fault, ps = pre ++ p :: post ∧ MakesTable (pre.reverse ++ t.pairs) ∧
        Misfit t.entity (pre.reverse ++ t.pairs) p fault ∧
        t.insertAll ps = .error (.configuration fault)) ∨
      ∃ u, t.insertAll ps = .ok u ∧ u.entity = t.entity ∧ u.pairs = ps.reverse ++ t.pairs := by
  induction ps with
  | nil => intro t; exact .inr ⟨t, rfl, rfl, rfl⟩
  | cons p ps ih =>
    intro t
    rcases t.insert_spec p with ⟨fault, hmisfit⟩ | ⟨t', ht', hentity, hpairs⟩
    · refine .inl ⟨[], p, ps, fault, rfl, t.makesTable, hmisfit, ?_⟩
      rw [insertAll, insert_of_misfit hmisfit]
    · -- The rest is taken in by a table that has `p` in front of its pairs.
      have hrest : t.insertAll (p :: ps) = t'.insertAll ps := by rw [insertAll, ht']
      rcases ih t' with ⟨pre, q, post, fault, rfl, hmakes, hmisfit, herror⟩ | ⟨u, hu, hu₁, hu₂⟩
      · rw [hentity, hpairs] at hmisfit
        rw [hpairs] at hmakes
        refine .inl ⟨p :: pre, q, post, fault, rfl, ?_, ?_, hrest.trans herror⟩
        · rwa [List.reverse_cons, List.append_assoc]
        · rwa [List.reverse_cons, List.append_assoc]
      · refine .inr ⟨u, hrest.trans hu, hu₁.trans hentity, ?_⟩
        rw [hu₂, hpairs, List.reverse_cons, List.append_assoc, List.singleton_append]

/-- The same for a table that is made of its pairs alone, told in the order of the list. -/
theorem ofPairs_spec (entity : String) (ps : List (String × String)) :
    (∃ pre p post fault, ps = pre ++ p :: post ∧ MakesTable pre ∧ Misfit entity pre p fault ∧
        ofPairs entity ps = .error (.configuration fault)) ∨
      ∃ t, ofPairs entity ps = .ok t ∧ t.entity = entity ∧ t.pairs = ps.reverse := by
  rcases insertAll_spec ps (empty entity) with
    ⟨pre, p, post, fault, hsplit, hmakes, hmisfit, herror⟩ | ⟨t, ht, hentity, hpairs⟩
  · rw [pairs_empty, List.append_nil] at hmakes hmisfit
    exact .inl ⟨pre, p, post, fault, hsplit, hmakes.perm (List.reverse_perm pre),
      hmisfit.perm (List.reverse_perm pre), herror⟩
  · rw [pairs_empty, List.append_nil] at hpairs
    exact .inr ⟨t, ht, hentity, hpairs⟩

theorem ofPairs_eq_ok (h : ofPairs entity ps = .ok t) :
    t.entity = entity ∧ t.pairs = ps.reverse := by
  rcases ofPairs_spec entity ps with ⟨_, _, _, _, -, -, -, herror⟩ | ⟨u, hu, hentity, hpairs⟩
  · rw [herror] at h
    cases h
  · rw [hu, Except.ok.injEq] at h
    exact h ▸ ⟨hentity, hpairs⟩

/-- **The lists that make a table.** -/
theorem exists_ofPairs_iff : (∃ t, ofPairs entity ps = .ok t) ↔ MakesTable ps := by
  constructor
  · rintro ⟨t, ht⟩
    have hmakes := t.makesTable
    rw [(ofPairs_eq_ok ht).2] at hmakes
    exact hmakes.perm (List.reverse_perm ps)
  · intro hmakes
    rcases ofPairs_spec entity ps with ⟨pre, p, post, fault, rfl, -, hmisfit, -⟩ | ⟨t, ht, -⟩
    · exact absurd hmakes (hmisfit.not_makesTable post)
    · exact ⟨t, ht⟩

theorem insertAll_append (t : FieldTable) (ps qs : List (String × String)) :
    t.insertAll (ps ++ qs) = (t.insertAll ps).bind (·.insertAll qs) := by
  induction ps generalizing t with
  | nil => rfl
  | cons p ps ih =>
    rw [List.cons_append, insertAll, insertAll]
    cases t.insert p with
    | error e => rfl
    | ok u => exact ih u

/-- **The fault of a list is that of its first pair that does not fit.** -/
theorem ofPairs_eq_error_iff {e : SearchError} :
    ofPairs entity ps = .error e ↔ ∃ pre p post fault, ps = pre ++ p :: post ∧
      MakesTable pre ∧ Misfit entity pre p fault ∧ e = .configuration fault := by
  constructor
  · intro he
    rcases ofPairs_spec entity ps with
      ⟨pre, p, post, fault, hsplit, hmakes, hmisfit, herror⟩ | ⟨t, ht, -⟩
    · exact ⟨pre, p, post, fault, hsplit, hmakes, hmisfit, Except.error.inj (he.symm.trans herror)⟩
    · rw [ht] at he
      cases he
  · rintro ⟨pre, p, post, fault, rfl, hmakes, hmisfit, rfl⟩
    -- The loop comes to `p` with a table of the pairs in front of it.
    obtain ⟨t, ht⟩ := exists_ofPairs_iff.mpr hmakes
    obtain ⟨hentity, hpairs⟩ := ofPairs_eq_ok ht
    have hrefused : t.insert p = .error (.configuration fault) := by
      apply insert_of_misfit
      rw [hentity, hpairs]
      exact hmisfit.perm (List.reverse_perm pre).symm
    rw [ofPairs] at ht ⊢
    rw [insertAll_append, ht]
    show t.insertAll (p :: post) = _
    rw [insertAll, hrefused]

/-- Every table is the table of a list of pairs. -/
theorem ofPairs_reverse_pairs (t : FieldTable) : ofPairs t.entity t.pairs.reverse = .ok t := by
  have hmakes : MakesTable t.pairs.reverse := t.makesTable.perm (List.reverse_perm t.pairs).symm
  obtain ⟨u, hu⟩ : ∃ u, ofPairs t.entity t.pairs.reverse = .ok u := exists_ofPairs_iff.mpr hmakes
  obtain ⟨hentity, hpairs⟩ := ofPairs_eq_ok hu
  rw [List.reverse_reverse] at hpairs
  rw [hu]
  cases t
  cases u
  cases hentity
  cases hpairs
  rfl

/-! ### All of it -/

/-- What a table says of the pairs that it is made of. -/
structure Lists (t : FieldTable) (entity : String) (ps : List (String × String)) : Prop where
  /-- It is a table of the entity. -/
  entity_eq : t.entity = entity
  /-- It has as many fields as there are pairs. -/
  size_eq : t.size = ps.length
  /-- It finds the serialized name of each logical name that is listed. -/
  listed : ∀ p ∈ ps, t.resolve p.1 = .ok p.2
  /-- It knows no other name. -/
  unlisted : ∀ name, name ∉ ps.map (·.1) → t.resolve name = .error (.unknownField entity name)
  /-- It finds different names for different names. -/
  injective : ∀ a b field, t.resolve a = .ok field → t.resolve b = .ok field → a = b

theorem lists_of_ofPairs (h : ofPairs entity ps = .ok t) : t.Lists entity ps := by
  obtain ⟨hentity, hpairs⟩ := ofPairs_eq_ok h
  refine ⟨hentity, ?_, fun p hp => ?_, fun name hname => ?_, fun a b field => t.resolve_injective⟩
  · rw [size, hpairs, List.length_reverse]
  · rw [resolve_eq_ok_iff, hpairs, List.mem_reverse]
    exact hp
  · rw [resolve_eq_error_iff, hentity, hpairs]
    refine ⟨rfl, fun field hmem => hname ?_⟩
    exact List.mem_map.mpr ⟨_, List.mem_reverse.mp hmem, rfl⟩

/-- Tables of the same pairs in another order agree. -/
theorem agrees_of_ofPairs {qs : List (String × String)} (hp : ps.Perm qs)
    (ht : ofPairs entity ps = .ok t) (hu : ofPairs entity qs = .ok u) : t.Agrees u := by
  obtain ⟨hentity, hpairs⟩ := ofPairs_eq_ok ht
  obtain ⟨hentity', hpairs'⟩ := ofPairs_eq_ok hu
  apply Agrees.of_perm (hentity.trans hentity'.symm)
  rw [hpairs, hpairs']
  exact ((List.reverse_perm ps).trans hp).trans (List.reverse_perm qs).symm

/-- **A table is validated exactly.**  A list of pairs makes a table when all names have content
and neither column repeats one.  The table has as many fields as there are pairs; it finds the
serialized name of each logical name, knows no other name, and finds no serialized name twice.
Neither whether there is a table nor what it answers depends on the order of the pairs.
Otherwise the error is the fault of the first pair that does not fit those in front of it. -/
theorem ofPairs_exact (entity : String) (ps : List (String × String)) :
    ((∃ t, ofPairs entity ps = .ok t) ↔ MakesTable ps) ∧
      (∀ t, ofPairs entity ps = .ok t → t.Lists entity ps) ∧
      (∀ qs, ps.Perm qs →
        ((∃ t, ofPairs entity ps = .ok t) ↔ ∃ u, ofPairs entity qs = .ok u) ∧
          ∀ t u, ofPairs entity ps = .ok t → ofPairs entity qs = .ok u → t.Agrees u) ∧
      ∀ e, ofPairs entity ps = .error e ↔ ∃ pre p post fault, ps = pre ++ p :: post ∧
        MakesTable pre ∧ Misfit entity pre p fault ∧ e = .configuration fault := by
  refine ⟨exists_ofPairs_iff, fun t => lists_of_ofPairs, fun qs hp => ⟨?_, fun t u => ?_⟩,
    fun e => ofPairs_eq_error_iff⟩
  · rw [exists_ofPairs_iff, exists_ofPairs_iff]
    exact ⟨fun h => h.perm hp, fun h => h.perm hp.symm⟩
  · exact agrees_of_ofPairs hp

/-- The third pair repeats both the serialized and the logical name of the first one, and the
fourth has a name without content; without these two the order does not matter. -/
theorem ofPairs_exact_both_repeated :
    let ps : List (String × String) := [("Name", "name"), ("Price", "price")]
    ofPairs "Item" (ps ++ [("Name", "name"), (" ", "x")]) =
        .error (.configuration (.repeatedTarget "Item" "name")) ∧
      ∃ t u, ofPairs "Item" ps = .ok t ∧ ofPairs "Item" ps.reverse = .ok u ∧
        t.resolve "Price" = .ok "price" ∧ u.resolve "Price" = .ok "price" ∧
        u.resolve "price" = .error (.unknownField "Item" "price") := by
  intro ps
  have hmakes : MakesTable ps := ⟨by decide, by decide, by decide⟩
  have hmisfit : Misfit "Item" ps ("Name", "name") (.repeatedTarget "Item" "name") :=
    .target (by decide) (by decide) (by decide)
  have hrefused := ((ofPairs_exact "Item" (ps ++ [("Name", "name"), (" ", "x")])).2.2.2 _).mpr
    ⟨ps, ("Name", "name"), [(" ", "x")], _, rfl, hmakes, hmisfit, rfl⟩
  have hperm : ps.Perm ps.reverse := (List.reverse_perm ps).symm
  obtain ⟨hexists, hlists, hany, -⟩ := ofPairs_exact "Item" ps
  obtain ⟨t, ht⟩ := hexists.mpr hmakes
  obtain ⟨u, hu⟩ := (hany _ hperm).1.mp ⟨t, ht⟩
  have hagrees : t.Agrees u := (hany _ hperm).2 t u ht hu
  have hprice : t.resolve "Price" = .ok "price" :=
    (hlists t ht).listed ("Price", "price") (by decide)
  refine ⟨hrefused, t, u, ht, hu, hprice, ?_, ?_⟩
  · rw [← hagrees.resolve_eq, hprice]
  · rw [← hagrees.resolve_eq, (hlists t ht).unlisted "price" (by decide)]

end FieldTable

end DocSearch
