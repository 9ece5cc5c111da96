import DocSearch.Settings.Layers

/-!
# Laying layers over the parts of settings

A layer is laid over a table entry by entry, and each entry changes what is under one name.
So what layers come to under a name can be followed on its own: it is replaced, it has an
entry of its own changed, or it becomes a list.  All that may come later keeps two values that
agree but for one name in this agreement, and keeps two values that agree in one name in that.

## Main definitions

* `Setting.under`, `Setting.part` — what a table has under a name.
* `Setting.Alters` — the ways in which a value is changed by what is laid over it.
* `Setting.laid` — a layer laid over what is under a name.
* `Setting.AgreeBut`, `Setting.AgreeAt` — values that agree but for one name; in one name.
* `Spares` — entries of layers that leave a name under a name alone.

## Main results

* `Setting.part_overlay` — **what is under a name is changed on its own.**
* `Setting.Alters.agreeBut`, `Setting.Alters.agreeAt` — changes keep agreement.
-/

namespace DocSearch

namespace Setting

/-! ### What is under a name -/

/-- What a value has under a name. -/
def under (v : Setting) (name : String) : Option Setting := v.entries.lookup name

/-- What a value has under a name, or an empty table. -/
def part (v : Setting) (name : String) : Setting := (v.under name).getD (.table [])

/-- A layer of settings. -/
abbrev Layer := List (String × Setting)

theorem lookup_put (name : String) (v : Setting) (es : Layer) (n : String) :
    (put name v es).lookup n = if n = name then some v else es.lookup n := by
  induction es with
  | nil => by_cases h : n = name <;> simp [put, List.lookup_cons, h, beq_false_of_ne]
  | cons e es ih =>
    obtain ⟨k, w⟩ := e
    rw [put]
    by_cases hk : k = name
    · rw [if_pos hk, List.lookup_cons, List.lookup_cons, hk]
      by_cases h : n = name <;> simp [h, beq_false_of_ne]
    · rw [if_neg hk, List.lookup_cons, List.lookup_cons, ih]
      by_cases h : n = k
      · simp [h, hk]
      · simp [beq_false_of_ne h]

theorem under_table_put (name : String) (v : Setting) (es : Layer) (n : String) :
    (table (put name v es)).under n = if n = name then some v else (table es).under n :=
  lookup_put name v es n

/-! ### Changes -/

/-- The ways in which a value is changed by what is laid over it. -/
inductive Alters : (Setting → Setting) → Prop
  /-- It is kept. -/
  | keep : Alters id
  /-- It is replaced. -/
  | replace (v : Setting) : Alters fun _ => v
  /-- It becomes a table, and what is under one name is changed. -/
  | entry (n : String) (g : Option Setting → Setting) :
    Alters fun v => .table (put n (g (v.under n)) v.entries)
  /-- It becomes a list. -/
  | items (g : List Setting → List Setting) : Alters fun v => .list (g v.items)
  /-- It is changed and changed again. -/
  | comp {f g : Setting → Setting} (hf : Alters f) (hg : Alters g) : Alters fun v => g (f v)

/-- A value laid over another: the entries of a table one by one, anything else in its place. -/
def cover (v w : Setting) : Setting :=
  match v with
  | .table es => w.assignAll es
  | v => v

theorem assign_eq (root : Setting) (name : String) (v : Setting) :
    root.assign name v =
      .table (put (lowered name) (cover v (root.part (lowered name))) root.entries) := by
  cases v <;> rw [assign] <;> rfl

theorem alters_assign (name : String) (v : Setting) : Alters fun root => root.assign name v := by
  simp only [assign_eq]
  exact .entry (lowered name) fun x => cover v (x.getD (.table []))

theorem alters_assignAll (es : Layer) : Alters fun root => root.assignAll es := by
  induction es with
  | nil => exact .keep
  | cons e es ih =>
    simp only [assignAll]
    exact .comp (alters_assign e.1 e.2) ih

theorem assignAll_append (root : Setting) (es es' : Layer) :
    root.assignAll (es ++ es') = (root.assignAll es).assignAll es' := by
  induction es generalizing root with
  | nil => rfl
  | cons e es ih => exact ih (root.assign e.1 e.2)

theorem alters_cover (v : Setting) : Alters (cover v) := by
  cases v with
  | table es => exact alters_assignAll es
  | _ => exact .replace _

end Setting

open Setting

namespace SettingPath

/-- The way that a name is read as. -/
def ofName (name : String) : SettingPath := (of? name).getD ⟨name, []⟩

/-- Behind a name, the entry of this name is changed. -/
theorem exists_assignSteps_name (v : Setting) (s : String) (steps : List SettingStep) :
    ∃ g : Option Setting → Setting, assignSteps v (.name s :: steps) =
      fun root => .table (put (lowered s) (g (root.under (lowered s))) root.entries) := by
  cases steps with
  | nil => exact ⟨fun x => cover v (x.getD (.table [])), funext fun root => assign_eq root s v⟩
  | cons step steps => exact ⟨fun x => assignSteps v (step :: steps) (x.getD .nil), rfl⟩

theorem alters_assignSteps (v : Setting) (steps : List SettingStep) :
    Alters (assignSteps v steps) := by
  cases steps with
  | nil => exact .replace v
  | cons step steps =>
    cases step with
    | name s =>
      obtain ⟨g, hg⟩ := exists_assignSteps_name v s steps
      rw [hg]
      exact .entry _ g
    | place i => exact .items fun vs => putAt (placeIn i vs.length) (assignSteps v steps) vs

/-- What a way makes of the value under its first name. -/
def laid (p : SettingPath) (v : Setting) : Setting → Setting :=
  match p.steps with
  | [] => cover v
  | step :: steps => assignSteps v (step :: steps)

theorem alters_laid (p : SettingPath) (v : Setting) : Alters (p.laid v) := by
  unfold laid
  split
  · exact alters_cover v
  · exact alters_assignSteps v _

/-- Where there is nothing, steps lead into an empty table. -/
theorem assignSteps_nil (v : Setting) (step : SettingStep) (steps : List SettingStep) :
    assignSteps v (step :: steps) .nil = assignSteps v (step :: steps) (.table []) := by
  cases step with
  | name s =>
    obtain ⟨g, hg⟩ := exists_assignSteps_name v s steps
    rw [hg]
    rfl
  | place i => rfl

/-- Assigning along a way changes what is under the first name, and nothing else. -/
theorem part_assign (p : SettingPath) (root v : Setting) (name : String) :
    (p.assign root v).part name =
      if lowered p.head = name then p.laid v (root.part name) else root.part name := by
  have hput : ∀ w, (table (put (lowered p.head) w root.entries)).part name =
      if lowered p.head = name then w else root.part name := fun w => by
    rw [part, under_table_put]
    by_cases h : lowered p.head = name
    · rw [if_pos h, if_pos h.symm]
      rfl
    · rw [if_neg h, if_neg (Ne.symm h)]
      rfl
  obtain ⟨head, steps⟩ := p
  cases steps with
  | nil =>
    rw [assign, assignSteps, assign_eq, hput]
    by_cases h : lowered head = name
    · subst h
      rfl
    · rw [if_neg h, if_neg h]
  | cons step steps =>
    have hassign : (⟨head, step :: steps⟩ : SettingPath).assign root v =
        .table (put (lowered head)
          (assignSteps v (step :: steps) ((root.under (lowered head)).getD .nil))
          root.entries) := rfl
    rw [hassign, hput]
    by_cases h : lowered head = name
    · subst h
      rw [if_pos rfl, if_pos rfl, laid, part]
      cases root.under (lowered head) with
      | none => exact assignSteps_nil v step steps
      | some w => rfl
    · rw [if_neg h, if_neg h]

end SettingPath

namespace Setting

/-! ### Layers -/

/-- What an entry of a layer makes of the value under a name. -/
def laidOne (name : String) (v : Setting) (e : String × Setting) : Setting :=
  if lowered (SettingPath.ofName e.1).head = name then (SettingPath.ofName e.1).laid e.2 v
  else v

/-- What a layer makes of the value under a name. -/
def laid (name : String) (layer : Layer) (v : Setting) : Setting := layer.foldl (laidOne name) v

theorem laid_cons (name : String) (e : String × Setting) (layer : Layer) (v : Setting) :
    laid name (e :: layer) v = laid name layer (laidOne name v e) := by
  rw [laid, List.foldl_cons, ← laid]

theorem assignNamed_eq (root : Setting) (name : String) (v : Setting) :
    root.assignNamed name v = (SettingPath.ofName name).assign root v := by
  rw [assignNamed, SettingPath.ofName]
  cases SettingPath.of? name <;> rfl

/-- **What is under a name is changed on its own** by a layer that is laid over a table. -/
theorem part_overlay (root : Setting) (layer : Layer) (name : String) :
    (root.overlay layer).part name = laid name layer (root.part name) := by
  induction layer generalizing root with
  | nil => rfl
  | cons e layer ih =>
    have hone : (root.assignNamed e.1 e.2).part name = laidOne name (root.part name) e := by
      rw [assignNamed_eq, SettingPath.part_assign, laidOne]
    rw [overlay, List.foldl_cons, ← overlay, ih, hone, laid_cons]

theorem laid_append (name : String) (layer layer' : Layer) (v : Setting) :
    laid name (layer ++ layer') v = laid name layer' (laid name layer v) :=
  List.foldl_append

theorem part_foldl_overlay (layers : List Layer) (root : Setting) (name : String) :
    (layers.foldl overlay root).part name = laid name layers.flatten (root.part name) := by
  induction layers generalizing root with
  | nil => rfl
  | cons layer layers ih =>
    rw [List.foldl_cons, ih, part_overlay, List.flatten_cons, laid_append]

theorem alters_laid (name : String) (layer : Layer) : Alters (laid name layer) := by
  induction layer with
  | nil => exact .keep
  | cons e layer ih =>
    have hone : Alters fun v => laidOne name v e := by
      by_cases h : lowered (SettingPath.ofName e.1).head = name
      · simp only [laidOne, if_pos h]
        exact SettingPath.alters_laid _ _
      · simp only [laidOne, if_neg h]
        exact .keep
    have hcons : laid name (e :: layer) = fun v => laid name layer (laidOne name v e) :=
      funext (laid_cons name e layer)
    rw [hcons]
    exact .comp hone ih

/-! ### Values that agree but for one name -/

/-- The two values have the same entries but for one name.  The first may be anything where
the second is a table, and a list in any case. -/
structure AgreeBut (name : String) (v w : Setting) : Prop where
  /-- The entries are the same but for one name. -/
  entries : ∀ n, n ≠ name → v.under n = w.under n
  /-- Values that are no tables are the same, unless the first is a list. -/
  sort : v = w ∨ (∃ es, w = .table es) ∨ ∃ vs, v = .list vs

theorem AgreeBut.refl (name : String) (v : Setting) : AgreeBut name v v :=
  ⟨fun _ _ => rfl, .inl rfl⟩

/-- Assigning under a name changes nothing else. -/
theorem agreeBut_assign (root : Setting) (name : String) (v : Setting) :
    AgreeBut (lowered name) root (root.assign name v) := by
  rw [assign_eq]
  refine ⟨fun n hn => ?_, .inr (.inl ⟨_, rfl⟩)⟩
  rw [under_table_put, if_neg hn]
  rfl

theorem Alters.agreeBut {f : Setting → Setting} (hf : Alters f) {name : String} {v w : Setting}
    (h : AgreeBut name v w) : AgreeBut name (f v) (f w) := by
  induction hf generalizing v w with
  | keep => exact h
  | replace u => exact .refl name u
  | entry n g =>
    refine ⟨fun m hm => ?_, .inr (.inl ⟨_, rfl⟩)⟩
    rw [under_table_put, under_table_put]
    by_cases hn : m = n
    · subst hn
      rw [if_pos rfl, if_pos rfl, h.entries m hm]
    · rw [if_neg hn, if_neg hn]
      exact h.entries m hm
  | items g => exact ⟨fun _ _ => rfl, .inr (.inr ⟨_, rfl⟩)⟩
  | comp _ _ ihf ihg => exact ihg (ihf h)

/-! ### Values that agree in one name -/

/-- The two values are the same, or two tables with the same under one name. -/
def AgreeAt (name : String) (v w : Setting) : Prop :=
  v = w ∨ ∃ es es', v = .table es ∧ w = .table es' ∧ es.lookup name = es'.lookup name

/-- A value that is no table takes the place of what was there. -/
theorem assign_of_not_table {v : Setting} (hv : ∀ es, v ≠ .table es) (root : Setting)
    (name : String) : root.assign name v = .table (put (lowered name) v root.entries) := by
  rw [assign_eq]
  cases v with
  | table es => exact absurd rfl (hv es)
  | _ => rfl

/-- A value that is no table is the same wherever it is assigned. -/
theorem agreeAt_assign {v : Setting} (hv : ∀ es, v ≠ .table es) (root root' : Setting)
    (name : String) : AgreeAt (lowered name) (root.assign name v) (root'.assign name v) := by
  rw [assign_of_not_table hv, assign_of_not_table hv]
  exact .inr ⟨_, _, rfl, rfl, by rw [lookup_put, lookup_put, if_pos rfl, if_pos rfl]⟩

theorem Alters.agreeAt {f : Setting → Setting} (hf : Alters f) {name : String} {v w : Setting}
    (h : AgreeAt name v w) : AgreeAt name (f v) (f w) := by
  induction hf generalizing v w with
  | keep => exact h
  | replace u => exact .inl rfl
  | entry n g =>
    obtain rfl | ⟨es, es', rfl, rfl, hlookup⟩ := h
    · exact .inl rfl
    · refine .inr ⟨_, _, rfl, rfl, ?_⟩
      rw [lookup_put, lookup_put]
      by_cases hn : name = n
      · subst hn
        rw [if_pos rfl, if_pos rfl]
        exact congrArg (fun x => some (g x)) hlookup
      · rw [if_neg hn, if_neg hn]
        exact hlookup
  | items g =>
    obtain rfl | ⟨es, es', rfl, rfl, -⟩ := h
    · exact .inl rfl
    · exact .inl rfl
  | comp _ _ ihf ihg => exact ihg (ihf h)

/-! ### Values that stay -/

/-- The way leads elsewhere than to a name under a name, and not to what is around it. -/
def Spares (part name way : String) : Prop :=
  lowered (SettingPath.ofName way).head = part → ∃ s steps,
    (SettingPath.ofName way).steps = .name s :: steps ∧ lowered s ≠ name

theorem laidOne_of_spares {part name : String} {e : String × Setting}
    (h : Spares part name e.1) (es : Layer) :
    ∃ es', laidOne part (.table es) e = .table es' ∧ es'.lookup name = es.lookup name := by
  by_cases hpart : lowered (SettingPath.ofName e.1).head = part
  · obtain ⟨s, steps, hsteps, hs⟩ := h hpart
    obtain ⟨g, hg⟩ := SettingPath.exists_assignSteps_name e.2 s steps
    have hlaid : laidOne part (.table es) e = .table (put (lowered s)
        (g ((table es).under (lowered s))) es) := by
      rw [laidOne, if_pos hpart, SettingPath.laid, hsteps]
      exact congrFun hg (.table es)
    exact ⟨_, hlaid, by rw [lookup_put, if_neg (Ne.symm hs)]⟩
  · exact ⟨es, by rw [laidOne, if_neg hpart], rfl⟩

/-- A layer that leaves a name alone keeps what is under it. -/
theorem laid_of_spares {part name : String} {layer : Layer}
    (h : ∀ e ∈ layer, Spares part name e.1) (es : Layer) :
    ∃ es', laid part layer (.table es) = .table es' ∧ es'.lookup name = es.lookup name := by
  induction layer generalizing es with
  | nil => exact ⟨es, rfl, rfl⟩
  | cons e layer ih =>
    obtain ⟨es', hes', hlookup⟩ := laidOne_of_spares (h e List.mem_cons_self) es
    obtain ⟨es'', hes'', hlookup'⟩ := ih (fun e' he' => h e' (List.mem_cons_of_mem _ he')) es'
    refine ⟨es'', ?_, hlookup'.trans hlookup⟩
    rw [laid_cons, hes', hes'']

end Setting

end DocSearch
