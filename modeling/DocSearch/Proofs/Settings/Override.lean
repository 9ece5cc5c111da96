import DocSearch.Proofs.CommandLine.Compile
import DocSearch.Proofs.Settings.Leaves

/-!
# Settings are overridden one by one

Settings are loaded from three layers: the defaults, the settings of a file, and those of
variables.  One more entry for a setting, in whichever layer, changes this setting and no
other, whatever else is in the layers; and it makes the setting independent of all that lies
below.

There is one exception.  A part may also be given as a list of its settings in their order.
An entry for a single setting makes a table of it, and then the others fall back to their
defaults.

## Main definitions

* `Settings.fileLayerOf` — the settings of the file that is named, if one is.
* `Leaf.Added` — a layer with one more entry for a setting.
* `Leaf.Listed` — a part that is given as a list.

## Main results

* `Settings.load_eq` — the three layers of settings.
* `Leaf.only_of_added` — **one more entry for a setting changes no other one.**
* `Leaf.value_eq_of_added` — **it leaves nothing of what lies below.**
* `Settings.overridden_one_by_one` — **both for files and for variables.**
-/

namespace DocSearch

open Setting

/-! ### Three layers -/

namespace Settings

/-- The settings of the file that is named, or none. -/
def fileLayerOf (texts : Files Id) (vars : List (String × String)) (path : Option String) :
    Except SettingsFault Layer :=
  match path.or (vars.lookup fileVariable) with
  | none => .ok []
  | some path => settingsFile (m := Id) texts path

/-- **Settings are loaded from three layers.** -/
theorem load_eq (texts : Files Id) (vars : List (String × String)) (path : Option String) :
    load (m := Id) texts vars path = (fileLayerOf texts vars path).bind fun file =>
      ofLayers [defaultLayer, file, environmentLayer vars] := by
  cases h : path.or (vars.lookup fileVariable) with
  | none =>
    simp only [load, fileLayerOf, h]
    rfl
  | some p =>
    simp only [load, fileLayerOf, h, bind, pure]
    cases settingsFile (m := Id) texts p <;> rfl

end Settings

namespace Setting

/-- What is laid over a table leaves a table. -/
theorem exists_table_overlay (layer : Layer) (es : Layer) :
    ∃ es', (Setting.table es).overlay layer = .table es' := by
  induction layer generalizing es with
  | nil => exact ⟨es, rfl⟩
  | cons e layer ih =>
    obtain ⟨g, hg⟩ := SettingPath.exists_assignSteps_name e.2 (SettingPath.ofName e.1).head
      (SettingPath.ofName e.1).steps
    rw [overlay, List.foldl_cons, assignNamed_eq, SettingPath.assign, hg]
    exact ih _

theorem exists_table_foldl_overlay (layers : List Layer) (es : Layer) :
    ∃ es', layers.foldl overlay (.table es) = .table es' := by
  induction layers generalizing es with
  | nil => exact ⟨es, rfl⟩
  | cons layer layers ih =>
    obtain ⟨es', hes'⟩ := exists_table_overlay layer es
    rw [List.foldl_cons, hes']
    exact ih es'

end Setting

namespace Leaf

/-- What layers come to in the part of a setting. -/
def partOf (l : Leaf) (layers : List Layer) : Setting :=
  (layers.foldl overlay (.table [])).part l.part

theorem partOf_eq (l : Leaf) (layers : List Layer) :
    l.partOf layers = laid l.part layers.flatten (.table []) := by
  rw [partOf, part_foldl_overlay]
  rfl

/-- A setting is read from what the layers come to in its part. -/
theorem taken?_partOf {layers : List Layer} {s : Settings} (h : Settings.ofLayers layers = .ok s)
    (l : Leaf) : l.taken? (l.found (l.partOf layers)) = some (l.value s) := by
  obtain ⟨es, hes⟩ := exists_table_foldl_overlay layers []
  have hs := (Settings.ofLayers_eq_ok_iff.1 h).1
  rw [hes] at hs
  rw [partOf, hes]
  exact taken?_found hs l

/-! ### One more entry -/

/-- The layer on the right has one more entry for the setting than the one on the left: an entry
of its own, or one in a table for its part, or a table for its part with nothing else. -/
inductive Added (l : Leaf) (v : Setting) : Layer → Layer → Prop
  /-- The entry is one of the layer. -/
  | entry {before after : Layer} {way head name : String}
    (hway : SettingPath.ofName way = ⟨head, [.name name]⟩) (hpart : lowered head = l.part)
    (hname : lowered name = l.name) : Added l v (before ++ after) (before ++ (way, v) :: after)
  /-- The entry is one of a table for the part. -/
  | inside {before after : Layer} {way head name : String} {es es' : Layer}
    (hway : SettingPath.ofName way = ⟨head, []⟩) (hpart : lowered head = l.part)
    (hname : lowered name = l.name) :
    Added l v (before ++ (way, .table (es ++ es')) :: after)
      (before ++ (way, .table (es ++ (name, v) :: es')) :: after)
  /-- The entry is a table for the part. -/
  | table {before after : Layer} {way head name : String}
    (hway : SettingPath.ofName way = ⟨head, []⟩) (hpart : lowered head = l.part)
    (hname : lowered name = l.name) :
    Added l v (before ++ after) (before ++ (way, .table [(name, v)]) :: after)

section Added

variable {l : Leaf} {v : Setting} {layer layer' : Layer}

theorem laidOne_of_part {way head : String} {steps : List SettingStep} (w : Setting)
    (hway : SettingPath.ofName way = ⟨head, steps⟩) (hpart : lowered head = l.part) (u : Setting) :
    laidOne l.part u (way, w) = (⟨head, steps⟩ : SettingPath).laid w u := by
  rw [laidOne, hway, if_pos hpart]

/-- A table for the part has its entries assigned. -/
theorem laidOne_table {way head : String} (es : Layer)
    (hway : SettingPath.ofName way = ⟨head, []⟩) (hpart : lowered head = l.part) (u : Setting) :
    laidOne l.part u (way, .table es) = u.assignAll es :=
  laidOne_of_part _ hway hpart u

theorem laidOne_of_ne_part {way head part : String} {steps : List SettingStep} (w : Setting)
    (hway : SettingPath.ofName way = ⟨head, steps⟩) (hpart : lowered head = l.part)
    (h : part ≠ l.part) (u : Setting) : laidOne part u (way, w) = u := by
  rw [laidOne, hway, if_neg (by rw [hpart]; exact h.symm)]

/-- One more entry is one more assignment among the changes of its part. -/
theorem Added.exists_assign (h : l.Added v layer layer') :
    ∃ f g name, Alters f ∧ Alters g ∧ lowered name = l.name ∧ ∀ u,
      laid l.part layer u = g (f u) ∧ laid l.part layer' u = g ((f u).assign name v) := by
  cases h with
  | @entry before after way head name hway hpart hname =>
    refine ⟨laid l.part before, laid l.part after, name, alters_laid _ _, alters_laid _ _, hname,
      fun u => ⟨laid_append _ _ _ _, ?_⟩⟩
    rw [laid_append, laid_cons, laidOne_of_part v hway hpart]
    rfl
  | @inside before after way head name es es' hway hpart hname =>
    refine ⟨fun u => (laid l.part before u).assignAll es,
      fun u => laid l.part after (u.assignAll es'), name,
      .comp (alters_laid _ _) (alters_assignAll es),
      .comp (alters_assignAll es') (alters_laid _ _), hname, fun u => ⟨?_, ?_⟩⟩
    · rw [laid_append, laid_cons, laidOne_table _ hway hpart, assignAll_append]
    · rw [laid_append, laid_cons, laidOne_table _ hway hpart, assignAll_append, assignAll]
  | @table before after way head name hway hpart hname =>
    refine ⟨laid l.part before, laid l.part after, name, alters_laid _ _, alters_laid _ _, hname,
      fun u => ⟨laid_append _ _ _ _, ?_⟩⟩
    rw [laid_append, laid_cons, laidOne_table _ hway hpart, assignAll, assignAll]

/-- One more entry does nothing to another part. -/
theorem Added.laid_of_ne_part (h : l.Added v layer layer') {part : String} (hp : part ≠ l.part)
    (u : Setting) : laid part layer u = laid part layer' u := by
  cases h with
  | entry hway hpart hname =>
    rw [laid_append, laid_append, laid_cons, laidOne_of_ne_part _ hway hpart hp]
  | inside hway hpart hname =>
    rw [laid_append, laid_append, laid_cons, laid_cons, laidOne_of_ne_part _ hway hpart hp,
      laidOne_of_ne_part _ hway hpart hp]
  | table hway hpart hname =>
    rw [laid_append, laid_append, laid_cons, laidOne_of_ne_part _ hway hpart hp]

theorem Added.agreeBut (h : l.Added v layer layer') (u : Setting) :
    AgreeBut l.name (laid l.part layer u) (laid l.part layer' u) := by
  obtain ⟨f, g, name, -, hg, hname, hlaid⟩ := h.exists_assign
  rw [(hlaid u).1, (hlaid u).2, ← hname]
  exact hg.agreeBut (agreeBut_assign (f u) name v)

theorem Added.agreeAt (h : l.Added v layer layer') (hv : ∀ es, v ≠ .table es) (u u' : Setting) :
    AgreeAt l.name (laid l.part layer' u) (laid l.part layer' u') := by
  obtain ⟨f, g, name, -, hg, hname, hlaid⟩ := h.exists_assign
  rw [(hlaid u).2, (hlaid u').2, ← hname]
  exact hg.agreeAt (agreeAt_assign hv (f u) (f u') name)

end Added

/-! ### What a part holds -/

/-- The part of the setting is given as a list. -/
def Listed (l : Leaf) (layers : List Layer) : Prop := ∃ vs, l.partOf layers = .list vs

/-- But for one setting, two settings are the same. -/
def Only (l : Leaf) (s t : Settings) : Prop := ∀ m, m ≠ l → m.value t = m.value s

theorem lowered_part (l : Leaf) : lowered l.part = l.part := by
  cases l <;> decide +kernel

theorem lowered_name (l : Leaf) : lowered l.name = l.name := by
  cases l <;> decide +kernel

theorem name_injective {l m : Leaf} (h : l.name = m.name) : l = m := by
  cases l <;> cases m <;> first | rfl | exact absurd h (by decide)

/-- But for a list, a part holds its entries. -/
theorem found_eq_under {w : Setting} (h : ∀ vs, w ≠ .list vs) (l : Leaf) :
    l.found w = w.under l.name := by
  cases w with
  | list vs => exact absurd rfl (h vs)
  | _ => rfl

theorem found_of_agreeBut {l m : Leaf} {w w' : Setting} (h : AgreeBut l.name w w')
    (hlist : ∀ vs, w ≠ .list vs) (hm : m ≠ l) : m.found w = m.found w' := by
  have hname : m.name ≠ l.name := fun h => hm (name_injective h)
  rcases h.sort with rfl | ⟨es, rfl⟩ | ⟨vs, rfl⟩
  · rfl
  · rw [found_eq_under hlist, found_eq_under (fun vs => by simp)]
    exact h.entries m.name hname
  · exact absurd rfl (hlist vs)

theorem found_of_agreeAt {l : Leaf} {w w' : Setting} (h : AgreeAt l.name w w') :
    l.found w = l.found w' := by
  obtain rfl | ⟨es, es', rfl, rfl, hlookup⟩ := h
  · rfl
  · exact hlookup

section Layers

variable {l : Leaf} {v : Setting} {layer layer' : Layer} {s s' : Settings}

theorem partOf_append_cons (l : Leaf) (lower : List Layer) (layer : Layer) (upper : List Layer) :
    l.partOf (lower ++ layer :: upper) = laid l.part upper.flatten
      (laid l.part layer (laid l.part lower.flatten (.table []))) := by
  rw [partOf_eq, List.flatten_append, List.flatten_cons, laid_append, laid_append]

/-- **One more entry for a setting changes no other one**, unless their part is a list. -/
theorem only_of_added (lower upper : List Layer) (hadded : l.Added v layer layer')
    (hs : Settings.ofLayers (lower ++ layer :: upper) = .ok s)
    (hs' : Settings.ofLayers (lower ++ layer' :: upper) = .ok s')
    (hlist : ¬ l.Listed (lower ++ layer :: upper)) : l.Only s s' := by
  intro m hm
  have hfound : m.found (m.partOf (lower ++ layer :: upper)) =
      m.found (m.partOf (lower ++ layer' :: upper)) := by
    by_cases hpart : m.part = l.part
    · have hbut : AgreeBut l.name (l.partOf (lower ++ layer :: upper))
          (l.partOf (lower ++ layer' :: upper)) := by
        rw [partOf_append_cons, partOf_append_cons]
        exact (alters_laid _ _).agreeBut (hadded.agreeBut _)
      have hsame : ∀ layers, m.partOf layers = l.partOf layers := fun layers => by
        rw [partOf, partOf, hpart]
      rw [hsame, hsame]
      exact found_of_agreeBut hbut (fun vs hvs => hlist ⟨vs, hvs⟩) hm
    · rw [partOf_append_cons, partOf_append_cons, hadded.laid_of_ne_part hpart]
  have hvalue := taken?_partOf hs' m
  rw [← hfound, taken?_partOf hs m] at hvalue
  exact (Option.some.inj hvalue).symm

/-- **One more entry leaves nothing of what lies below**, unless it is a table. -/
theorem value_eq_of_added (lower lower' upper : List Layer) (hadded : l.Added v layer layer')
    (hv : ∀ es, v ≠ .table es) (hs : Settings.ofLayers (lower ++ layer' :: upper) = .ok s)
    (hs' : Settings.ofLayers (lower' ++ layer' :: upper) = .ok s') : l.value s = l.value s' := by
  have hat : AgreeAt l.name (l.partOf (lower ++ layer' :: upper))
      (l.partOf (lower' ++ layer' :: upper)) := by
    rw [partOf_append_cons, partOf_append_cons]
    exact (alters_laid _ _).agreeAt (hadded.agreeAt hv _ _)
  have hvalue := taken?_partOf hs l
  rw [found_of_agreeAt hat, taken?_partOf hs' l] at hvalue
  exact (Option.some.inj hvalue).symm

/-- An entry that nothing behind it touches is what the setting is read from. -/
theorem read?_of_spares (lower : List Layer) {before after : Layer} {way : String}
    (hway : SettingPath.ofName way = ⟨l.part, [.name l.name]⟩) (hv : ∀ es, v ≠ .table es)
    (hafter : ∀ e ∈ after, Spares l.part l.name e.1)
    (hs : Settings.ofLayers (lower ++ [before ++ (way, v) :: after]) = .ok s) :
    l.read? v = some (l.value s) := by
  have hvalue := taken?_partOf hs l
  have hassigned : ∀ u, laidOne l.part u (way, v) = .table (put l.name v u.entries) := fun u => by
    rw [laidOne_of_part v hway l.lowered_part]
    have hassign := assign_of_not_table hv u l.name
    rw [l.lowered_name] at hassign
    exact hassign
  rw [partOf_append_cons, List.flatten_nil, laid_append, laid_cons, hassigned] at hvalue
  obtain ⟨es, hes, hlookup⟩ := laid_of_spares hafter (put l.name v (laid l.part before
    (laid l.part lower.flatten (.table []))).entries)
  rw [lookup_put, if_pos rfl] at hlookup
  have hfound : l.found (.table es) = some v := hlookup
  rw [hes] at hvalue
  rw [show laid l.part [] (.table es) = .table es from rfl, hfound] at hvalue
  exact hvalue

end Layers

/-! ### Variables -/

theorem ofName_path (l : Leaf) : SettingPath.ofName l.path = ⟨l.part, [.name l.name]⟩ := by
  cases l <;> decide +kernel

end Leaf

/-- What a variable is taken for is no table. -/
theorem guessSetting_ne_table (name value : String) (es : Layer) :
    guessSetting name value ≠ .table es := by
  intro h
  simp only [guessSetting] at h
  -- A truth value, an integer, a double, a list or a text.
  repeat' split at h
  all_goals cases h

theorem settingNameOf?_fileVariable : settingNameOf? fileVariable = none := by decide +kernel

theorem environmentLayer_append_cons {l : Leaf} {name : String}
    (hname : settingNameOf? name = some l.path) (before after : List (String × String))
    (value : String) :
    environmentLayer (before ++ (name, value) :: after) = environmentLayer before ++
      (l.path, guessSetting l.path value) :: environmentLayer after := by
  rw [environmentLayer, List.filterMap_append, List.filterMap_cons, hname]
  rfl

/-- A variable is one more entry. -/
theorem added_of_variable {l : Leaf} {name : String}
    (hname : settingNameOf? name = some l.path) (before after : List (String × String))
    (value : String) :
    l.Added (guessSetting l.path value) (environmentLayer (before ++ after))
      (environmentLayer (before ++ (name, value) :: after)) := by
  rw [environmentLayer_append_cons hname, environmentLayer, List.filterMap_append]
  exact .entry l.ofName_path l.lowered_part l.lowered_name

namespace Settings

/-- A variable for a setting does not name the file. -/
theorem fileLayerOf_append_cons {l : Leaf} {name : String}
    (hname : settingNameOf? name = some l.path) (texts : Files Id)
    (before after : List (String × String)) (value : String) (path : Option String) :
    fileLayerOf texts (before ++ (name, value) :: after) path =
      fileLayerOf texts (before ++ after) path := by
  have hne : fileVariable ≠ name := by
    rintro rfl
    rw [settingNameOf?_fileVariable] at hname
    cases hname
  have hlookup : (before ++ (name, value) :: after).lookup fileVariable =
      (before ++ after).lookup fileVariable := by
    rw [List.lookup_append, List.lookup_append, List.lookup_cons, beq_false_of_ne hne]
  rw [fileLayerOf, fileLayerOf, hlookup]

/-- A path that is given makes the variable for the file idle. -/
theorem load_of_path {vars vars' : List (String × String)}
    (h : (vars.filter fun x => x.1 != fileVariable) = vars'.filter fun x => x.1 != fileVariable)
    (texts : Files Id) (path : String) :
    load (m := Id) texts vars (some path) = load texts vars' (some path) := by
  have hidle : ∀ vars, environmentLayer (vars.filter fun x => x.1 != fileVariable) =
      environmentLayer vars := fun vars => by
    rw [environmentLayer, environmentLayer, List.filterMap_filter]
    congr 1
    funext x
    by_cases hx : x.1 = fileVariable
    · rw [hx, settingNameOf?_fileVariable]
      simp
    · simp [hx]
  rw [load_eq, load_eq, ← hidle vars, h, hidle vars', fileLayerOf, fileLayerOf, Option.some_or,
    Option.some_or]

theorem load_eq_ok_iff {texts : Files Id} {vars : List (String × String)} {path : Option String}
    {s : Settings} : load (m := Id) texts vars path = .ok s ↔ ∃ file,
      fileLayerOf texts vars path = .ok file ∧
        ofLayers [defaultLayer, file, environmentLayer vars] = .ok s := by
  rw [load_eq]
  cases fileLayerOf texts vars path with
  | error e => simp [Except.bind]
  | ok file => simp [Except.bind]

/-- **Settings are overridden one by one.**  They are loaded from three layers.  One more
variable for a setting changes no other setting, unless their part comes out as a list without
it; it makes the setting independent of the defaults and the file, and if no variable behind it
touches the setting, it is what the setting is read from.  The same holds of one more entry in
a file and the defaults.  A path that is given makes the variable for the file idle, and all
settings that are loaded keep their bounds. -/
theorem overridden_one_by_one (l : Leaf) :
    (∀ texts vars path s, load (m := Id) texts vars path = .ok s ↔ ∃ file,
      fileLayerOf texts vars path = .ok file ∧
        ofLayers [defaultLayer, file, environmentLayer vars] = .ok s) ∧
    (∀ texts path file before after name value s s', settingNameOf? name = some l.path →
      fileLayerOf texts (before ++ after) path = .ok file →
      load (m := Id) texts (before ++ after) path = .ok s →
      load (m := Id) texts (before ++ (name, value) :: after) path = .ok s' →
      (¬ l.Listed [defaultLayer, file, environmentLayer (before ++ after)] → l.Only s s') ∧
      (∀ defaults file t, ofLayers [defaults, file,
        environmentLayer (before ++ (name, value) :: after)] = .ok t → l.value t = l.value s') ∧
      ((∀ x ∈ after, ∀ other, settingNameOf? x.1 = some other → Spares l.part l.name other) →
        l.read? (guessSetting l.path value) = some (l.value s'))) ∧
    (∀ texts texts' vars path path' file file' v s s',
      fileLayerOf texts vars path = .ok file → fileLayerOf texts' vars path' = .ok file' →
      l.Added v file file' →
      load (m := Id) texts vars path = .ok s → load (m := Id) texts' vars path' = .ok s' →
      (¬ l.Listed [defaultLayer, file, environmentLayer vars] → l.Only s s') ∧
      ((∀ es, v ≠ .table es) → ∀ defaults t,
        ofLayers [defaults, file', environmentLayer vars] = .ok t → l.value t = l.value s')) ∧
    (∀ vars vars' : List (String × String),
      (vars.filter fun x => x.1 != fileVariable) = vars'.filter (fun x => x.1 != fileVariable) →
      ∀ texts path, load (m := Id) texts vars (some path) = load texts vars' (some path)) ∧
    ∀ texts vars path s, load (m := Id) texts vars path = .ok s → s.search.check = .ok () := by
  refine ⟨fun texts vars path s => load_eq_ok_iff, ?_, ?_,
    fun vars vars' h texts path => load_of_path h texts path,
    fun texts vars path s h => check_of_load h⟩
  · intro texts path file before after name value s s' hname hfile hs hs'
    obtain ⟨_, hfile₁, hs⟩ := load_eq_ok_iff.1 hs
    obtain ⟨_, hfile₂, hs'⟩ := load_eq_ok_iff.1 hs'
    rw [fileLayerOf_append_cons hname] at hfile₂
    cases hfile.symm.trans hfile₁
    cases hfile.symm.trans hfile₂
    have hadded := added_of_variable hname before after value
    have hguess := guessSetting_ne_table l.path value
    refine ⟨Leaf.only_of_added [defaultLayer, file] [] hadded hs hs', fun defaults file' t ht =>
      Leaf.value_eq_of_added [defaults, file'] [defaultLayer, file] [] hadded hguess ht hs',
      fun hafter => ?_⟩
    rw [environmentLayer_append_cons hname] at hs'
    refine Leaf.read?_of_spares [defaultLayer, file] l.ofName_path hguess ?_ hs'
    intro e he
    obtain ⟨x, hx, hxe⟩ := List.mem_filterMap.1 he
    obtain ⟨other, hother, rfl⟩ := Option.map_eq_some_iff.1 hxe
    exact hafter x hx other hother
  · intro texts texts' vars path path' file file' v s s' hfile hfile' hadded hs hs'
    obtain ⟨_, hfile₁, hs⟩ := load_eq_ok_iff.1 hs
    obtain ⟨_, hfile₂, hs'⟩ := load_eq_ok_iff.1 hs'
    cases hfile.symm.trans hfile₁
    cases hfile'.symm.trans hfile₂
    exact ⟨Leaf.only_of_added [defaultLayer] [environmentLayer vars] hadded hs hs',
      fun hv defaults t ht => Leaf.value_eq_of_added [defaults] [defaultLayer]
        [environmentLayer vars] hadded hv ht hs'⟩

/-- One more variable, over a file that sets the same and more. -/
theorem overridden_one_by_one_page_size :
    let texts : Files Id := fun path => if path = "c.toml" then
      .ok "[search]\nbackend = \"in_memory\"\ndefault_page_size = 25\n" else .error .notFound
    let vars := [(fileVariable, "c.toml"), ("FILTER_SEARCH__OBSERVABILITY__JSON_LOGS", "yes")]
    let name := "Filter_Search__Search__Default_Page_Size"
    settingNameOf? name = some Leaf.defaultPageSize.path ∧
      ∃ s s', load (m := Id) texts vars none = .ok s ∧
        load (m := Id) texts (vars ++ [(name, "50")]) none = .ok s' ∧
        s.search.defaultPageSize = 25 ∧ s'.search.defaultPageSize = 50 ∧
        Leaf.defaultPageSize.Only s s' := by
  intro texts vars name
  let s : Settings :=
    ⟨{ backend := .inMemory, defaultPageSize := 25 }, { jsonLogs := true }⟩
  let s' : Settings :=
    ⟨{ backend := .inMemory, defaultPageSize := 50 }, { jsonLogs := true }⟩
  have hname : settingNameOf? name = some Leaf.defaultPageSize.path := by decide +kernel
  have hs : load (m := Id) texts vars none = .ok s := load_of_toOption (by decide +kernel)
  have hs' : load (m := Id) texts (vars ++ [(name, "50")]) none = .ok s' :=
    load_of_toOption (by decide +kernel)
  have hentries : ((fileLayerOf texts vars none).toOption.map fun file =>
      (Leaf.defaultPageSize.partOf [defaultLayer, file, environmentLayer vars]).entries.isEmpty) =
        some false := by decide +kernel
  obtain ⟨file, hfile, -⟩ := load_eq_ok_iff.1 hs
  refine ⟨hname, s, s', hs, hs', rfl, rfl, ?_⟩
  refine ((overridden_one_by_one .defaultPageSize).2.1 texts none file vars [] name "50" s s' hname
    hfile hs hs').1 ?_
  rintro ⟨vs, hvs⟩
  rw [List.append_nil] at hvs
  rw [hfile, Except.toOption, Option.map_some, hvs] at hentries
  cases hentries

/-- The settings of a search are given as a list.  A variable for the index makes a table of it,
and the backend falls back to its default. -/
theorem list_overridden_as_a_whole :
    let texts : Files Id := fun path =>
      if path = "c.toml" then .ok "search = [\"in_memory\"]\n" else .error .notFound
    let name := "FILTER_SEARCH__SEARCH__DEFAULT_INDEX"
    settingNameOf? name = some Leaf.defaultIndex.path ∧
      ∃ s s', load (m := Id) texts [] (some "c.toml") = .ok s ∧
        load (m := Id) texts [(name, "tepix")] (some "c.toml") = .ok s' ∧
        Leaf.backend.value s = .inMemory ∧ Leaf.backend.value s' = .elasticsearch := by
  intro texts name
  exact ⟨by decide +kernel, { search := { backend := .inMemory } },
    { search := { defaultIndex := "tepix" } }, load_of_toOption (by decide +kernel),
    load_of_toOption (by decide +kernel), rfl, rfl⟩

end Settings

end DocSearch
