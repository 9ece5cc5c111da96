import DocSearch.Proofs.Json.Members
import DocSearch.Proofs.Json.Trees
import Mathlib.Data.List.Forall2

/-!
# Documents that are kept

What is kept of a tree as a document: the same truth values, the texts that its strings spell,
the numbers that its numerals stand for, the items of its lists in their order, and under each
name of an object the last member of that name, the members in the order of their names.  A tree
is kept if its strings spell texts, its numerals are in range, and not too many arrays and
objects stand inside each other.

## Main definitions

* `Tree.Within` — at most so many arrays and objects stand inside each other.
* `Tree.Keeps` — the document that is kept of a tree.

## Main results

* `membersJson?_eq_some_iff` — the members of an object, before they are sorted.
* `map_settle_json?_eq_some_iff` — **what is kept of a tree.**
-/

namespace DocSearch.Json

/-- At most so many arrays and objects stand inside each other. -/
inductive Tree.Within : Nat → Tree → Prop
  /-- The absent value. -/
  | null {depth : Nat} : Within depth .null
  /-- A truth value. -/
  | bool {depth : Nat} (b : Bool) : Within depth (.bool b)
  /-- A numeral. -/
  | numeral {depth : Nat} (cs : List Char) : Within depth (.numeral cs)
  /-- A string. -/
  | string {depth : Nat} (bytes : List UInt8) : Within depth (.string bytes)
  /-- A list is one more than its items. -/
  | array {depth : Nat} {ts : List Tree} (h : ∀ t ∈ ts, Within depth t) :
      Within (depth + 1) (.array ts)
  /-- An object is one more than what stands under its names. -/
  | object {depth : Nat} {ms : List (List UInt8 × Tree)} (h : ∀ m ∈ ms, Within depth m.2) :
      Within (depth + 1) (.object ms)

/-- The document that is kept of a tree. -/
inductive Tree.Keeps : Tree → Json → Prop
  /-- The absent value. -/
  | null : Keeps .null .null
  /-- A truth value. -/
  | bool (b : Bool) : Keeps (.bool b) (.bool b)
  /-- The number that a numeral stands for. -/
  | number {cs : List Char} {n : Json.Number} (h : NumeralText cs) (hn : StandsFor cs n) :
      Keeps (.numeral cs) (.number n)
  /-- The text that a string spells. -/
  | string {bytes : List UInt8} {s : String} (h : Spells bytes s) :
      Keeps (.string bytes) (.string s)
  /-- What is kept of the items of a list. -/
  | array {ts : List Tree} {js : List Json} (h : List.Forall₂ Keeps ts js) :
      Keeps (.array ts) (.array js)
  /-- Of what is kept under the names of an object, the last one under each name. -/
  | object {ms : List (List UInt8 × Tree)} {docs kept : List (String × Json)}
      (hnames : List.Forall₂ Spells (ms.map Prod.fst) (docs.map Prod.fst))
      (hdocs : List.Forall₂ Keeps (ms.map Prod.snd) (docs.map Prod.snd))
      (hkept : LastOfEach docs kept) : Keeps (.object ms) (.object kept)

theorem itemsJson?_eq_some_iff {depth : Nat} {ts : List Tree} {js : List Json} :
    itemsJson? depth ts = some js ↔ List.Forall₂ (fun t j => t.json? depth = some j) ts js := by
  induction ts generalizing js with
  | nil => cases js <;> simp [itemsJson?]
  | cons t ts ih =>
    rw [itemsJson?]
    cases js with
    | nil =>
      refine iff_of_false ?_ fun h => nomatch h
      cases t.json? depth <;> simp
    | cons j js =>
      rw [List.forall₂_cons, ← ih]
      cases t.json? depth with
      | none => simp
      | some j => simp only [Option.map_eq_some_iff, List.cons.injEq, Option.some.injEq]; grind

/-- The members of an object, before they are sorted: the texts of their names, and what is read
of them as of the items of a list. -/
theorem membersJson?_eq_some_iff {depth : Nat} {ms : List (List UInt8 × Tree)}
    {docs : List (String × Json)} : membersJson? depth ms = some docs ↔
      List.Forall₂ Spells (ms.map Prod.fst) (docs.map Prod.fst) ∧
        itemsJson? depth (ms.map Prod.snd) = some (docs.map Prod.snd) := by
  induction ms generalizing docs with
  | nil => cases docs <;> simp [membersJson?, itemsJson?]
  | cons m ms ih =>
    rw [membersJson?, List.map_cons, List.map_cons, itemsJson?]
    cases docs with
    | nil =>
      refine iff_of_false ?_ fun h => nomatch h.1
      cases text? m.1 <;> cases m.2.json? depth <;> simp
    | cons d docs =>
      rw [List.map_cons, List.map_cons, List.forall₂_cons, ← text?_eq_some_iff]
      cases text? m.1 with
      | none => simp
      | some name =>
        cases m.2.json? depth with
        | none => simp
        | some j =>
          simp only [Option.map_eq_some_iff, List.cons.injEq]
          constructor
          · rintro ⟨_, h, rfl, rfl⟩
            exact ⟨⟨rfl, (ih.1 h).1⟩, _, (ih.1 h).2, rfl, rfl⟩
          · rintro ⟨⟨hname, hnames⟩, _, h, rfl, rfl⟩
            exact ⟨docs, ih.2 ⟨hnames, h⟩, Prod.ext (Option.some.inj hname) rfl, rfl⟩

theorem settleItems_eq_map (js : List Json) : settleItems js = js.map settle := by
  induction js with
  | nil => rfl
  | cons j js ih => rw [settleItems, ih, List.map_cons]

theorem settleMembers_eq_map (ms : List (String × Json)) :
    settleMembers ms = ms.map fun m => (m.1, m.2.settle) := by
  induction ms with
  | nil => rfl
  | cons m ms ih => rw [settleMembers, ih, List.map_cons]

/-- What a tree is read as, settled, is what is kept of it, whatever depth is allowed. -/
def KeptAs (t : Tree) : Prop :=
  ∀ depth j, (t.json? depth).map settle = some j ↔ t.Within depth ∧ t.Keeps j

theorem map_settleItems_eq_some_iff {depth : Nat} {ts : List Tree} {js : List Json}
    (hts : ∀ t ∈ ts, KeptAs t) : (itemsJson? depth ts).map settleItems = some js ↔
      (∀ t ∈ ts, t.Within depth) ∧ List.Forall₂ Tree.Keeps ts js := by
  induction ts generalizing js with
  | nil => simp [itemsJson?, settleItems, eq_comm]
  | cons t ts ih =>
    rw [List.forall_mem_cons] at hts
    have hhead := hts.1 depth
    rw [itemsJson?, List.forall_mem_cons, List.forall₂_cons_left_iff]
    cases hj : t.json? depth with
    | none =>
      refine iff_of_false (by simp) ?_
      rintro ⟨⟨hwithin, -⟩, j, -, hkeeps, -⟩
      have hsome := (hhead j).2 ⟨hwithin, hkeeps⟩
      rw [hj] at hsome
      cases hsome
    | some j =>
      rw [hj] at hhead
      constructor
      · intro h
        obtain ⟨raw, hraw, rfl⟩ := Option.map_eq_some_iff.1 h
        obtain ⟨us, hus, rfl⟩ := Option.map_eq_some_iff.1 hraw
        obtain ⟨hwithin, hkeeps⟩ := (hhead j.settle).1 rfl
        obtain ⟨hall, hrest⟩ := (ih hts.2).1 (Option.map_eq_some_iff.2 ⟨us, hus, rfl⟩)
        exact ⟨⟨hwithin, hall⟩, _, _, hkeeps, hrest, rfl⟩
      · rintro ⟨⟨hwithin, hall⟩, j', js', hkeeps, hrest, rfl⟩
        obtain rfl := Option.some.inj ((hhead j').2 ⟨hwithin, hkeeps⟩)
        obtain ⟨us, hus, rfl⟩ := Option.map_eq_some_iff.1 ((ih hts.2).2 ⟨hall, hrest⟩)
        simp only [hus]
        rfl

theorem map_settleMembers_eq_some_iff {depth : Nat} {ms : List (List UInt8 × Tree)}
    {docs : List (String × Json)} (hms : ∀ m ∈ ms, KeptAs m.2) :
    (membersJson? depth ms).map settleMembers = some docs ↔ (∀ m ∈ ms, m.2.Within depth) ∧
      List.Forall₂ Spells (ms.map Prod.fst) (docs.map Prod.fst) ∧
      List.Forall₂ Tree.Keeps (ms.map Prod.snd) (docs.map Prod.snd) := by
  have hitems (js : List Json) : (itemsJson? depth (ms.map Prod.snd)).map settleItems = some js ↔
      (∀ m ∈ ms, m.2.Within depth) ∧ List.Forall₂ Tree.Keeps (ms.map Prod.snd) js := by
    rw [map_settleItems_eq_some_iff (List.forall_mem_map.2 hms), List.forall_mem_map]
  simp only [Option.map_eq_some_iff, membersJson?_eq_some_iff, settleMembers_eq_map,
    settleItems_eq_map] at hitems ⊢
  constructor
  · rintro ⟨raw, ⟨hnames, hraw⟩, rfl⟩
    obtain ⟨hwithin, hkeeps⟩ := (hitems _).1 ⟨_, hraw, rfl⟩
    simp only [List.map_map] at hkeeps ⊢
    exact ⟨hwithin, hnames, hkeeps⟩
  · rintro ⟨hwithin, hnames, hkeeps⟩
    obtain ⟨raws, hraws, hsettled⟩ := (hitems _).2 ⟨hwithin, hkeeps⟩
    -- The documents of the members, before they are settled, under the names they will have.
    have hlength : docs.length = raws.length := by
      have h := congrArg List.length hsettled
      rw [List.length_map, List.length_map] at h
      exact h.symm
    refine ⟨(docs.map Prod.fst).zip raws, ⟨?_, ?_⟩, ?_⟩
    · rw [List.map_fst_zip (by rw [List.length_map, hlength])]
      exact hnames
    · rw [List.map_snd_zip (by rw [List.length_map, hlength])]
      exact hraws
    · have hzip : ((docs.map Prod.fst).zip raws).map (Prod.map id settle) = docs := by
        rw [← List.zip_map_right, hsettled]
        have hunzip := List.zip_unzip docs
        rwa [List.unzip_eq_map] at hunzip
      exact hzip

theorem hereditary_keptAs : Hereditary KeptAs where
  null depth j := by
    rw [Tree.json?]
    constructor
    · rintro ⟨⟩
      exact ⟨.null, .null⟩
    · rintro ⟨-, ⟨⟩⟩
      rfl
  bool b depth j := by
    rw [Tree.json?]
    constructor
    · rintro ⟨⟩
      exact ⟨.bool b, .bool b⟩
    · rintro ⟨-, ⟨⟩⟩
      rfl
  numeral cs depth j := by
    rw [Tree.json?, Option.map_map, Option.map_eq_some_iff]
    constructor
    · rintro ⟨n, hn, rfl⟩
      obtain ⟨htext, hstands⟩ := numeral?_eq_some_iff.1 hn
      exact ⟨.numeral cs, .number htext hstands⟩
    · rintro ⟨-, hkeeps⟩
      cases hkeeps with
      | number htext hstands => exact ⟨_, numeral?_eq_some_iff.2 ⟨htext, hstands⟩, rfl⟩
  string bytes depth j := by
    rw [Tree.json?, Option.map_map, Option.map_eq_some_iff]
    constructor
    · rintro ⟨s, hs, rfl⟩
      exact ⟨.string bytes, .string (text?_eq_some_iff.1 hs)⟩
    · rintro ⟨-, hkeeps⟩
      cases hkeeps with
      | string hspells => exact ⟨_, text?_eq_some_iff.2 hspells, rfl⟩
  array {ts} hts depth j := by
    cases depth with
    | zero =>
      rw [Tree.json?, if_pos rfl]
      refine iff_of_false (by simp) ?_
      rintro ⟨⟨⟩, -⟩
    | succ depth =>
      have hsettle : settle ∘ Json.array = Json.array ∘ settleItems := rfl
      rw [Tree.json?, if_neg (Nat.succ_ne_zero depth), Nat.add_sub_cancel, Option.map_map, hsettle,
        ← Option.map_map, Option.map_eq_some_iff]
      simp only [map_settleItems_eq_some_iff hts]
      constructor
      · rintro ⟨js, ⟨hwithin, hkeeps⟩, rfl⟩
        exact ⟨.array hwithin, .array hkeeps⟩
      · rintro ⟨hwithin, hkeeps⟩
        cases hwithin with
        | array hwithin =>
          cases hkeeps with
          | array hkeeps => exact ⟨_, ⟨hwithin, hkeeps⟩, rfl⟩
  object {ms} hms depth j := by
    cases depth with
    | zero =>
      rw [Tree.json?, if_pos rfl]
      refine iff_of_false (by simp) ?_
      rintro ⟨⟨⟩, -⟩
    | succ depth =>
      have hsettle : settle ∘ Json.object = Json.ofMembers ∘ settleMembers := rfl
      rw [Tree.json?, if_neg (Nat.succ_ne_zero depth), Nat.add_sub_cancel, Option.map_map, hsettle,
        ← Option.map_map, Option.map_eq_some_iff]
      simp only [map_settleMembers_eq_some_iff hms]
      constructor
      · rintro ⟨docs, ⟨hwithin, hnames, hkeeps⟩, rfl⟩
        exact ⟨.object hwithin, .object hnames hkeeps (lastOfEach_sortMembers docs)⟩
      · rintro ⟨hwithin, hkeeps⟩
        cases hwithin with
        | object hwithin =>
          cases hkeeps with
          | object hnames hkeeps hkept =>
            exact ⟨_, ⟨hwithin, hnames, hkeeps⟩,
              congrArg Json.object (lastOfEach_iff.1 hkept).symm⟩

/-- **What is kept of a tree**, if at most so many arrays and objects may stand inside each
other. -/
theorem map_settle_json?_eq_some_iff {t : Tree} {depth : Nat} {j : Json} :
    (t.json? depth).map settle = some j ↔ t.Within depth ∧ t.Keeps j :=
  hereditary_keptAs.all t depth j

end DocSearch.Json
