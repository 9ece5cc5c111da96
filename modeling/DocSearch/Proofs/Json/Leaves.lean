import DocSearch.Proofs.Json.Field
import Mathlib.Logic.Relation

/-!
# The scalars in a document

The scalars that a document contains at any depth, told as a relation, and the texts that
words are looked for in.  What a field holds contains no scalar that the document does not
contain, and a document that grows loses none.

## Main definitions

* `Json.Contains` — the scalars that items and members lead to.
* `Scalar.searchText` — the text of a scalar in which words are looked for.
* `Json.Grown` — a document with one more item or member somewhere in it.

## Main results

* `Json.mem_leaves_iff` — **`Json.leaves` are the texts of the scalars of a document.**
* `Json.Contains.of_field` — **a field holds nothing that the document does not contain.**
* `Json.Contains.of_grown`, `Json.Contains.of_reflTransGen` — **a document that grows keeps
  its scalars**, in one step and in any number of them.
-/

namespace DocSearch

/-- The text of a scalar in which words are looked for. -/
def Scalar.searchText : Scalar → List Char
  | .text s => Text.lower s.toList
  | v => v.display.toList

namespace Json

/-- Items and members lead from a document to a scalar. -/
inductive Contains : Json → Scalar → Prop
  /-- A scalar contains itself. -/
  | scalar {j : Json} {v : Scalar} (h : Scalar.ofJson? j = some v) : Contains j v
  /-- A list contains what its items contain. -/
  | item {items : List Json} {j : Json} {v : Scalar} (hj : j ∈ items) (h : Contains j v) :
      Contains (.array items) v
  /-- An object contains what its members contain. -/
  | member {ms : List (String × Json)} {m : String × Json} {v : Scalar} (hm : m ∈ ms)
      (h : Contains m.2 v) : Contains (.object ms) v

theorem contains_array_iff {items : List Json} {v : Scalar} :
    (Json.array items).Contains v ↔ ∃ j ∈ items, j.Contains v := by
  constructor
  · rintro (h | ⟨hj, h⟩)
    · cases h
    · exact ⟨_, hj, h⟩
  · rintro ⟨j, hj, h⟩
    exact .item hj h

theorem contains_object_iff {ms : List (String × Json)} {v : Scalar} :
    (Json.object ms).Contains v ↔ ∃ m ∈ ms, m.2.Contains v := by
  constructor
  · rintro (h | - | ⟨hm, h⟩)
    · cases h
    · exact ⟨_, hm, h⟩
  · rintro ⟨m, hm, h⟩
    exact .member hm h

/-- What is neither a list nor an object contains itself at most. -/
theorem contains_iff_ofJson? {j : Json} (hlist : ∀ items, j ≠ .array items)
    (hobject : ∀ ms, j ≠ .object ms) {v : Scalar} :
    j.Contains v ↔ Scalar.ofJson? j = some v := by
  constructor
  · rintro (h | - | -)
    · exact h
    · exact absurd rfl (hlist _)
    · exact absurd rfl (hobject _)
  · exact .scalar

/-! ### Leaves -/

variable {t : List Char}

mutual

/-- **`Json.leaves` are the texts of the scalars of a document.** -/
theorem mem_leaves_iff : ∀ j : Json, t ∈ j.leaves ↔ ∃ v, j.Contains v ∧ v.searchText = t
  | .array items => by
    rw [leaves, mem_leavesOf_iff items]
    simp only [contains_array_iff]
    constructor
    · rintro ⟨j, hj, v, hv, ht⟩
      exact ⟨v, ⟨j, hj, hv⟩, ht⟩
    · rintro ⟨v, ⟨j, hj, hv⟩, ht⟩
      exact ⟨j, hj, v, hv, ht⟩
  | .object ms => by
    rw [leaves, mem_leavesOfMembers_iff ms]
    simp only [contains_object_iff]
    constructor
    · rintro ⟨m, hm, v, hv, ht⟩
      exact ⟨v, ⟨m, hm, hv⟩, ht⟩
    · rintro ⟨v, ⟨m, hm, hv⟩, ht⟩
      exact ⟨m, hm, v, hv, ht⟩
  | .null => by simp [leaves, contains_iff_ofJson?, Scalar.ofJson?]
  | .bool b => by
    simp [leaves, contains_iff_ofJson?, Scalar.ofJson?, Scalar.searchText, Scalar.display, eq_comm]
  | .number n => by
    simp [leaves, contains_iff_ofJson?, Scalar.ofJson?, Scalar.searchText, Scalar.display, eq_comm]
  | .string s => by
    simp [leaves, contains_iff_ofJson?, Scalar.ofJson?, Scalar.searchText, eq_comm]

/-- `mem_leaves_iff` on the items of a list. -/
theorem mem_leavesOf_iff : ∀ items : List Json,
    t ∈ leavesOf items ↔ ∃ j ∈ items, ∃ v, j.Contains v ∧ v.searchText = t
  | [] => by simp [leavesOf]
  | j :: js => by
    rw [leavesOf, List.mem_append, mem_leaves_iff j, mem_leavesOf_iff js, List.exists_mem_cons_iff]

/-- `mem_leaves_iff` on the members of an object. -/
theorem mem_leavesOfMembers_iff : ∀ ms : List (String × Json),
    t ∈ leavesOfMembers ms ↔ ∃ m ∈ ms, ∃ v, m.2.Contains v ∧ v.searchText = t
  | [] => by simp [leavesOfMembers]
  | m :: ms => by
    rw [leavesOfMembers, List.mem_append, mem_leaves_iff m.2, mem_leavesOfMembers_iff ms,
      List.exists_mem_cons_iff]

end

/-! ### Fields -/

namespace Contains

variable {doc j : Json} {v : Scalar}

theorem of_get? {name : String} (h : doc.get? name = some j) (hv : j.Contains v) :
    doc.Contains v := by
  cases doc with
  | object ms =>
    obtain ⟨before, after, rfl, -⟩ := List.lookup_eq_some_iff.1 h
    exact .member (m := (name, j)) (List.mem_append_right _ List.mem_cons_self) hv
  | _ => cases h

/-- What names lead to contains nothing else than the document. -/
theorem of_leads {path : List String} (h : doc.Leads path j) (hv : j.Contains v) :
    doc.Contains v := by
  induction h with
  | here _ => exact hv
  | member hget _ ih => exact of_get? hget (ih hv)

/-- **A field holds nothing that the document does not contain**, be it a member or behind
dots. -/
theorem of_field {field : String} (h : doc.Field field j) (hv : j.Contains v) :
    doc.Contains v := by
  rcases h with hget | ⟨-, -, hleads⟩
  · exact of_get? hget hv
  · exact of_leads hleads hv

end Contains

/-! ### Growing documents -/

/-- The right document has one item more at the end of a list, or one member more under a new
name, than the left one, somewhere in it. -/
inductive Grown : Json → Json → Prop
  /-- A list has one more item at its end. -/
  | item (items : List Json) (j : Json) : Grown (.array items) (.array (items ++ [j]))
  /-- An object has one more member, under a new name. -/
  | member {before after : List (String × Json)} {name : String} (j : Json)
      (hnew : (before ++ after).lookup name = none) :
      Grown (.object (before ++ after)) (.object (before ++ (name, j) :: after))
  /-- An item has grown. -/
  | inItem {before after : List Json} {j j' : Json} (h : Grown j j') :
      Grown (.array (before ++ j :: after)) (.array (before ++ j' :: after))
  /-- A member has grown. -/
  | inMember {before after : List (String × Json)} {name : String} {j j' : Json}
      (h : Grown j j') :
      Grown (.object (before ++ (name, j) :: after)) (.object (before ++ (name, j') :: after))

namespace Contains

variable {doc doc' : Json} {v : Scalar}

/-- **A document that grows keeps its scalars.** -/
theorem of_grown (h : doc.Grown doc') (hv : doc.Contains v) : doc'.Contains v := by
  induction h with
  | item items j =>
    obtain ⟨i, hi, hv⟩ := contains_array_iff.1 hv
    exact .item (List.mem_append_left _ hi) hv
  | @member before after name j hnew =>
    obtain ⟨m, hm, hv⟩ := contains_object_iff.1 hv
    rcases List.mem_append.1 hm with hm | hm
    · exact .member (List.mem_append_left _ hm) hv
    · exact .member (List.mem_append_right _ (List.mem_cons_of_mem _ hm)) hv
  | @inItem before after j j' h ih =>
    obtain ⟨i, hi, hitem⟩ := contains_array_iff.1 hv
    rw [List.mem_append, List.mem_cons] at hi
    rcases hi with hi | rfl | hi
    · exact .item (List.mem_append_left _ hi) hitem
    · exact .item (List.mem_append_right _ List.mem_cons_self) (ih hitem)
    · exact .item (List.mem_append_right _ (List.mem_cons_of_mem _ hi)) hitem
  | @inMember before after name j j' h ih =>
    obtain ⟨m, hm, hmember⟩ := contains_object_iff.1 hv
    rw [List.mem_append, List.mem_cons] at hm
    rcases hm with hm | rfl | hm
    · exact .member (List.mem_append_left _ hm) hmember
    · exact .member (m := (name, j')) (List.mem_append_right _ List.mem_cons_self) (ih hmember)
    · exact .member (List.mem_append_right _ (List.mem_cons_of_mem _ hm)) hmember

/-- A document that grows again and again keeps its scalars. -/
theorem of_reflTransGen (h : Relation.ReflTransGen Grown doc doc') (hv : doc.Contains v) :
    doc'.Contains v := by
  induction h with
  | refl => exact hv
  | tail _ hstep ih => exact of_grown hstep ih

end Contains

end Json

end DocSearch
