import DocSearch.Query.Match
import Mathlib.Data.List.Basic

/-!
# The values of a field

What a field of a document holds, told as relations rather than computed.  A field
is a member of that name or, only where there is none, what a path of member names
leads to; the names of the path are what the dots of the field's name separate.
Its scalars are those that lists, and nothing else, lead to.

## Main definitions

* `Json.Leads` — a path of names, followed through one object after the other.
* `IsPath` — the names that dots separate in the name of a field.
* `Json.Field` — the value of a field.
* `Json.Reaches` — the scalars that lists lead to.

## Main results

* `Json.at?_eq_some_iff` — **`Json.at?` computes the value of a field.**
* `Json.anyScalar_iff` — **`Json.anyScalar` looks through the scalars that lists
  lead to, and no others.**
-/

namespace DocSearch

/-! ### Pieces between separators -/

namespace Text

/-- Up to the first separator there is one piece. -/
theorem splitAt_append_cons {sep : Char} {w : List Char} (hw : sep ∉ w) (cs : List Char) :
    splitAt sep (w ++ sep :: cs) = w :: splitAt sep cs := by
  induction w with
  | nil => rw [List.nil_append, splitAt, if_pos rfl]
  | cons c w ih =>
    rw [List.mem_cons, not_or] at hw
    rw [List.cons_append, splitAt, if_neg (Ne.symm hw.1), ih hw.2]

/-- A text without separators is its only piece. -/
theorem splitAt_of_notMem {sep : Char} {w : List Char} (hw : sep ∉ w) :
    splitAt sep w = [w] := by
  induction w with
  | nil => rfl
  | cons c w ih =>
    rw [List.mem_cons, not_or] at hw
    rw [splitAt, if_neg (Ne.symm hw.1), ih hw.2]

/-- No piece has a separator in it. -/
theorem notMem_of_mem_splitAt {sep : Char} :
    ∀ (cs : List Char), ∀ w ∈ splitAt sep cs, sep ∉ w := by
  intro cs
  induction cs with
  | nil => simp
  | cons c cs ih =>
    intro w hw
    rw [splitAt] at hw
    split at hw
    · rcases List.mem_cons.mp hw with rfl | hw
      · exact List.not_mem_nil
      · exact ih w hw
    · next hc =>
      split at hw
      · next hnil => exact absurd hnil (splitAt_ne_nil sep cs)
      · next v ws hcons =>
        rcases List.mem_cons.mp hw with rfl | hw
        · have hv := ih v (by rw [hcons]; exact List.mem_cons_self)
          rw [List.mem_cons, not_or]
          exact ⟨Ne.symm hc, hv⟩
        · exact ih w (by rw [hcons]; exact List.mem_cons_of_mem _ hw)

/-- The pieces, with the separators put back between them. -/
theorem intercalate_splitAt (sep : Char) (cs : List Char) :
    [sep].intercalate (splitAt sep cs) = cs := by
  induction cs with
  | nil => rfl
  | cons c cs ih =>
    rw [splitAt]
    obtain ⟨v, ws, hcons⟩ := List.exists_cons_of_ne_nil (splitAt_ne_nil sep cs)
    rw [hcons] at ih ⊢
    split
    · next hc => rw [List.intercalate_cons_cons, ih, hc]; rfl
    · -- `c` belongs to the first piece, which may be the only one.
      cases ws with
      | nil => rw [List.intercalate_singleton] at ih ⊢; rw [ih]
      | cons u us =>
        rw [List.intercalate_cons_cons] at ih ⊢
        rw [List.cons_append, List.cons_append, ih]

/-- Texts without separators are the pieces of what they make up. -/
theorem splitAt_intercalate {sep : Char} : ∀ {ws : List (List Char)}, ws ≠ [] →
    (∀ w ∈ ws, sep ∉ w) → splitAt sep ([sep].intercalate ws) = ws := by
  intro ws
  induction ws with
  | nil => intro h; exact absurd rfl h
  | cons w ws ih =>
    intro _ hws
    have hw : sep ∉ w := hws w List.mem_cons_self
    cases ws with
    | nil => rw [List.intercalate_singleton, splitAt_of_notMem hw]
    | cons u us =>
      have htail := ih (List.cons_ne_nil u us) fun v hv => hws v (List.mem_cons_of_mem _ hv)
      rw [List.intercalate_cons_cons, List.append_assoc, List.singleton_append,
        splitAt_append_cons hw, htail]

end Text

/-! ### Paths -/

/-- The names are what the dots of `field` separate. -/
structure IsPath (field : String) (names : List String) : Prop where
  /-- There is a name. -/
  nonempty : names ≠ []
  /-- No name has a dot in it. -/
  dotless : ∀ n ∈ names, '.' ∉ n.toList
  /-- With dots between them the names make up `field`. -/
  joined : ['.'].intercalate (names.map String.toList) = field.toList

/-- **The only names that the dots of a field's name separate.** -/
theorem isPath_iff {field : String} {names : List String} :
    IsPath field names ↔ names = Json.pathOf field := by
  constructor
  · intro h
    have hsplit : Text.splitAt '.' field.toList = names.map String.toList := by
      rw [← h.joined]
      refine Text.splitAt_intercalate (by simpa using h.nonempty) ?_
      intro w hw
      obtain ⟨n, hn, rfl⟩ := List.mem_map.mp hw
      exact h.dotless n hn
    rw [Json.pathOf, hsplit, List.map_map]
    simp [Function.comp_def]
  · rintro rfl
    refine ⟨?_, ?_, ?_⟩
    · simpa [Json.pathOf] using Text.splitAt_ne_nil '.' field.toList
    · intro n hn
      obtain ⟨w, hw, rfl⟩ := List.mem_map.mp hn
      rw [String.toList_ofList]
      exact Text.notMem_of_mem_splitAt _ w hw
    · have hid : (Json.pathOf field).map String.toList = Text.splitAt '.' field.toList := by
        simp [Json.pathOf, Function.comp_def]
      rw [hid, Text.intercalate_splitAt]

namespace Json

/-- A path of names leads from one document to another. -/
inductive Leads : Json → List String → Json → Prop
  /-- Without names there is nowhere to go. -/
  | here (j : Json) : Leads j [] j
  /-- A name leads to the member of that name. -/
  | member {j v w : Json} {name : String} {path : List String} (h : j.get? name = some v)
      (hw : Leads v path w) : Leads j (name :: path) w

theorem descend?_eq_some_iff {path : List String} {j w : Json} :
    descend? path j = some w ↔ j.Leads path w := by
  induction path generalizing j with
  | nil =>
    rw [descend?, Option.some.injEq]
    constructor
    · rintro rfl; exact Leads.here j
    · intro h; cases h; rfl
  | cons name path ih =>
    rw [descend?, Option.bind_eq_some_iff]
    constructor
    · rintro ⟨v, hv, hw⟩
      exact Leads.member hv (ih.mp hw)
    · intro h
      cases h with
      | member hv hw => exact ⟨_, hv, ih.mpr hw⟩

/-- The value of a field of a document. -/
inductive Field (doc : Json) (field : String) (v : Json) : Prop
  /-- The member of that name. -/
  | member (h : doc.get? field = some v)
  /-- What the names between the dots lead to, where there is no such member. -/
  | path {names : List String} (h : doc.get? field = none) (hp : IsPath field names)
      (hv : doc.Leads names v)

/-- **`Json.at?` computes the value of a field.** -/
theorem at?_eq_some_iff {doc v : Json} {field : String} :
    doc.at? field = some v ↔ doc.Field field v := by
  unfold at?
  cases hget : doc.get? field with
  | some u =>
    rw [Option.some.injEq]
    constructor
    · rintro rfl; exact Field.member hget
    · rintro (h | ⟨h, -, -⟩)
      · rw [hget, Option.some.injEq] at h; exact h
      · rw [hget] at h; cases h
  | none =>
    rw [descend?_eq_some_iff]
    constructor
    · intro h; exact Field.path hget (isPath_iff.mpr rfl) h
    · -- The member is absent, so the path is the one that `pathOf` computes.
      rintro (h | ⟨-, hp, hv⟩)
      · rw [hget] at h; cases h
      · rw [← isPath_iff.mp hp]; exact hv

/-! ### Scalars -/

/-- Lists, and nothing else, lead from a document to a scalar. -/
inductive Reaches : Json → Scalar → Prop
  /-- A scalar is reached at once. -/
  | scalar {j : Json} {v : Scalar} (h : Scalar.ofJson? j = some v) : Reaches j v
  /-- A list leads to what its items lead to. -/
  | item {items : List Json} {j : Json} {v : Scalar} (hj : j ∈ items) (h : Reaches j v) :
      Reaches (.array items) v

theorem reaches_array_iff {items : List Json} {v : Scalar} :
    (Json.array items).Reaches v ↔ ∃ j ∈ items, j.Reaches v := by
  constructor
  · rintro (h | ⟨hj, h⟩)
    · cases h
    · exact ⟨_, hj, h⟩
  · rintro ⟨j, hj, h⟩; exact Reaches.item hj h

/-- What is no list reaches itself at most. -/
theorem reaches_iff_of_ne_array {j : Json} (hj : ∀ items, j ≠ .array items) {v : Scalar} :
    j.Reaches v ↔ Scalar.ofJson? j = some v := by
  constructor
  · rintro (h | ⟨-, -⟩)
    · exact h
    · exact absurd rfl (hj _)
  · exact Reaches.scalar

variable {test : Json → Bool} {P : Scalar → Prop}

mutual

/-- **`Json.anyScalar` looks through the scalars that lists lead to, and no others.** -/
theorem anyScalar_iff (h : ∀ j v, Scalar.ofJson? j = some v → (test j = true ↔ P v)) :
    ∀ j : Json, j.anyScalar test = true ↔ ∃ v, j.Reaches v ∧ P v
  | .array items => by
    rw [anyScalar, anyScalarOf_iff h items]
    simp only [reaches_array_iff]
    constructor
    · rintro ⟨j, hj, v, hv, hP⟩; exact ⟨v, ⟨j, hj, hv⟩, hP⟩
    · rintro ⟨v, ⟨j, hj, hv⟩, hP⟩; exact ⟨j, hj, v, hv, hP⟩
  | .object ms => by
    simp [anyScalar, reaches_iff_of_ne_array, Scalar.ofJson?]
  | .null => by simp [anyScalar, reaches_iff_of_ne_array, Scalar.ofJson?]
  | .bool b => by
    simp [anyScalar, reaches_iff_of_ne_array, Scalar.ofJson?, h (.bool b) (.bool b) rfl]
  | .number n => by
    simp [anyScalar, reaches_iff_of_ne_array, Scalar.ofJson?, h (.number n) (.number n) rfl]
  | .string s => by
    simp [anyScalar, reaches_iff_of_ne_array, Scalar.ofJson?, h (.string s) (.text s) rfl]

/-- `anyScalar_iff` on the items of a list. -/
theorem anyScalarOf_iff (h : ∀ j v, Scalar.ofJson? j = some v → (test j = true ↔ P v)) :
    ∀ items : List Json, anyScalarOf test items = true ↔ ∃ j ∈ items, ∃ v, j.Reaches v ∧ P v
  | [] => by simp [anyScalarOf]
  | j :: js => by
    rw [anyScalarOf, Bool.or_eq_true, anyScalar_iff h j, anyScalarOf_iff h js,
      List.exists_mem_cons_iff]

end

end Json

end DocSearch
