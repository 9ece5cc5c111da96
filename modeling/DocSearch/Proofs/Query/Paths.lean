import DocSearch.Proofs.Json.Field

/-!
# The members that a query looks at

A field is looked for among the members of a document, under its whole name first.  Only where
there is no such member does the path count, that is the names between the dots, which lead
through one object after the other.  So a clause looks at no more than two members of a
document, and documents that differ in others only are the same to it.  A member whose own name
has dots in it is no exception: it is one of the two where it has the name of the field, and
then it hides what the path leads to.

## Main definitions

* `Clause.LooksAt` — the names of the members that a clause looks at.
* `Json.Edited` — a document with one member more, less or changed.

## Main results

* `isPath_intercalate` — names without dots are the path of the field that they make up.
* `Json.at?_eq_some_iff_leads` — without a member of the whole name the path decides.
* `Clause.holds_of_edited` — a clause does not notice members that it does not look at.
* `Query.field_is_member_else_path` — **what a field holds, and what a query does not notice.**
-/

namespace DocSearch

/-- Names without dots are the path of what they make up with dots between them. -/
theorem isPath_intercalate {names : List String} (hne : names ≠ [])
    (hdotless : ∀ n ∈ names, '.' ∉ n.toList) : IsPath (".".intercalate names) names :=
  ⟨hne, hdotless, (@String.toList_intercalate "." names).symm⟩

namespace Json

variable {doc doc' v : Json} {field name : String} {names path : List String}

/-! ### Paths -/

/-- A path leads nowhere but through objects. -/
theorem leads_cons_iff : doc.Leads (name :: path) v ↔
    ∃ ms w, doc = .object ms ∧ ms.lookup name = some w ∧ w.Leads path v := by
  constructor
  · intro h
    cases h with
    | member h hv =>
      cases doc with
      | object ms => exact ⟨ms, _, rfl, h, hv⟩
      | _ => cases h
  · rintro ⟨ms, w, rfl, h, hv⟩
    exact .member h hv

theorem leads_nil_iff : doc.Leads [] v ↔ v = doc := by
  constructor
  · intro h
    cases h
    rfl
  · rintro rfl
    exact .here v

/-- Without a member of the whole name the path decides. -/
theorem at?_eq_some_iff_leads (h : doc.get? field = none) (hp : IsPath field names) :
    doc.at? field = some v ↔ doc.Leads names v := by
  rw [at?, h, ← isPath_iff.1 hp, descend?_eq_some_iff]

/-- What a field holds depends on the members of its whole name and of the first name on its
path. -/
theorem at?_congr (hwhole : doc.get? field = doc'.get? field)
    (hfirst : ∀ name path, IsPath field (name :: path) → doc.get? name = doc'.get? name) :
    doc.at? field = doc'.at? field := by
  have hp : IsPath field (pathOf field) := isPath_iff.2 rfl
  obtain ⟨name, path, hnames⟩ := List.exists_cons_of_ne_nil hp.nonempty
  rw [hnames] at hp
  rw [at?, at?, hwhole, hnames, descend?, descend?, hfirst name path hp]

/-! ### Edited documents -/

/-- The right document is the left one with one member of the given name more or less, or with
another value under that name. -/
inductive Edited (name : String) : Json → Json → Prop
  /-- A member is added. -/
  | added {before after : List (String × Json)} (v : Json) :
      Edited name (.object (before ++ after)) (.object (before ++ (name, v) :: after))
  /-- A member is removed. -/
  | removed {before after : List (String × Json)} (v : Json) :
      Edited name (.object (before ++ (name, v) :: after)) (.object (before ++ after))
  /-- A member is changed. -/
  | changed {before after : List (String × Json)} (v w : Json) :
      Edited name (.object (before ++ (name, v) :: after)) (.object (before ++ (name, w) :: after))

/-- The members of other names stay. -/
theorem Edited.get?_eq (h : Edited name doc doc') {other : String} (hne : other ≠ name) :
    doc.get? other = doc'.get? other := by
  have hskip : ∀ (v : Json) ms, List.lookup other ((name, v) :: ms) = ms.lookup other :=
    fun v ms => by rw [List.lookup_cons, beq_false_of_ne hne]
  cases h <;> simp only [get?_object, List.lookup_append, hskip]

end Json

/-! ### Clauses -/

/-- The names of the members of a document that a clause looks at. -/
inductive Clause.LooksAt (c : Clause) : String → Prop
  /-- The whole name of its field. -/
  | whole : c.LooksAt c.field
  /-- The first name on the path of its field. -/
  | first {name : String} {path : List String} (h : IsPath c.field (name :: path)) :
      c.LooksAt name

namespace Clause

variable {c : Clause} {name : String} {doc doc' : Json}

theorem looksAt_iff :
    c.LooksAt name ↔ name = c.field ∨ (Json.pathOf c.field).head? = some name := by
  rw [List.head?_eq_some_iff]
  constructor
  · rintro (_ | ⟨h⟩)
    · exact .inl rfl
    · exact .inr ⟨_, (isPath_iff.1 h).symm⟩
  · rintro (rfl | ⟨path, h⟩)
    · exact .whole
    · exact .first (isPath_iff.2 h.symm)

instance (c : Clause) (name : String) : Decidable (c.LooksAt name) :=
  decidable_of_iff _ looksAt_iff.symm

/-- A clause does not notice an edited member that it does not look at. -/
theorem holds_of_edited (h : doc.Edited name doc') (hc : ¬ c.LooksAt name) :
    c.holds doc = c.holds doc' := by
  have hwhole : doc.get? c.field = doc'.get? c.field :=
    h.get?_eq fun hname => hc (hname ▸ .whole)
  have hfirst : ∀ n path, IsPath c.field (n :: path) → doc.get? n = doc'.get? n :=
    fun n path hp => h.get?_eq fun hname => hc (hname ▸ .first hp)
  rw [holds, holds, Json.at?_congr hwhole hfirst]

end Clause

/-! ### Queries -/

namespace Groups

variable {g : Groups} {name : String} {doc doc' : Json}

/-- All clauses hold that have to, and none that must not. -/
theorem admits_iff : g.admits doc = true ↔
    (∀ c ∈ g.must, c.holds doc = true) ∧ ∀ c ∈ g.mustNot, c.holds doc = false := by
  simp only [admits, Bool.and_eq_true, List.all_eq_true, Bool.not_eq_true', List.any_eq_false,
    Bool.not_eq_true]

/-- Groups do not notice an edited member that none of their clauses looks at. -/
theorem admits_of_edited (h : doc.Edited name doc')
    (hg : ∀ c ∈ g.must ++ g.mustNot, ¬ c.LooksAt name) : g.admits doc = g.admits doc' := by
  have hmust : ∀ c ∈ g.must, c.holds doc = c.holds doc' :=
    fun c hc => Clause.holds_of_edited h (hg c (List.mem_append_left _ hc))
  have hmustNot : ∀ c ∈ g.mustNot, c.holds doc = c.holds doc' :=
    fun c hc => Clause.holds_of_edited h (hg c (List.mem_append_right _ hc))
  rw [Bool.eq_iff_iff, admits_iff, admits_iff]
  exact and_congr (forall₂_congr fun c hc => by rw [hmust c hc])
    (forall₂_congr fun c hc => by rw [hmustNot c hc])

end Groups

namespace Query

/-- **What a field holds, and what a query does not notice.**  A member that has the whole name
of the field, dots and all, is its value.  Where there is none, the field holds what the names
between the dots lead to, through one object after the other and through nothing else, and
otherwise it holds nothing.  So a query of clauses is answered alike before and after a member is
added, removed or changed, unless the member has the name of a clause's field or the first name
on the path of one. -/
theorem field_is_member_else_path :
    (∀ (ms : List (String × Json)) (names : List String) (field : String), names ≠ [] →
      (∀ n ∈ names, '.' ∉ n.toList) → ".".intercalate names = field →
        (∀ v, ms.lookup field = some v → (Json.object ms).at? field = some v) ∧
        (ms.lookup field = none →
          (∀ v, (Json.object ms).at? field = some v ↔ (Json.object ms).Leads names v) ∧
          ((Json.object ms).at? field = none ↔ ∀ v, ¬ (Json.object ms).Leads names v))) ∧
    (∀ doc v : Json, doc.Leads [] v ↔ v = doc) ∧
    (∀ (doc v : Json) (name : String) (path : List String), doc.Leads (name :: path) v ↔
      ∃ ms w, doc = .object ms ∧ ms.lookup name = some w ∧ w.Leads path v) ∧
    ∀ (g : Groups) (name : String) (doc doc' : Json), doc.Edited name doc' →
      (∀ c ∈ g.must ++ g.mustNot, ¬ c.LooksAt name) →
        (bool g).matches doc = (bool g).matches doc' := by
  refine ⟨?_, fun doc v => Json.leads_nil_iff, fun doc v name path => Json.leads_cons_iff,
    fun g name doc doc' h hg => Groups.admits_of_edited h hg⟩
  rintro ms names _ hne hdotless rfl
  have hp := isPath_intercalate hne hdotless
  refine ⟨fun v hv => Json.at?_eq_some_iff.2 (.member hv), fun hnone => ?_⟩
  have hpath : ∀ v, (Json.object ms).at? (".".intercalate names) = some v ↔
      (Json.object ms).Leads names v := fun v => Json.at?_eq_some_iff_leads hnone hp
  refine ⟨hpath, ?_⟩
  simp only [Option.eq_none_iff_forall_ne_some, ne_eq, hpath]

/-- A path with an empty name on it, with and without a member of the whole name; and a new
member whose name the field begins with, but not its path. -/
theorem field_is_member_else_path_empty_name :
    let member : String × Json := ("a", .object [("", .object [("b", .string "x")])])
    let g : Groups := ⟨[.equals "a..b" (.text "x")], [.equals "b" (.text "x")]⟩
    (Json.object [member]).at? "a..b" = some (.string "x") ∧
      (Json.object [member, ("a..b", .null)]).at? "a..b" = some .null ∧
        (Json.object [("c", .array [.object [("b", .null)]])]).at? "c.b" = none ∧
          (bool g).matches (.object [("a.", .string "y"), member]) = true := by
  intro member g
  obtain ⟨hfield, hnil, hcons, hframe⟩ := field_is_member_else_path
  obtain ⟨-, hpath⟩ := hfield [member] ["a", "", "b"] "a..b" (by decide) (by decide) (by decide)
  obtain ⟨hwhole, -⟩ := hfield [member, ("a..b", .null)] ["a", "", "b"] "a..b" (by decide)
    (by decide) (by decide)
  obtain ⟨-, hlist⟩ := hfield [("c", .array [.object [("b", .null)]])] ["c", "b"] "c.b" (by decide)
    (by decide) (by decide)
  refine ⟨((hpath rfl).1 _).2 ?_, hwhole _ rfl, (hlist rfl).2.2 ?_, ?_⟩
  · exact (hcons ..).2 ⟨_, _, rfl, rfl, (hcons ..).2 ⟨_, _, rfl, rfl, (hcons ..).2
      ⟨_, _, rfl, rfl, (hnil ..).2 rfl⟩⟩⟩
  · intro v hv
    obtain ⟨ms, w, hms, hw, hv⟩ := (hcons ..).1 hv
    cases hms
    cases hw
    obtain ⟨_, _, hlist, -⟩ := (hcons ..).1 hv
    cases hlist
  · have hedited : (Json.object [member]).Edited "a." (.object [("a.", .string "y"), member]) :=
      @Json.Edited.added "a." [] [member] _
    rw [← hframe g "a." _ _ hedited (by decide)]
    decide +kernel

end Query

end DocSearch
