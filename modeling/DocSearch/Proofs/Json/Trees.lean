import DocSearch.Proofs.Json.Tokens

/-!
# The tree of a text

A tree has one list of tokens, and tokens are read as a tree where they begin with those of the
tree.  So a text has one tree at most, which is the one whose tokens it spells.

## Main definitions

* `Hereditary` — properties that trees have by their parts.
* `Tree.tokens` — the tokens of a tree.

## Main results

* `value?_eq_some_iff` — **tokens are read as a tree exactly if they are its tokens.**
* `tree?_eq_some_iff` — **a text is read as a tree exactly if it spells its tokens.**
-/

namespace DocSearch.Json

/-! ### Trees -/

/-- A property of trees that lists and objects have when their parts have it, and that all other
trees have. -/
structure Hereditary (P : Tree → Prop) : Prop where
  /-- The absent value has it. -/
  null : P .null
  /-- Truth values have it. -/
  bool (b : Bool) : P (.bool b)
  /-- Numerals have it. -/
  numeral (cs : List Char) : P (.numeral cs)
  /-- Strings have it. -/
  string (bytes : List UInt8) : P (.string bytes)
  /-- A list of trees that have it has it. -/
  array {ts : List Tree} (hts : ∀ t ∈ ts, P t) : P (.array ts)
  /-- An object of trees that have it has it. -/
  object {ms : List (List UInt8 × Tree)} (hms : ∀ m ∈ ms, P m.2) : P (.object ms)

namespace Hereditary

variable {P : Tree → Prop}

mutual

theorem all (h : Hereditary P) : ∀ t, P t
  | .null => h.null
  | .bool b => h.bool b
  | .numeral cs => h.numeral cs
  | .string bytes => h.string bytes
  | .array ts => h.array (h.all_items ts)
  | .object ms => h.object (h.all_members ms)

theorem all_items (h : Hereditary P) : ∀ ts : List Tree, ∀ t ∈ ts, P t
  | [] => fun _ ht => nomatch ht
  | t :: ts => List.forall_mem_cons.2 ⟨h.all t, h.all_items ts⟩

theorem all_members (h : Hereditary P) : ∀ ms : List (List UInt8 × Tree), ∀ m ∈ ms, P m.2
  | [] => fun _ hm => nomatch hm
  | m :: ms => List.forall_mem_cons.2 ⟨h.all m.2, h.all_members ms⟩

end

end Hereditary

mutual

/-- The tokens of a tree. -/
def Tree.tokens : Tree → List Token
  | .null => [.null]
  | .bool b => [.bool b]
  | .numeral cs => [.numeral cs]
  | .string bytes => [.string bytes]
  | .array [] => [.openArray, .closeArray]
  | .array (t :: ts) => .openArray :: (t.tokens ++ moreItems ts)
  | .object [] => [.openObject, .closeObject]
  | .object (m :: ms) => .openObject :: .string m.1 :: .colon :: (m.2.tokens ++ moreMembers ms)

/-- The tokens of the items behind the first one, and the closing bracket. -/
def moreItems : List Tree → List Token
  | [] => [.closeArray]
  | t :: ts => .comma :: (t.tokens ++ moreItems ts)

/-- The tokens of the members behind the first one, and the closing brace. -/
def moreMembers : List (List UInt8 × Tree) → List Token
  | [] => [.closeObject]
  | m :: ms => .comma :: .string m.1 :: .colon :: (m.2.tokens ++ moreMembers ms)

end

/-- A reading of tokens, without what is known about the length of its rest. -/
def reading {α : Type} {ts : List Token} (r : α × Rest ts) : α × List Token := (r.1, r.2.1)

theorem map_reading_eq_iff {α : Type} {ts rest : List Token} {x : Option (α × Rest ts)} {a : α} :
    x.map reading = some (a, rest) ↔ ∃ h, x = some (a, ⟨rest, h⟩) := by
  constructor
  · intro h
    obtain ⟨⟨b, us, hus⟩, hx, heq⟩ := Option.map_eq_some_iff.1 h
    cases heq
    exact ⟨hus, hx⟩
  · rintro ⟨h, rfl⟩
    rfl

/-- The tree is read back from its tokens, whatever follows them. -/
def Reads (t : Tree) : Prop :=
  ∀ rest, (value? (t.tokens ++ rest)).map reading = some (t, rest)

theorem items?_of_reads {ts : List Tree} (hts : ∀ t ∈ ts, Reads t) : ∀ {t : Tree}, Reads t →
    ∀ rest, (items? (t.tokens ++ (moreItems ts ++ rest))).map reading = some (t :: ts, rest) := by
  induction ts with
  | nil =>
    intro t ht rest
    obtain ⟨_, h⟩ := map_reading_eq_iff.1 (ht (moreItems [] ++ rest))
    rw [items?, h]
    rfl
  | cons u us ih =>
    intro t ht rest
    rw [List.forall_mem_cons] at hts
    obtain ⟨_, h⟩ := map_reading_eq_iff.1 (ht (moreItems (u :: us) ++ rest))
    obtain ⟨_, h'⟩ := map_reading_eq_iff.1 (ih hts.2 hts.1 rest)
    rw [items?, h]
    simp only [moreItems, List.cons_append, List.append_assoc, h']
    rfl

theorem members?_of_reads {ms : List (List UInt8 × Tree)} (hms : ∀ m ∈ ms, Reads m.2) :
    ∀ {m : List UInt8 × Tree}, Reads m.2 → ∀ rest,
      (members? (.string m.1 :: .colon :: (m.2.tokens ++ (moreMembers ms ++ rest)))).map reading =
        some (m :: ms, rest) := by
  induction ms with
  | nil =>
    intro m hm rest
    obtain ⟨_, h⟩ := map_reading_eq_iff.1 (hm (moreMembers [] ++ rest))
    rw [members?, h]
    rfl
  | cons u us ih =>
    intro m hm rest
    rw [List.forall_mem_cons] at hms
    obtain ⟨_, h⟩ := map_reading_eq_iff.1 (hm (moreMembers (u :: us) ++ rest))
    obtain ⟨_, h'⟩ := map_reading_eq_iff.1 (ih hms.2 hms.1 rest)
    rw [members?, h]
    simp only [moreMembers, List.cons_append, List.append_assoc, h']
    rfl

/-- A tree does not begin with a closing bracket. -/
theorem Tree.tokens_ne_close (t : Tree) (rest us : List Token) :
    t.tokens ++ rest ≠ .closeArray :: us := by
  cases t with
  | array ts => cases ts <;> simp [tokens]
  | object ms => cases ms <;> simp [tokens]
  | _ => simp [tokens]

theorem hereditary_reads : Hereditary Reads where
  null rest := by
    rw [Tree.tokens, List.singleton_append, value?]
    rfl
  bool b rest := by
    rw [Tree.tokens, List.singleton_append, value?]
    rfl
  numeral cs rest := by
    rw [Tree.tokens, List.singleton_append, value?]
    rfl
  string bytes rest := by
    rw [Tree.tokens, List.singleton_append, value?]
    rfl
  array {ts} hts rest := by
    cases ts with
    | nil =>
      rw [Tree.tokens, List.cons_append, List.singleton_append, value?]
      rfl
    | cons t ts =>
      rw [List.forall_mem_cons] at hts
      obtain ⟨_, h⟩ := map_reading_eq_iff.1 (items?_of_reads hts.2 hts.1 rest)
      rw [Tree.tokens, List.cons_append, List.append_assoc, value?, h]
      · rfl
      · exact t.tokens_ne_close _
  object {ms} hms rest := by
    cases ms with
    | nil =>
      rw [Tree.tokens, List.cons_append, List.singleton_append, value?]
      rfl
    | cons m ms =>
      rw [List.forall_mem_cons] at hms
      obtain ⟨_, h⟩ := map_reading_eq_iff.1 (members?_of_reads hms.2 hms.1 rest)
      rw [Tree.tokens, List.cons_append, List.cons_append, List.cons_append, List.append_assoc,
        value?, h]
      · rfl
      · rintro _ ⟨⟩

/-- What is read as a tree are its tokens. -/
def ValueSound (ts : List Token) : Prop :=
  ∀ t rest, (value? ts).map reading = some (t, rest) → ts = t.tokens ++ rest

/-- What is read as items are the tokens of these. -/
def ItemsSound (ts : List Token) : Prop :=
  ∀ us rest, (items? ts).map reading = some (us, rest) →
    ∃ u us', us = u :: us' ∧ ts = u.tokens ++ (moreItems us' ++ rest)

/-- What is read as members are the tokens of these. -/
def MembersSound (ts : List Token) : Prop :=
  ∀ ms rest, (members? ts).map reading = some (ms, rest) → ∃ m ms', ms = m :: ms' ∧
    ts = .string m.1 :: .colon :: (m.2.tokens ++ (moreMembers ms' ++ rest))

theorem valueSound (ts : List Token) : ValueSound ts := by
  -- The cases are those of the readers of trees, of members and of items, one after the other.
  refine value?.induct ValueSound MembersSound ItemsSound ?null ?bool ?numeral ?string
    ?emptyArray ?array ?emptyObject ?object ?noTree ?noMember ?lastMember ?member ?noMemberEnd
    ?noMembers ?noItem ?lastItem ?item ?noItemEnd ts
  case null | bool | numeral | string | emptyArray | emptyObject =>
    intros
    intro t rest h
    rw [value?] at h
    cases h
    rfl
  case array =>
    intro ts hopen ih t rest h
    rw [value?.eq_6 _ hopen, Option.map_map, Option.map_eq_some_iff] at h
    obtain ⟨⟨us, after, hlt⟩, hr, heq⟩ := h
    cases heq
    obtain ⟨u, us', hus, hts⟩ := ih us after (congrArg (Option.map reading) hr)
    show Token.openArray :: ts = (Tree.array us).tokens ++ after
    rw [hus, Tree.tokens, List.cons_append, List.append_assoc, ← hts]
  case object =>
    intro ts hopen ih t rest h
    rw [value?.eq_8 _ hopen, Option.map_map, Option.map_eq_some_iff] at h
    obtain ⟨⟨ms, after, hlt⟩, hr, heq⟩ := h
    cases heq
    obtain ⟨m, ms', hms, hts⟩ := ih ms after (congrArg (Option.map reading) hr)
    show Token.openObject :: ts = (Tree.object ms).tokens ++ after
    rw [hms, Tree.tokens, List.cons_append, List.cons_append, List.cons_append, List.append_assoc,
      ← hts]
  case noTree =>
    intro ts h₁ h₂ h₃ h₄ h₅ h₆ h₇ h₈ t rest h
    rw [value?.eq_9 ts h₁ h₂ h₃ h₄ h₅ h₆ h₇ h₈] at h
    cases h
  case noMember =>
    intro name body hnone _ ms rest h
    rw [members?, hnone] at h
    cases h
  case lastMember =>
    intro name body t after hlt hsome ih ms rest h
    rw [members?, hsome] at h
    cases h
    refine ⟨(name, t), [], rfl, ?_⟩
    have hbody := ih t _ (congrArg (Option.map reading) hsome)
    exact congrArg (fun body => Token.string name :: Token.colon :: body) hbody
  case member =>
    intro name body t after hlt hsome _ ih ih' ms rest h
    rw [members?, hsome] at h
    simp only [Option.map_map, Option.map_eq_some_iff] at h
    obtain ⟨⟨ms, after', hlt'⟩, hr, heq⟩ := h
    cases heq
    obtain ⟨m, ms', hms, hafter⟩ := ih' ms after' (congrArg (Option.map reading) hr)
    have hbody := ih t _ (congrArg (Option.map reading) hsome)
    refine ⟨(name, t), ms, rfl, ?_⟩
    rw [hms, moreMembers, List.cons_append, List.cons_append, List.cons_append, List.append_assoc,
      ← hafter, ← hbody]
  case noMemberEnd =>
    intro name body val hclose hcomma hsome _ ms rest h
    obtain ⟨t, after, hlt⟩ := val
    rw [members?, hsome] at h
    split at h
    · cases h
    · next heq => exact (hclose _ _ _ (Option.some.inj heq)).elim
    · next heq => exact (hcomma _ _ _ (Option.some.inj heq)).elim
    · cases h
  case noMembers =>
    intro ts hno ms rest h
    rw [members?.eq_2 ts hno] at h
    cases h
  case noItem =>
    intro ts hnone _ us rest h
    rw [items?, hnone] at h
    cases h
  case lastItem =>
    intro ts t after hlt hsome ih us rest h
    rw [items?, hsome] at h
    cases h
    exact ⟨t, [], rfl, ih t _ (congrArg (Option.map reading) hsome)⟩
  case item =>
    intro ts t after hlt hsome _ ih ih' us rest h
    rw [items?, hsome] at h
    simp only [Option.map_map, Option.map_eq_some_iff] at h
    obtain ⟨⟨us, after', hlt'⟩, hr, heq⟩ := h
    cases heq
    obtain ⟨u, us', hus, hafter⟩ := ih' us after' (congrArg (Option.map reading) hr)
    have hts := ih t _ (congrArg (Option.map reading) hsome)
    refine ⟨t, us, rfl, ?_⟩
    rw [hus, moreItems, List.cons_append, List.append_assoc, ← hafter, ← hts]
  case noItemEnd =>
    intro ts val hclose hcomma hsome _ us rest h
    rw [items?, hsome] at h
    split at h
    · cases h
    · next heq => exact (hclose _ _ _ (Option.some.inj heq)).elim
    · next heq => exact (hcomma _ _ _ (Option.some.inj heq)).elim
    · cases h

/-- **Tokens are read as a tree exactly if they are its tokens.** -/
theorem value?_eq_some_iff {ts rest : List Token} {t : Tree} :
    (value? ts).map reading = some (t, rest) ↔ ts = t.tokens ++ rest := by
  constructor
  · exact valueSound ts t rest
  · rintro rfl
    exact hereditary_reads.all t rest

/-- **A text is read as a tree exactly if it spells its tokens.** -/
theorem tree?_eq_some_iff {bs : List UInt8} {t : Tree} :
    tree? bs = some t ↔ Spelled bs t.tokens := by
  rw [← tokens?_eq_some_iff]
  constructor
  · intro h
    rw [tree?] at h
    split at h
    · cases h
    · next ts hts =>
      split at h
      · next t' hnil hvalue =>
        cases h
        rw [hts, value?_eq_some_iff.1 (congrArg (Option.map reading) hvalue), List.append_nil]
      · cases h
  · intro h
    obtain ⟨_, hvalue⟩ :=
      map_reading_eq_iff.1 (value?_eq_some_iff.2 (List.append_nil t.tokens).symm)
    rw [tree?, h]
    simp only [hvalue]

end DocSearch.Json
