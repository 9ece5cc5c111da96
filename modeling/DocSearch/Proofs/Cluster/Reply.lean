import DocSearch.Cluster.Client
import DocSearch.Proofs.Decoding.Basic
import DocSearch.Proofs.Json.Kept

/-!
# What comes back from a cluster

A body is an answer if it spells an envelope: an object with a part about hits, which holds the
number of all matches and the list of hits.  What an envelope holds is told on trees, so members
that do not count may be anything that is spelled correctly; only what counts is kept as a
document, and must be one.  A document of a hit stands four deep in an answer and the number of
all matches two deep, which leaves 123 and 125 levels for them.

Nothing is said about which fault it is that a malformed body has.

## Main definitions

* `Named`, `Part` — the members of an object under the texts of their names.
* `Held` — the document that is kept of a part.
* `Counts`, `IsSource`, `IsHit`, `HitsPart`, `Envelope` — an answer and its parts, with what
  they hold.
* `Misshapen` — ways in which an object is no envelope.
* `Exchange.Fails`, `Exchange.Carries` — what comes back of a message.
* `Classified` — the outcome that is right for what came back.

## Main results

* `Reply.decode_eq_ok_iff` — the reader of answers accepts exactly the envelopes.
* `Client.execute_classified` — **the outcome of a request is right for whatever comes back.**
-/

namespace DocSearch.Cluster

open DocSearch.Json DocSearch.Number

/-! ### Members -/

/-- The name stands among the members once at most, and stands for `x` if it does. -/
structure Member {α : Type} (name : String) (ms : List (String × α)) (x : Option α) : Prop where
  /-- The name does not stand there twice. -/
  count_le : (ms.map Prod.fst).count name ≤ 1
  /-- What it stands for. -/
  lookup_eq : ms.lookup name = x

section Member

variable {α β : Type} {name : String}

theorem count_name_eq (name : String) (ms : List (String × α)) :
    (ms.map Prod.fst).count name = (ms.filter (·.1 == name)).length := by
  rw [List.count_eq_countP, List.countP_map, List.countP_eq_length_filter]
  rfl

theorem lookup_name_eq (name : String) (ms : List (String × α)) :
    ms.lookup name = (ms.filter (·.1 == name)).head?.map Prod.snd := by
  induction ms with
  | nil => rfl
  | cons m ms ih =>
    obtain ⟨key, x⟩ := m
    by_cases h : key = name
    · rw [h, List.lookup_cons_self, List.filter_cons, if_pos (beq_self_eq_true name)]
      rfl
    · have hname : (name == key) = false := beq_false_of_ne (Ne.symm h)
      rw [List.filter_cons, if_neg (by rwa [beq_iff_eq]), ← ih, List.lookup_cons, hname]

/-- The only member of a name is read where there are not two of them. -/
theorem onlyMember_eq_ok_iff {ms : List (String × α)} {x : Option α} :
    onlyMember name ms = .ok x ↔ Member name ms x := by
  have hmember : Member name ms x ↔ (ms.filter (·.1 == name)).length ≤ 1 ∧
      (ms.filter (·.1 == name)).head?.map Prod.snd = x := by
    rw [← count_name_eq, ← lookup_name_eq]
    exact ⟨fun h => ⟨h.1, h.2⟩, fun h => ⟨h.1, h.2⟩⟩
  rw [hmember, onlyMember]
  generalize ms.filter (·.1 == name) = found
  match found with
  | [] => simp
  | [m] => simp
  | _ :: _ :: _ => simp

/-- A name stands for one thing. -/
theorem Member.unique {ms : List (String × α)} {x y : Option α} (hx : Member name ms x)
    (hy : Member name ms y) : x = y :=
  hx.lookup_eq.symm.trans hy.lookup_eq

end Member

/-- The members of a part of an answer under the texts of their names. -/
structure Named (ms : List (List UInt8 × Tree)) (named : List (String × Tree)) : Prop where
  /-- Each name spells its text. -/
  names : List.Forall₂ Spells (ms.map Prod.fst) (named.map Prod.fst)
  /-- What stands under the names. -/
  parts : ms.map Prod.snd = named.map Prod.snd

theorem Named.nil : Named [] [] := ⟨.nil, rfl⟩

/-- One more member, whose name is spelled without an escape. -/
theorem Named.plain {s : String} (hs : '\\' ∉ s.toList) (t : Tree)
    {ms : List (List UInt8 × Tree)} {named : List (String × Tree)} (h : Named ms named) :
    Named ((bytesOf s.toList, t) :: ms) ((s, t) :: named) :=
  ⟨.cons (spells_plain hs) h.names, congrArg (t :: ·) h.parts⟩

/-- All names of a part of an answer are texts, and this one stands for `x`. -/
inductive Part (name : String) (ms : List (List UInt8 × Tree)) (x : Option Tree) : Prop
  /-- Among the members under the texts of their names. -/
  | named {named : List (String × Tree)} (hms : Named ms named) (h : Member name named x)

theorem namedMembers?_eq_some_iff {ms : List (List UInt8 × Tree)} {named : List (String × Tree)} :
    namedMembers? ms = some named ↔ Named ms named := by
  induction ms generalizing named with
  | nil =>
    constructor
    · rintro ⟨⟩
      exact ⟨.nil, rfl⟩
    · rintro ⟨hnames, -⟩
      cases named with
      | nil => rfl
      | cons => cases hnames
  | cons m ms ih =>
    rw [namedMembers?]
    constructor
    · intro h
      split at h
      · cases h
      · next name hname =>
        obtain ⟨rest, hrest, rfl⟩ := Option.map_eq_some_iff.1 h
        obtain ⟨hnames, hparts⟩ := ih.1 hrest
        exact ⟨.cons (text?_eq_some_iff.1 hname) hnames, congrArg (m.2 :: ·) hparts⟩
    · rintro ⟨hnames, hparts⟩
      cases named with
      | nil => cases hnames
      | cons n named =>
        obtain ⟨hname, hnames⟩ := List.forall₂_cons.1 hnames
        obtain ⟨hpart, hparts⟩ := List.cons.inj hparts
        rw [text?_eq_some_iff.2 hname]
        simp only [ih.2 ⟨hnames, hparts⟩, Option.map_some, hpart]

theorem Named.unique {ms : List (List UInt8 × Tree)} {as bs : List (String × Tree)}
    (ha : Named ms as) (hb : Named ms bs) : as = bs := by
  rw [← namedMembers?_eq_some_iff] at ha hb
  exact Option.some.inj (ha.symm.trans hb)

theorem Part.unique {name : String} {ms : List (List UInt8 × Tree)} {x y : Option Tree}
    (hx : Part name ms x) (hy : Part name ms y) : x = y := by
  obtain ⟨hms, hx⟩ := hx
  obtain ⟨hms', hy⟩ := hy
  obtain rfl := hms.unique hms'
  exact hx.unique hy

theorem memberOf_eq_ok_iff {name : String} {ms : List (List UInt8 × Tree)} {x : Option Tree} :
    memberOf name ms = .ok x ↔ Part name ms x := by
  rw [memberOf]
  constructor
  · intro h
    split at h
    · cases h
    · next named hnamed =>
      cases honly : onlyMember name named with
      | error e =>
        rw [honly] at h
        cases h
      | ok y =>
        rw [honly] at h
        cases h
        exact .named (namedMembers?_eq_some_iff.1 hnamed) (onlyMember_eq_ok_iff.1 honly)
  · rintro ⟨hms, h⟩
    rw [namedMembers?_eq_some_iff.2 hms]
    simp only [onlyMember_eq_ok_iff.2 h]
    rfl

/-! ### Parts of an answer -/

/-- A part that may be missing, with what it then amounts to. -/
inductive Given {α : Type} (P : Tree → α → Prop) (default : α) : Option Tree → α → Prop
  /-- The part is missing. -/
  | absent : Given P default none default
  /-- The part is there. -/
  | present {t : Tree} {a : α} (h : P t a) : Given P default (some t) a

/-- The document that is kept of a part in which at most so many arrays and objects stand inside
each other. -/
structure Held (depth : Nat) (t : Tree) (j : Json) : Prop where
  /-- Not too many of them do. -/
  within : t.Within depth
  /-- What is kept. -/
  keeps : t.Keeps j

/-- The number of all matches: nothing for the absent value, a number of 64 bits, or an object
that is kept as a document and has such a number. -/
inductive Counts : Tree → Option Nat → Prop
  /-- The absent value. -/
  | null : Counts .null none
  /-- A number. -/
  | number {n : Nat} (h : n < 18446744073709551616) : Counts (.numeral (digitsOf n)) (some n)
  /-- An object with a number. -/
  | value {ms : List (List UInt8 × Tree)} {n : Nat} {j : Json} (hheld : Held 125 (.object ms) j)
      (hms : Part "value" ms (some (.numeral (digitsOf n)))) (h : n < 18446744073709551616) :
      Counts (.object ms) (some n)

/-- The document of a hit, where the absent value stands for none. -/
inductive IsSource : Tree → Option Json → Prop
  /-- The absent value. -/
  | null : IsSource .null none
  /-- A document. -/
  | kept {t : Tree} {j : Json} (hne : t ≠ .null) (h : Held 123 t j) : IsSource t (some j)

/-- A hit, with its document if it has one. -/
inductive IsHit : Tree → Option Json → Prop
  /-- There is no document. -/
  | missing {ms : List (List UInt8 × Tree)} (h : Part "_source" ms none) : IsHit (.object ms) none
  /-- The member of an object. -/
  | named {ms : List (List UInt8 × Tree)} {t : Tree} {source : Option Json}
      (h : Part "_source" ms (some t)) (hsource : IsSource t source) : IsHit (.object ms) source
  /-- The item of a list. -/
  | placed {t : Tree} {source : Option Json} (hsource : IsSource t source) :
      IsHit (.array [t]) source

/-- A list of hits with their documents. -/
inductive AreHits : Tree → List (Option Json) → Prop
  /-- Hit by hit. -/
  | list {ts : List Tree} {sources : List (Option Json)} (h : List.Forall₂ IsHit ts sources) :
      AreHits (.array ts) sources

/-- The part of an answer about its hits: the number of all matches and the list. -/
inductive HitsPart : Tree → Option Nat → List (Option Json) → Prop
  /-- The members of an object. -/
  | named {ms : List (List UInt8 × Tree)} {t l : Option Tree} {total : Option Nat}
      {sources : List (Option Json)} (ht : Part "total" ms t) (hl : Part "hits" ms l)
      (htotal : Given Counts none t total) (hsources : Given AreHits [] l sources) :
      HitsPart (.object ms) total sources
  /-- The items of a list. -/
  | placed {ts : List Tree} {total : Option Nat} {sources : List (Option Json)}
      (hts : ts.length ≤ 2) (htotal : Given Counts none ts[0]? total)
      (hsources : Given AreHits [] ts[1]? sources) : HitsPart (.array ts) total sources

/-- An answer with the number of all matches and the documents of its hits. -/
inductive Envelope : Tree → Option Nat → List (Option Json) → Prop
  /-- The member of an object. -/
  | named {ms : List (List UInt8 × Tree)} {part : Tree} {total : Option Nat}
      {sources : List (Option Json)} (h : Part "hits" ms (some part))
      (hpart : HitsPart part total sources) : Envelope (.object ms) total sources
  /-- The item of a list. -/
  | placed {part : Tree} {total : Option Nat} {sources : List (Option Json)}
      (hpart : HitsPart part total sources) : Envelope (.array [part]) total sources

/-! ### The number of all matches -/

namespace Reply

theorem getD_map_eq_ok_iff {α : Type} {decode : PartReader α} {P : Tree → α → Prop} {default : α}
    {x : Option Tree} {a : α} (hdecode : ∀ t a, decode t = .ok a ↔ P t a) :
    (x.map decode).getD (.ok default) = .ok a ↔ Given P default x a := by
  cases x with
  | none =>
    constructor
    · rintro ⟨⟩
      exact .absent
    · rintro ⟨⟩
      rfl
  | some t =>
    constructor
    · exact fun h => .present ((hdecode t a).1 h)
    · rintro (_ | h)
      exact (hdecode t a).2 h

/-- A numeral stands for a natural number of 64 bits if it is written with the digits of it. -/
theorem numeral?_eq_ofNat_iff {cs : List Char} {n : Nat} (hn : n < 18446744073709551616) :
    numeral? cs = some (.ofNat n) ↔ cs = digitsOf n := by
  have hwide : Wide (n : Int) := by omega
  have hdigits : intText n = digitsOf n := by rw [intText, if_neg (by omega), Int.natAbs_natCast]
  rw [Json.Number.ofNat_eq_integer hn, ← hdigits]
  constructor
  · intro h
    cases (numeral?_eq_some_iff.1 h).2 with
    | integer _ hcs => exact hcs
  · rintro rfl
    exact numeral?_intText hwide

/-- What stands under a name before and after all members are read. -/
theorem rel_lookup {α β : Type} {R : α → β → Prop} {as : List (String × α)}
    {bs : List (String × β)} (hnames : as.map Prod.fst = bs.map Prod.fst)
    (hparts : List.Forall₂ R (as.map Prod.snd) (bs.map Prod.snd)) (name : String) :
    Option.Rel R (as.lookup name) (bs.lookup name) := by
  induction as generalizing bs with
  | nil =>
    cases bs with
    | nil => exact .none
    | cons => cases hnames
  | cons a as ih =>
    cases bs with
    | nil => cases hnames
    | cons b bs =>
      obtain ⟨hname, hnames⟩ := List.cons.inj hnames
      obtain ⟨hpart, hparts⟩ := List.forall₂_cons.1 hparts
      rw [List.lookup_cons, List.lookup_cons, hname]
      split
      · exact .some hpart
      · exact ih hnames hparts

theorem json?_eq_ofNat_iff {t : Tree} {depth n : Nat} (hn : n < 18446744073709551616) :
    t.json? depth = some (.ofNat n) ↔ t = .numeral (digitsOf n) := by
  cases t with
  | numeral cs =>
    rw [Tree.json?, Tree.numeral.injEq, ← numeral?_eq_ofNat_iff hn, Option.map_eq_some_iff]
    constructor
    · rintro ⟨m, hm, heq⟩
      rw [hm, Json.number.inj heq]
    · exact fun h => ⟨_, h, rfl⟩
  | array ts =>
    refine iff_of_false ?_ (by simp)
    rw [Tree.json?]
    split <;> simp [Json.ofNat]
  | object ms =>
    refine iff_of_false ?_ (by simp)
    rw [Tree.json?]
    split <;> simp [Json.ofNat]
  | _ => exact iff_of_false (by simp [Tree.json?, Json.ofNat]) (by simp)

theorem exists_object_of_json? {t : Tree} {depth : Nat} {docs : List (String × Json)}
    (h : t.json? depth = some (.object docs)) :
    ∃ ms, t = .object ms ∧ membersJson? (depth - 1) ms = some docs := by
  cases t with
  | object ms =>
    rw [Tree.json?] at h
    split at h
    · cases h
    · obtain ⟨docs', hdocs, heq⟩ := Option.map_eq_some_iff.1 h
      cases heq
      exact ⟨ms, rfl, hdocs⟩
  | array ts =>
    rw [Tree.json?] at h
    split at h
    · cases h
    · obtain ⟨_, -, heq⟩ := Option.map_eq_some_iff.1 h
      cases heq
  | numeral cs | string bytes =>
    obtain ⟨_, -, heq⟩ := Option.map_eq_some_iff.1 h
    cases heq
  | null | bool b => cases h

/-- A number among the members of an object, as it is spelled and as it is read. -/
theorem part_digits_iff {name : String} {depth n : Nat} (hn : n < 18446744073709551616)
    {ms : List (List UInt8 × Tree)} {docs : List (String × Json)}
    (hdocs : membersJson? depth ms = some docs) :
    Part name ms (some (.numeral (digitsOf n))) ↔ Member name docs (some (.ofNat n)) := by
  obtain ⟨hnames, hparts⟩ := membersJson?_eq_some_iff.1 hdocs
  have hlength : docs.length = ms.length := by
    have h := hnames.length_eq
    rw [List.length_map, List.length_map] at h
    exact h.symm
  have hfst : ((docs.map Prod.fst).zip (ms.map Prod.snd)).map Prod.fst = docs.map Prod.fst :=
    List.map_fst_zip (by rw [List.length_map, List.length_map, hlength])
  have hsnd : ((docs.map Prod.fst).zip (ms.map Prod.snd)).map Prod.snd = ms.map Prod.snd :=
    List.map_snd_zip (by rw [List.length_map, List.length_map, hlength])
  -- The parts under the texts of their names, which are the names of the documents.
  generalize (docs.map Prod.fst).zip (ms.map Prod.snd) = named at hfst hsnd
  have hnamed : Named ms named := ⟨by rw [hfst]; exact hnames, hsnd.symm⟩
  have hrel := rel_lookup hfst (by rw [hsnd]; exact itemsJson?_eq_some_iff.1 hparts) name
  constructor
  · rintro ⟨hms, h⟩
    obtain rfl := hms.unique hnamed
    refine ⟨hfst ▸ h.count_le, ?_⟩
    rw [h.lookup_eq] at hrel
    generalize docs.lookup name = x at hrel
    obtain ⟨hx⟩ := hrel
    rw [(json?_eq_ofNat_iff hn).2 rfl] at hx
    exact hx.symm
  · intro h
    refine .named hnamed ⟨hfst ▸ h.count_le, ?_⟩
    rw [h.lookup_eq] at hrel
    generalize named.lookup name = x at hrel
    obtain ⟨hx⟩ := hrel
    rw [(json?_eq_ofNat_iff hn).1 hx]

theorem bareCount_eq_ok_iff {j : Json} {n : Nat} :
    bareCount j = .ok n ↔ n < 18446744073709551616 ∧ j = .ofNat n := by
  rw [bareCount, ← Decoder.nat64_eq_ok_iff]
  cases Decoder.nat64 j with
  | error e => exact iff_of_false nofun nofun
  | ok m => exact Iff.rfl

/-- An object counts by its value and any other document by itself. -/
theorem countOf_eq_ok_iff {j : Json} {n : Nat} : countOf j = .ok n ↔ n < 18446744073709551616 ∧
    (j = .ofNat n ∨ ∃ docs, j = .object docs ∧ Member "value" docs (some (.ofNat n))) := by
  match j with
  | .object docs =>
    have hvalue : (Json.object docs = .ofNat n ∨ ∃ docs', Json.object docs = .object docs' ∧
        Member "value" docs' (some (.ofNat n))) ↔ Member "value" docs (some (.ofNat n)) := by
      constructor
      · rintro (⟨⟨⟩⟩ | ⟨_, ⟨⟩, h⟩)
        exact h
      · exact fun h => .inr ⟨docs, rfl, h⟩
    rw [hvalue, ← onlyMember_eq_ok_iff, countOf]
    cases onlyMember "value" docs with
    | error e => simp
    | ok value =>
      cases value with
      | none => simp
      | some j => simp only [bareCount_eq_ok_iff, Except.ok.injEq, Option.some.injEq]
  | .null | .bool _ | .number _ | .string _ | .array _ =>
    rw [countOf, bareCount_eq_ok_iff]
    · simp
    · nofun

theorem decodeTotal_eq_ok_iff (t : Tree) (total : Option Nat) :
    decodeTotal t = .ok total ↔ Counts t total := by
  by_cases hnull : t = .null
  · subst hnull
    constructor
    · rintro ⟨⟩
      exact .null
    · rintro (_ | _)
      rfl
  · -- Anything but the absent value is read as a document first.
    have hread : decodeTotal t = .ok total ↔
        ∃ j n, t.json? totalDepth = some j ∧ countOf j = .ok n ∧ total = some n := by
      rw [decodeTotal]
      · cases t.json? totalDepth with
        | none => simp
        | some j => cases hj : countOf j <;> simp [hj, Except.map, Except.mapError, eq_comm]
      · exact hnull
    rw [hread]
    constructor
    · rintro ⟨j, n, hj, hn, rfl⟩
      obtain ⟨hlt, rfl | ⟨docs, rfl, hvalue⟩⟩ := countOf_eq_ok_iff.1 hn
      · rw [(json?_eq_ofNat_iff hlt).1 hj]
        exact .number hlt
      · obtain ⟨ms, rfl, hms⟩ := exists_object_of_json? hj
        have hheld := map_settle_json?_eq_some_iff.1 (congrArg (Option.map settle) hj)
        exact .value ⟨hheld.1, hheld.2⟩ ((part_digits_iff hlt hms).2 hvalue) hlt
    · intro h
      cases h with
      | null => exact absurd rfl hnull
      | number hlt =>
        exact ⟨_, _, (json?_eq_ofNat_iff hlt).2 rfl, countOf_eq_ok_iff.2 ⟨hlt, .inl rfl⟩, rfl⟩
      | @value ms n j hheld hms hlt =>
        obtain ⟨raw, hraw, -⟩ := Option.map_eq_some_iff.1
          (map_settle_json?_eq_some_iff.2 ⟨hheld.within, hheld.keeps⟩)
        obtain ⟨docs, rfl⟩ : ∃ docs, raw = .object docs := by
          rw [Tree.json?, if_neg (by decide)] at hraw
          obtain ⟨docs, -, rfl⟩ := Option.map_eq_some_iff.1 hraw
          exact ⟨docs, rfl⟩
        obtain ⟨_, ⟨⟩, hdocs⟩ := exists_object_of_json? hraw
        exact ⟨_, _, hraw, countOf_eq_ok_iff.2
          ⟨hlt, .inr ⟨docs, rfl, (part_digits_iff hlt hdocs).1 hms⟩⟩, rfl⟩

/-! ### The hits -/

theorem sourceOf_eq_ok_iff {t : Tree} {source : Option Json} :
    sourceOf t = .ok source ↔ IsSource t source := by
  by_cases hnull : t = .null
  · subst hnull
    constructor
    · rintro ⟨⟩
      exact .null
    · rintro (_ | ⟨hne, -⟩)
      · rfl
      · exact absurd rfl hne
  · have hread : sourceOf t = .ok source ↔
        ∃ j, (t.json? sourceDepth).map settle = some j ∧ source = some j := by
      rw [sourceOf]
      · cases t.json? sourceDepth <;> simp [eq_comm]
      · exact hnull
    rw [hread]
    simp only [map_settle_json?_eq_some_iff]
    constructor
    · rintro ⟨j, ⟨hwithin, hkeeps⟩, rfl⟩
      exact .kept hnull ⟨hwithin, hkeeps⟩
    · rintro (_ | ⟨-, h⟩)
      · exact absurd rfl hnull
      · exact ⟨_, ⟨h.within, h.keeps⟩, rfl⟩

/-- A part that is of no use is a fault. -/
theorem unfit_ne_ok {α : Type} {expected : String} {t : Tree} {a : α} :
    unfit expected t ≠ .ok a := by
  intro h
  rw [unfit] at h
  split at h <;> cases h

theorem decodeHit_eq_ok_iff (t : Tree) (source : Option Json) :
    decodeHit t = .ok source ↔ IsHit t source := by
  match t with
  | .object ms =>
    constructor
    · intro h
      rw [decodeHit] at h
      split at h
      · cases h
      · next hms =>
        cases h
        exact .missing (memberOf_eq_ok_iff.1 hms)
      · next t hms => exact .named (memberOf_eq_ok_iff.1 hms) (sourceOf_eq_ok_iff.1 h)
    · intro h
      cases h with
      | missing h => rw [decodeHit, memberOf_eq_ok_iff.2 h]
      | named h hsource =>
        rw [decodeHit, memberOf_eq_ok_iff.2 h]
        exact sourceOf_eq_ok_iff.2 hsource
  | .array [t] =>
    constructor
    · exact fun h => .placed (sourceOf_eq_ok_iff.1 h)
    · rintro (_ | _ | h)
      exact sourceOf_eq_ok_iff.2 h
  | .array [] | .array (_ :: _ :: _) => exact iff_of_false nofun nofun
  | .null | .bool _ => exact iff_of_false nofun nofun
  | .numeral _ | .string _ => exact iff_of_false unfit_ne_ok nofun

theorem decodeItems_eq_ok_iff {ts : List Tree} {sources : List (Option Json)} :
    decodeItems ts = .ok sources ↔ List.Forall₂ IsHit ts sources := by
  induction ts generalizing sources with
  | nil => cases sources <;> simp [decodeItems]
  | cons t ts ih =>
    constructor
    · intro h
      rw [decodeItems] at h
      split at h
      · cases h
      · next source hsource =>
        split at h
        · cases h
        · next rest hrest =>
          cases h
          exact .cons ((decodeHit_eq_ok_iff _ _).1 hsource) (ih.1 hrest)
    · rintro (_ | ⟨hsource, hrest⟩)
      rw [decodeItems, (decodeHit_eq_ok_iff _ _).2 hsource, ih.2 hrest]

theorem decodeList_eq_ok_iff (t : Tree) (sources : List (Option Json)) :
    decodeList t = .ok sources ↔ AreHits t sources := by
  cases t with
  | array ts =>
    rw [decodeList, decodeItems_eq_ok_iff]
    constructor
    · exact .list
    · rintro ⟨h⟩
      exact h
  | numeral cs | string bytes => exact iff_of_false unfit_ne_ok nofun
  | null | bool b | object ms => exact iff_of_false nofun nofun

/-! ### The whole answer -/

/-- The two parts are put together when each of them is read. -/
theorem ofParts_eq_ok_iff {t l : Option Tree} {r : Reply} :
    ofParts t l = .ok r ↔ Given Counts none t r.total ∧ Given AreHits [] l r.sources := by
  rw [← getD_map_eq_ok_iff decodeTotal_eq_ok_iff, ← getD_map_eq_ok_iff decodeList_eq_ok_iff,
    ofParts]
  cases (t.map decodeTotal).getD (.ok none) with
  | error e => simp
  | ok total =>
    cases (l.map decodeList).getD (.ok []) with
    | error e => simp
    | ok sources =>
      constructor
      · rintro ⟨⟩
        exact ⟨rfl, rfl⟩
      · rintro ⟨htotal, hsources⟩
        rw [Except.ok.inj htotal, Except.ok.inj hsources]

theorem decodeHits_eq_ok_iff {t : Tree} {r : Reply} :
    decodeHits t = .ok r ↔ HitsPart t r.total r.sources := by
  match t with
  | .object ms =>
    constructor
    · intro h
      rw [decodeHits] at h
      split at h
      · cases h
      · next ht =>
        split at h
        · cases h
        · next hl =>
          obtain ⟨htotal, hsources⟩ := ofParts_eq_ok_iff.1 h
          exact .named (memberOf_eq_ok_iff.1 ht) (memberOf_eq_ok_iff.1 hl) htotal hsources
    · rintro (⟨ht, hl, htotal, hsources⟩ | _)
      rw [decodeHits, memberOf_eq_ok_iff.2 ht, memberOf_eq_ok_iff.2 hl]
      exact ofParts_eq_ok_iff.2 ⟨htotal, hsources⟩
  | .array ts =>
    rw [decodeHits]
    split
    next hlong =>
      constructor
      · rintro ⟨⟩
      · rintro (_ | ⟨hts, _, _⟩)
        omega
    next hshort =>
      rw [ofParts_eq_ok_iff]
      constructor
      · rintro ⟨htotal, hsources⟩
        exact .placed (by omega) htotal hsources
      · rintro (_ | ⟨_, htotal, hsources⟩)
        exact ⟨htotal, hsources⟩
  | .null | .bool _ => exact iff_of_false nofun nofun
  | .numeral _ | .string _ => exact iff_of_false unfit_ne_ok nofun

/-- **The reader of answers accepts exactly the envelopes**, with the number and the documents
that they hold. -/
theorem decode_eq_ok_iff {t : Tree} {r : Reply} :
    decode t = .ok r ↔ Envelope t r.total r.sources := by
  match t with
  | .object ms =>
    constructor
    · intro h
      rw [decode] at h
      split at h
      · cases h
      · cases h
      · next part hms => exact .named (memberOf_eq_ok_iff.1 hms) (decodeHits_eq_ok_iff.1 h)
    · rintro (⟨hms, hpart⟩ | _)
      rw [decode, memberOf_eq_ok_iff.2 hms]
      exact decodeHits_eq_ok_iff.2 hpart
  | .array [part] =>
    constructor
    · exact fun h => .placed (decodeHits_eq_ok_iff.1 h)
    · rintro (_ | hpart)
      exact decodeHits_eq_ok_iff.2 hpart
  | .array [] | .array (_ :: _ :: _) => exact iff_of_false nofun nofun
  | .null | .bool _ => exact iff_of_false nofun nofun
  | .numeral _ | .string _ => exact iff_of_false unfit_ne_ok nofun

/-! ### The documents of the hits -/

theorem documents_map_some (ds : List Json) :
    ∀ position, documents position (ds.map some) = .ok ds := by
  induction ds with
  | nil => exact fun _ => rfl
  | cons j ds ih =>
    intro position
    rw [List.map_cons, documents, ih]

/-- The first hit without a document is told by its place. -/
theorem documents_of_first_none (pre : List Json) (post : List (Option Json)) :
    ∀ position, documents position (pre.map some ++ none :: post) =
      .error (.malformedResult (position + pre.length) .sourceMissing) := by
  induction pre with
  | nil => exact fun _ => rfl
  | cons j pre ih =>
    intro position
    rw [List.map_cons, List.cons_append, documents, ih, List.length_cons, Nat.add_assoc,
      Nat.add_comm 1]

end Reply

/-- The hits of a body that spells an envelope are those of its documents. -/
theorem hitsOfBody_of_envelope {body : List UInt8} {t : Tree} {total : Option Nat}
    {sources : List (Option Json)} (hbody : Spelled body t.tokens) (h : Envelope t total sources) :
    hitsOfBody body = Reply.hits ⟨total, sources⟩ := by
  have hdecode : Reply.decode t = .ok ⟨total, sources⟩ := Reply.decode_eq_ok_iff.2 h
  rw [hitsOfBody, tree?_eq_some_iff.2 hbody]
  simp only [hdecode]

/-- There are no hits in a body that spells no envelope. -/
theorem hitsOfBody_of_not_envelope {body : List UInt8}
    (h : ∀ t total sources, Spelled body t.tokens → ¬ Envelope t total sources) :
    ∃ fault, hitsOfBody body = .error (.malformedResult 0 fault) := by
  rw [hitsOfBody]
  cases ht : tree? body with
  | none => exact ⟨_, rfl⟩
  | some t =>
    cases hdecode : Reply.decode t with
    | error fault => exact ⟨fault, by simp only [hdecode]⟩
    | ok r =>
      exact absurd (Reply.decode_eq_ok_iff.1 hdecode)
        (h t r.total r.sources (tree?_eq_some_iff.1 ht))

/-- An answer with one hit and nothing else. -/
def Reply.single (source : Tree) : Tree :=
  .object [(bytesOf "hits".toList, .object [(bytesOf "hits".toList,
    .array [.object [(bytesOf "_source".toList, source)]])])]

theorem Reply.decode_single (source : Tree) :
    decode (single source) = (sourceOf source).map fun document => ⟨none, [document]⟩ := by
  have hname {s : String} (name : String) (hs : '\\' ∉ s.toList) (t : Tree) :
      memberOf name [(bytesOf s.toList, t)] = .ok ([(s, t)].lookup name) :=
    memberOf_eq_ok_iff.2 (.named (.plain hs t .nil) ⟨List.count_le_length, rfl⟩)
  have hhits (t : Tree) : memberOf "hits" [(bytesOf "hits".toList, t)] = .ok (some t) :=
    hname "hits" (by decide) t
  have htotal (t : Tree) : memberOf "total" [(bytesOf "hits".toList, t)] = .ok none :=
    hname "total" (by decide) t
  have hsource : memberOf "_source" [(bytesOf "_source".toList, source)] = .ok (some source) :=
    hname "_source" (by decide) source
  simp only [single, decode, decodeHits, hhits, htotal, ofParts, decodeList, decodeItems,
    decodeHit, hsource, Option.map_none, Option.getD_none, Option.map_some, Option.getD_some]
  cases sourceOf source with
  | error fault => rfl
  | ok document => rfl

/-- The hits of an answer with one numeral as its only document. -/
theorem hitsOfBody_single {body : List UInt8} {cs : List Char} {number? : Option Json.Number}
    (hbody : Spelled body (Reply.single (.numeral cs)).tokens) (hcs : numeral? cs = number?) :
    hitsOfBody body =
      number?.elim (.error (.malformedResult 0 .notADocument)) fun n => .ok ⟨[.number n], 1⟩ := by
  have hsource : Reply.sourceOf (.numeral cs) =
      number?.elim (.error .notADocument) fun n => .ok (some (.number n)) := by
    rw [Reply.sourceOf, Tree.json?, hcs]
    · cases number? <;> rfl
    · simp
  rw [hitsOfBody, tree?_eq_some_iff.2 hbody]
  simp only [Reply.decode_single, hsource]
  cases number? <;> rfl

/-! ### No envelopes -/

/-- Ways in which an object is no envelope. -/
inductive Misshapen : Tree → Prop
  /-- There is nothing about hits. -/
  | hitsMissing {ms : List (List UInt8 × Tree)} (h : Part "hits" ms none) : Misshapen (.object ms)
  /-- What should be the list of hits is none. -/
  | noList {ms part : List (List UInt8 × Tree)} {l : Tree}
      (h : Part "hits" ms (some (.object part))) (hl : Part "hits" part (some l))
      (hno : ∀ ts, l ≠ .array ts) : Misshapen (.object ms)
  /-- What should be the number of all matches does not count. -/
  | noCount {ms part : List (List UInt8 × Tree)} {t : Tree}
      (h : Part "hits" ms (some (.object part))) (ht : Part "total" part (some t))
      (hno : ∀ total, ¬ Counts t total) : Misshapen (.object ms)

theorem Misshapen.not_envelope {t : Tree} (h : Misshapen t) (total : Option Nat)
    (sources : List (Option Json)) : ¬ Envelope t total sources := by
  intro henvelope
  cases h with
  | hitsMissing h =>
    obtain ⟨hpart, _⟩ := henvelope
    cases h.unique hpart
  | noList h hl hno =>
    obtain ⟨hpart, hparts⟩ := henvelope
    cases h.unique hpart
    obtain ⟨_, hl', _, hsources⟩ := hparts
    cases hl.unique hl'
    obtain _ | ⟨⟨_⟩⟩ := hsources
    exact hno _ rfl
  | noCount h ht hno =>
    obtain ⟨hpart, hparts⟩ := henvelope
    cases h.unique hpart
    obtain ⟨ht', _, htotal, _⟩ := hparts
    cases ht.unique ht'
    obtain _ | htotal := htotal
    exact hno _ htotal

/-! ### Whatever comes back -/

namespace Exchange

/-- What came back is no success: no connection, no answer in time, or another status. -/
inductive Fails : Exchange → Prop
  /-- No answer in time. -/
  | timedOut : Fails .timedOut
  /-- No connection. -/
  | unreachable (reason : String) : Fails (.unreachable reason)
  /-- A status outside of those of success. -/
  | rejected {status : Nat} (body : List UInt8) (text : String)
      (h : status < 200 ∨ 300 ≤ status) : Fails (.answered status body text)
  /-- Such a status, and a body that breaks off. -/
  | brokenOff {status : Nat} (reason : String) (h : status < 200 ∨ 300 ≤ status) :
      Fails (.brokenOff status reason)

/-- What came back is a success with a body. -/
inductive Carries : Exchange → List UInt8 → Prop
  /-- A status of success. -/
  | success {status : Nat} (body : List UInt8) (text : String) (hlow : 200 ≤ status)
      (hhigh : status < 300) : Carries (.answered status body text) body

end Exchange

/-- The outcome is right for what came back. -/
structure Classified (x : Exchange) (o : Outcome Hits) : Prop where
  /-- Without a success there is no backend. -/
  unavailable : x.Fails → ∃ fault, o = .error (.backendUnavailable fault)
  /-- When every hit has its document the hits are the documents in order; they count as all
  matches where the answer does not tell. -/
  hits : ∀ body t total docs, x.Carries body → Spelled body t.tokens →
    Envelope t total (docs.map some) → o = .ok ⟨docs, total.getD docs.length⟩
  /-- The first hit without a document is told by its place. -/
  sourceMissing : ∀ body t total (pre : List Json) post, x.Carries body → Spelled body t.tokens →
    Envelope t total (pre.map some ++ none :: post) →
      o = .error (.malformedResult pre.length .sourceMissing)
  /-- A body that spells no envelope, or nothing at all, is malformed. -/
  malformed : ∀ body, x.Carries body →
    (∀ t total sources, Spelled body t.tokens → ¬ Envelope t total sources) →
      ∃ fault, o = .error (.malformedResult 0 fault)
  /-- In particular one that spells an object without one of the parts. -/
  misshapen : ∀ body t, x.Carries body → Spelled body t.tokens → Misshapen t →
    ∃ fault, o = .error (.malformedResult 0 fault)

namespace Client

theorem outcome_of_fails (c : Client) {x : Exchange} (h : x.Fails) :
    ∃ fault, c.outcome x = .error (.backendUnavailable fault) := by
  have hsuccess {status : Nat} (h : status < 200 ∨ 300 ≤ status) : ¬ isSuccess status = true := by
    simp only [isSuccess, Bool.and_eq_true, decide_eq_true_eq]
    omega
  cases h with
  | timedOut => exact ⟨_, rfl⟩
  | unreachable reason => exact ⟨_, rfl⟩
  | rejected body text h => exact ⟨_, by rw [outcome, if_neg (hsuccess h)]⟩
  | brokenOff reason h => exact ⟨_, by rw [outcome, if_neg (hsuccess h)]⟩

theorem outcome_of_carries (c : Client) {x : Exchange} {body : List UInt8} (h : x.Carries body) :
    c.outcome x = hitsOfBody body := by
  obtain ⟨_, text, hlow, hhigh⟩ := h
  exact if_pos (by simp [isSuccess, hlow, hhigh])

theorem outcome_classified (c : Client) (x : Exchange) : Classified x (c.outcome x) where
  unavailable := c.outcome_of_fails
  hits body t total docs hx hbody h := by
    rw [c.outcome_of_carries hx, hitsOfBody_of_envelope hbody h, Reply.hits]
    simp only [Reply.documents_map_some]
  sourceMissing body t total pre post hx hbody h := by
    rw [c.outcome_of_carries hx, hitsOfBody_of_envelope hbody h, Reply.hits]
    simp only [Reply.documents_of_first_none, Nat.zero_add]
  malformed body hx h := by
    rw [c.outcome_of_carries hx]
    exact hitsOfBody_of_not_envelope h
  misshapen body t hx hbody h := by
    rw [c.outcome_of_carries hx]
    -- A body spells one tree only, and that is not an envelope.
    refine hitsOfBody_of_not_envelope fun t' total sources hbody' => ?_
    have hsame := (tree?_eq_some_iff.2 hbody').symm.trans (tree?_eq_some_iff.2 hbody)
    rw [Option.some.inj hsame]
    exact h.not_envelope total sources

/-- **A request to a cluster is sent once, and the outcome is right for whatever comes back**:
without a success there is no backend; an envelope gives its documents in order with the number
of all matches, or the place of its first hit without a document; any other body is malformed
at the first place. -/
theorem execute_classified {m : Type → Type} [Monad m] (c : Client) (carry : Carrier m)
    (r : Request) : ∃ classify : Exchange → Outcome Hits, (∀ x, Classified x (classify x)) ∧
      (c.backend carry).execute r = carry (c.message r) >>= fun x => pure (classify x) :=
  ⟨c.outcome, c.outcome_classified, rfl⟩

/-- An answer in which a member that does not count is out of range, and whose second hit has no
document. -/
theorem execute_classified_second_missing :
    let c : Client := ⟨"http://es:9200", none, 30⟩
    let body := bytesOf ("\x7b\"took\":1e400,\"hits\":\x7b\"total\":\x7b\"value\":7\x7d," ++
      "\"hits\":[\x7b\"_source\":[true]\x7d,\x7b\"_source\":null\x7d]\x7d\x7d").toList
    (c.backend fun _ => (pure (.answered 200 body "") : Id Exchange)).execute
      ⟨"docs", .matchAll, .standard⟩ = .error (.malformedResult 1 .sourceMissing) := by
  intro c body
  let name (s : String) : List UInt8 := bytesOf s.toList
  let counted : List (List UInt8 × Tree) := [(name "value", .numeral ['7'])]
  let list : Tree :=
    .array [.object [(name "_source", .array [.bool true])], .object [(name "_source", .null)]]
  let part : List (List UInt8 × Tree) := [(name "total", .object counted), (name "hits", list)]
  let answer : Tree :=
    .object [(name "took", .numeral ['1', 'e', '4', '0', '0']), (name "hits", .object part)]
  have hbody : Spelled body answer.tokens := tokens?_eq_some_iff.1 (by decide +kernel)
  have htotal : Counts (.object counted) (some 7) := by
    obtain ⟨htext, hstands⟩ : NumeralText ['7'] ∧ StandsFor ['7'] (.ofNat 7) :=
      numeral?_eq_some_iff.1 (by decide +kernel)
    have hnumber : Tree.Keeps (.numeral ['7']) (.ofNat 7) := .number htext hstands
    have hdocs : LastOfEach [("value", Json.ofNat 7)] [("value", Json.ofNat 7)] :=
      lastOfEach_iff.2 rfl
    have hkeeps : (Tree.object counted).Keeps (.object [("value", .ofNat 7)]) := by
      refine .object ?_ ?_ hdocs
      · exact .cons (spells_plain (by decide)) .nil
      · exact .cons hnumber .nil
    have hwithin : (Tree.object counted).Within 125 :=
      .object (List.forall_mem_singleton.2 (.numeral _))
    have hseven : digitsOf 7 = ['7'] := by rw [digitsOf]; rfl
    refine .value ⟨hwithin, hkeeps⟩ (.named (.plain (by decide) _ .nil) ⟨by decide, ?_⟩) (by decide)
    rw [hseven]
    rfl
  have hhits : AreHits list [some (.array [.bool true]), none] := by
    refine .list (.cons (.named (.named (.plain (by decide) _ .nil) ⟨by decide, rfl⟩) ?_)
      (.cons (.named (.named (.plain (by decide) _ .nil) ⟨by decide, rfl⟩) .null) .nil))
    refine .kept (by simp) ⟨.array ?_, .array (.cons (.bool true) .nil)⟩
    exact List.forall_mem_singleton.2 (.bool true)
  have hpart : Named part [("total", .object counted), ("hits", list)] :=
    .plain (by decide) _ (.plain (by decide) _ .nil)
  have henvelope : Envelope answer (some 7) [some (.array [.bool true]), none] := by
    refine .named (.named (.plain (by decide) _ (.plain (by decide) _ .nil)) ⟨by decide, rfl⟩) ?_
    exact .named (.named hpart ⟨by decide, rfl⟩) (.named hpart ⟨by decide, rfl⟩) (.present htotal)
      (.present hhits)
  obtain ⟨classify, hclassify, hexecute⟩ := execute_classified c
    (fun _ => (pure (.answered 200 body "") : Id Exchange)) ⟨"docs", .matchAll, .standard⟩
  rw [hexecute]
  exact (hclassify _).sourceMissing body answer (some 7) [.array [.bool true]] []
    (.success body "" (by decide) (by decide)) hbody henvelope

/-- A long numeral comes back as another double than the one nearest to it, and the answer with
a numeral that is out of range is malformed. -/
theorem execute_numeral_changed :
    let body (numeral : String) : List UInt8 := bytesOf
      ("\x7b\"hits\":\x7b\"hits\":[\x7b\"_source\":" ++ numeral ++ "\x7d]\x7d\x7d").toList
    let outcome (numeral : String) : Outcome Hits :=
      ((Client.mk "http://es:9200" none 30).backend
        fun _ => (pure (.answered 200 (body numeral) "") : Id Exchange)).execute
          ⟨"docs", .matchAll, .standard⟩
    (∃ x y : Binary64, x ≠ y ∧
      (decimalOf? "51.248178375505404".toList).bind Decimal.toBinary64? = some x ∧
      outcome "51.248178375505404" = .ok ⟨[.number (.binary y)], 1⟩) ∧
    outcome "1e400" = .error (.malformedResult 0 .notADocument) := by
  intro body outcome
  constructor
  · have hnumeral : numeral? "51.248178375505404".toList =
        some (.binary ⟨false, 4632409357216853857, by decide⟩) := by decide +kernel
    refine ⟨⟨false, 4632409357216853856, by decide⟩, _, ?_, by decide +kernel,
      hitsOfBody_single (tokens?_eq_some_iff.1 (by decide +kernel)) hnumeral⟩
    decide
  · have hnumeral : numeral? "1e400".toList = none := by decide +kernel
    exact hitsOfBody_single (tokens?_eq_some_iff.1 (by decide +kernel)) hnumeral

end Client

end DocSearch.Cluster
