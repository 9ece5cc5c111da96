import DocSearch.Json.Basic
import DocSearch.Proofs.Scalar.Order
import Mathlib.Data.List.Induction

/-!
# The members that are kept

Sorting the members of an object puts their names in order and keeps the last member of each
name.  Members in order are determined by what stands under each name, so there is nothing else
that sorting could give.

## Main definitions

* `LastOfEach` — the members of an object that are kept.

## Main results

* `lookup_insertMember`, `sorted_insertMember` — putting in one member.
* `eq_of_sorted` — members in order are known from what stands under each name.
* `lastOfEach_iff` — **sorting members keeps the last one of each name.**
-/

namespace DocSearch

/-- The members that are kept: under each name the last one, in the order of the names. -/
structure LastOfEach (docs kept : List (String × Json)) : Prop where
  /-- The names are in order, and each of them stands there once. -/
  sorted : kept.Pairwise fun a b => Text.order a.1.toList b.1.toList = .lt
  /-- Under each name there is what stood last under it. -/
  lookup_eq : ∀ name, kept.lookup name = docs.reverse.lookup name

theorem order_name_eq_iff {a b : String} : Text.order a.toList b.toList = .eq ↔ a = b := by
  rw [Text.order_eq_eq_iff, String.toList_inj]

theorem lookup_insertMember (name key : String) (value : Json) (ms : List (String × Json)) :
    (insertMember key value ms).lookup name = ((key, value) :: ms).lookup name := by
  induction ms with
  | nil => rfl
  | cons m ms ih =>
    obtain ⟨k, j⟩ := m
    -- The new member comes in front of `k`, in its place, or behind it.
    rw [insertMember]
    split
    · rfl
    · next h =>
      obtain rfl := order_name_eq_iff.1 h
      by_cases hname : name = key
      · rw [hname, List.lookup_cons_self, List.lookup_cons_self]
      · have hkey : (name == key) = false := beq_false_of_ne hname
        rw [List.lookup_cons, List.lookup_cons, List.lookup_cons, hkey]
    · next h =>
      have hne : k ≠ key := by
        rintro rfl
        rw [Text.order_self] at h
        cases h
      by_cases hname : name = key
      · have hk : (name == k) = false := beq_false_of_ne (by rw [hname]; exact hne.symm)
        rw [List.lookup_cons, hk, ih, hname, List.lookup_cons_self, List.lookup_cons_self]
      · have hkey : (name == key) = false := beq_false_of_ne hname
        rw [List.lookup_cons, List.lookup_cons, hkey, ih, List.lookup_cons, hkey, List.lookup_cons]

theorem mem_insertMember {key : String} {value : Json} {m : String × Json}
    {ms : List (String × Json)} (h : m ∈ insertMember key value ms) :
    m = (key, value) ∨ m ∈ ms := by
  induction ms with
  | nil => exact .inl (List.mem_singleton.1 h)
  | cons n ms ih =>
    rw [insertMember] at h
    split at h
    · exact List.mem_cons.1 h
    · exact (List.mem_cons.1 h).imp_right (List.mem_cons_of_mem _)
    · rcases List.mem_cons.1 h with rfl | h
      · exact .inr List.mem_cons_self
      · exact (ih h).imp_right (List.mem_cons_of_mem _)

theorem sorted_insertMember (key : String) (value : Json) {ms : List (String × Json)}
    (h : ms.Pairwise fun a b => Text.order a.1.toList b.1.toList = .lt) :
    (insertMember key value ms).Pairwise fun a b => Text.order a.1.toList b.1.toList = .lt := by
  induction ms with
  | nil => exact List.pairwise_singleton _ _
  | cons m ms ih =>
    obtain ⟨hm, hms⟩ := List.pairwise_cons.1 h
    rw [insertMember]
    split
    · next hlt =>
      refine List.pairwise_cons.2 ⟨fun n hn => ?_, h⟩
      rcases List.mem_cons.1 hn with rfl | hn
      · exact hlt
      · exact Text.order_lt_trans hlt (hm n hn)
    · next heq =>
      rw [order_name_eq_iff] at heq
      refine List.pairwise_cons.2 ⟨fun n hn => ?_, hms⟩
      rw [heq]
      exact hm n hn
    · next hgt =>
      refine List.pairwise_cons.2 ⟨fun n hn => ?_, ih hms⟩
      rcases mem_insertMember hn with rfl | hn
      · rw [← Text.order_swap, hgt]
        rfl
      · exact hm n hn

theorem sortMembers_concat (docs : List (String × Json)) (m : String × Json) :
    sortMembers (docs ++ [m]) = insertMember m.1 m.2 (sortMembers docs) := by
  rw [sortMembers, List.foldl_append]
  rfl

/-- Sorting members keeps the last one of each name. -/
theorem lastOfEach_sortMembers (docs : List (String × Json)) :
    LastOfEach docs (sortMembers docs) := by
  induction docs using List.reverseRecOn with
  | nil => exact ⟨.nil, fun _ => rfl⟩
  | append_singleton docs m ih =>
    rw [sortMembers_concat]
    refine ⟨sorted_insertMember _ _ ih.sorted, fun name => ?_⟩
    rw [lookup_insertMember, List.reverse_concat, List.lookup_cons, List.lookup_cons, ih.lookup_eq]

theorem lookup_eq_none_of_lt {name : String} {ms : List (String × Json)}
    (h : ∀ m ∈ ms, Text.order name.toList m.1.toList = .lt) : ms.lookup name = none := by
  refine List.lookup_eq_none_iff.2 fun m hm => bne_iff_ne.2 ?_
  rintro rfl
  have hlt := h m hm
  rw [Text.order_self] at hlt
  cases hlt

/-- No name of members in order comes before the first one. -/
theorem order_ne_lt_of_lookup {name : String} {b : String × Json} {bs : List (String × Json)}
    (h : (b :: bs).Pairwise fun a b => Text.order a.1.toList b.1.toList = .lt) {j : Json}
    (hj : (b :: bs).lookup name = some j) : Text.order name.toList b.1.toList ≠ .lt := by
  intro hlt
  have hnone : (b :: bs).lookup name = none := lookup_eq_none_of_lt fun m hm => by
    rcases List.mem_cons.1 hm with rfl | hm
    · exact hlt
    · exact Text.order_lt_trans hlt ((List.pairwise_cons.1 h).1 m hm)
  rw [hnone] at hj
  cases hj

/-- Members in order are known from what stands under each name. -/
theorem eq_of_sorted {as bs : List (String × Json)}
    (ha : as.Pairwise fun a b => Text.order a.1.toList b.1.toList = .lt)
    (hb : bs.Pairwise fun a b => Text.order a.1.toList b.1.toList = .lt)
    (h : ∀ name, as.lookup name = bs.lookup name) : as = bs := by
  induction as generalizing bs with
  | nil =>
    cases bs with
    | nil => rfl
    | cons b bs =>
      have hb := h b.1
      rw [List.lookup_cons_self] at hb
      cases hb
  | cons a as ih =>
    cases bs with
    | nil =>
      have ha := h a.1
      rw [List.lookup_cons_self] at ha
      cases ha
    | cons b bs =>
      -- Neither of the first names comes before the other one, so they are the same.
      have hle := order_ne_lt_of_lookup hb ((h a.1).symm.trans List.lookup_cons_self)
      have hge := order_ne_lt_of_lookup ha ((h b.1).trans List.lookup_cons_self)
      have hname : a.1 = b.1 := by
        rw [← order_name_eq_iff]
        rw [← Text.order_swap] at hge
        cases hab : Text.order a.1.toList b.1.toList with
        | lt => exact absurd hab hle
        | eq => rfl
        | gt => exact absurd (by rw [hab]; rfl) hge
      have hvalue : a.2 = b.2 := by
        have hboth := h a.1
        rw [List.lookup_cons_self, hname, List.lookup_cons_self] at hboth
        exact Option.some.inj hboth
      rw [List.pairwise_cons] at ha hb
      obtain rfl : a = b := Prod.ext hname hvalue
      rw [ih ha.2 hb.2 fun name => ?_]
      by_cases heq : name = a.1
      · rw [heq, lookup_eq_none_of_lt ha.1, lookup_eq_none_of_lt hb.1]
      · have hrest := h name
        rwa [List.lookup_cons, List.lookup_cons, beq_false_of_ne heq] at hrest

theorem lastOfEach_iff {docs kept : List (String × Json)} :
    LastOfEach docs kept ↔ kept = sortMembers docs := by
  have hsort := lastOfEach_sortMembers docs
  constructor
  · intro h
    exact eq_of_sorted h.sorted hsort.sorted fun name =>
      (h.lookup_eq name).trans (hsort.lookup_eq name).symm
  · rintro rfl
    exact hsort

end DocSearch
