import DocSearch.Metrics
import Mathlib.Algebra.GroupWithZero.Nat
import Mathlib.Data.List.Basic

/-!
# Readings of the account

What a list of changes does to the figures of the account, whatever the account was
before.  Each figure is one series under some labels, and a change of one series leaves
every other one alone; so a figure after a list of changes is the figure before it with the
changes of that figure counted.

Two of the figures are kept as doubles, which count one by one up to `2 ^ 53` and no
further.  What is said about them ends there.

## Main definitions

* `Change.counts`, `Change.times`, `Change.hits?` — the changes of a given figure.
* `Metrics.exactLimit` — the limit for figures that are kept as doubles.

## Main results

* `Series.get_update` — a series after a change, under any labels.
* `Metrics.requests_after`, `Metrics.timed_after`, `Metrics.count_hits_after`,
  `Metrics.sum_hits_after` — **the figures after a list of changes.**
-/

namespace DocSearch

open Number

/-! ### Series -/

namespace Series

variable {α : Type} {labels other : List String} {start : α} {s : Series α}

theorem find?_insert_of_ne (h : key labels ≠ key other) (a : α) (s : Series α) :
    (insert labels a s).find? (fun t => key t.1 == key other) =
      s.find? fun t => key t.1 == key other := by
  have hnew : (key labels == key other) = false := beq_false_of_ne h
  induction s with
  | nil => simp [insert, hnew]
  | cons t ts ih =>
    rw [insert]
    split
    · rw [List.find?_cons_of_neg (by simp [hnew])]
    · rw [List.find?_cons, List.find?_cons, ih]

theorem find?_insert_self (h : s.has labels = false) (a : α) :
    (insert labels a s).find? (fun t => key t.1 == key labels) = some (labels, a) := by
  induction s with
  | nil => simp [insert]
  | cons t ts ih =>
    rw [has, List.any_cons, Bool.or_eq_false_iff] at h
    rw [insert]
    split
    · exact List.find?_cons_of_pos (beq_self_eq_true _)
    · rw [List.find?_cons_of_neg (by simp [h.1])]
      exact ih h.2

/-- A series that is changed where it stands keeps its labels, so it is found as before. -/
theorem find?_map_labels (p : List String → Bool) (g : List String → α → α) (s : Series α) :
    (s.map fun t => (t.1, g t.1 t.2)).find? (fun t => p t.1) =
      (s.find? fun t => p t.1).map fun t => (t.1, g t.1 t.2) := by
  rw [List.find?_map]
  rfl

/-- **A series after a change**: only what is under the labels of the change is changed. -/
theorem get_update (labels other : List String) (start : α) (f : α → α) (s : Series α) :
    (s.update labels start f).get other start =
      if key labels = key other then f (s.get other start) else s.get other start := by
  cases hhas : s.has labels with
  | true =>
    obtain ⟨t, ht, hkey⟩ := List.any_eq_true.mp hhas
    have hmap : s.update labels start f =
        s.map fun t => (t.1, if key t.1 == key labels then f t.2 else t.2) := by
      rw [update, if_pos hhas]
      exact List.map_congr_left fun t _ => by split <;> rfl
    rw [hmap, get, find?_map_labels (fun l => key l == key other)
      fun l a => if key l == key labels then f a else a, get]
    cases hfind : s.find? fun t => key t.1 == key other with
    | none =>
      -- Nothing is under the other labels, so they are not those of the change.
      have hne : key labels ≠ key other := by
        intro h
        rw [← h] at hfind
        exact List.find?_eq_none.mp hfind t ht hkey
      rw [if_neg hne]
      rfl
    | some u =>
      have hu : key u.1 = key other := by simpa using List.find?_some hfind
      simp only [Option.map_some, Option.getD_some, hu]
      exact if_congr (by rw [beq_iff_eq, eq_comm]) rfl rfl
  | false =>
    rw [update, if_neg (by simp [hhas])]
    by_cases h : key labels = key other
    · have hnone : s.find? (fun t => key t.1 == key other) = none := by
        rw [← h]
        exact List.find?_eq_none.mpr (by simpa [has] using hhas)
      rw [if_pos h, get, get, hnone, ← h, find?_insert_self hhas]
      rfl
    · rw [if_neg h, get, get, find?_insert_of_ne h]

@[simp] theorem key_singleton_inj {a b : String} : key [a] = key [b] ↔ a = b := by
  simp [key, String.toList_inj]

end Series

/-! ### Doubles -/

/-- The limit up to which doubles count one by one. -/
def Metrics.exactLimit : Nat := 9007199254740992

/-- Up to the limit rounding changes nothing. -/
theorem roundToDouble_of_le {n : Nat} (h : n ≤ Metrics.exactLimit) : roundToDouble n = n := by
  rcases Nat.lt_or_eq_of_le h with h | rfl
  · exact roundToDouble_of_lt h
  · decide

@[simp] theorem Histogram.sum_observe (n : Nat) (h : Histogram) :
    (h.observe n).sum = roundToDouble (h.sum + roundToDouble n) := rfl

/-! ### Changes of one figure -/

namespace Change

/-- A search of the kind has come out in the given way. -/
def counts (kind outcome : String) : Change → Bool
  | .counted k o => Series.key [k, o] == Series.key [kind, outcome]
  | _ => false

/-- A search of the kind has been timed. -/
def times (kind : String) : Change → Bool
  | .timed k => k == kind
  | _ => false

/-- The hits that a search of the kind has given. -/
def hits? (kind : String) : Change → Option Nat
  | .returned k n => if k = kind then some n else none
  | _ => none

end Change

namespace Metrics

theorem requests_change (kind outcome : String) (m : Metrics) (c : Change) :
    (m.change c).requests kind outcome =
      if c.counts kind outcome then roundToDouble (m.requests kind outcome + 1)
      else m.requests kind outcome := by
  cases c with
  | counted k o =>
    rw [change, requests, Series.get_update]
    simp only [Change.counts, beq_iff_eq]
    rfl
  | _ => rfl

theorem timed_change (kind : String) (m : Metrics) (c : Change) :
    (m.change c).timed kind = if c.times kind then m.timed kind + 1 else m.timed kind := by
  cases c with
  | timed k =>
    rw [change, timed, Series.get_update]
    simp only [Change.times, beq_iff_eq, Series.key_singleton_inj]
    rfl
  | _ => rfl

theorem hits_change (kind : String) (m : Metrics) (c : Change) :
    (m.change c).hits kind =
      match c.hits? kind with
      | some n => (m.hits kind).observe n
      | none => m.hits kind := by
  cases c with
  | returned k n =>
    rw [change, hits, Series.get_update, Change.hits?]
    simp only [Series.key_singleton_inj]
    split <;> rfl
  | _ => rfl

@[simp] theorem after_nil (m : Metrics) : m.after [] = m := rfl

@[simp] theorem after_cons (m : Metrics) (c : Change) (cs : List Change) :
    m.after (c :: cs) = (m.change c).after cs := rfl

theorem after_append (m : Metrics) (cs ds : List Change) :
    m.after (cs ++ ds) = (m.after cs).after ds := List.foldl_append ..

/-! ### Figures after a list of changes -/

variable {kind outcome : String}

/-- What no change counts stays as it is, also beyond the limit. -/
theorem requests_after_of_not_counted (cs : List Change) :
    ∀ m : Metrics, (∀ c ∈ cs, c.counts kind outcome = false) →
      (m.after cs).requests kind outcome = m.requests kind outcome := by
  induction cs with
  | nil => intro m _; rfl
  | cons c cs ih =>
    intro m h
    rw [after_cons, ih _ fun d hd => h d (List.mem_cons_of_mem _ hd), requests_change,
      h c List.mem_cons_self, if_neg Bool.false_ne_true]

/-- Searches of a kind are counted by how they came out. -/
theorem requests_after (cs : List Change) :
    ∀ m : Metrics, m.requests kind outcome + cs.countP (·.counts kind outcome) ≤ exactLimit →
      (m.after cs).requests kind outcome =
        m.requests kind outcome + cs.countP (·.counts kind outcome) := by
  induction cs with
  | nil => intro m _; rfl
  | cons c cs ih =>
    intro m h
    rw [List.countP_cons] at h ⊢
    have hchange := requests_change kind outcome m c
    cases hc : c.counts kind outcome with
    | false =>
      simp only [hc, Bool.false_eq_true, if_false, Nat.add_zero] at h hchange ⊢
      rw [after_cons, ih _ (by rw [hchange]; exact h), hchange]
    | true =>
      simp only [hc, if_true] at h hchange ⊢
      rw [roundToDouble_of_le (by omega)] at hchange
      rw [after_cons, ih _ (by omega), hchange]
      omega

theorem timed_after (cs : List Change) :
    ∀ m : Metrics, (m.after cs).timed kind = m.timed kind + cs.countP (·.times kind) := by
  induction cs with
  | nil => intro m; rfl
  | cons c cs ih =>
    intro m
    rw [after_cons, ih, timed_change, List.countP_cons]
    split <;> omega

theorem count_hits_after (cs : List Change) :
    ∀ m : Metrics, ((m.after cs).hits kind).count =
      (m.hits kind).count + (cs.filterMap (·.hits? kind)).length := by
  induction cs with
  | nil => intro m; rfl
  | cons c cs ih =>
    intro m
    rw [after_cons, ih, hits_change, List.filterMap_cons]
    cases c.hits? kind with
    | none => rfl
    | some n =>
      simp only [Histogram.observe, List.length_cons]
      omega

/-- The hits of the searches of a kind are added up. -/
theorem sum_hits_after (cs : List Change) :
    ∀ m : Metrics, (m.hits kind).sum + (cs.filterMap (·.hits? kind)).sum ≤ exactLimit →
      ((m.after cs).hits kind).sum = (m.hits kind).sum + (cs.filterMap (·.hits? kind)).sum := by
  induction cs with
  | nil => intro m _; rfl
  | cons c cs ih =>
    intro m h
    have hchange := hits_change kind m c
    rw [List.filterMap_cons] at h ⊢
    cases hc : c.hits? kind with
    | none =>
      simp only [hc] at h hchange ⊢
      rw [after_cons, ih _ (by rw [hchange]; exact h), hchange]
    | some n =>
      simp only [hc, List.sum_cons] at h hchange ⊢
      have hsum : ((m.change c).hits kind).sum = (m.hits kind).sum + n := by
        rw [hchange, Histogram.sum_observe, roundToDouble_of_le (n := n) (by omega),
          roundToDouble_of_le (by omega)]
      rw [after_cons, ih _ (by omega), hsum]
      omega

end Metrics

end DocSearch
