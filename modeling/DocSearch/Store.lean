import DocSearch.Query.Match
import DocSearch.Service

/-!
# The store in memory

Documents kept by index, in the order in which they were added, which stands in for an
order of relevance.

## Main definitions

* `Store`, `Store.documents` — the store, and the documents of one index.
* `Store.add`, `Store.clear` — adding documents, all of a call or none, and dropping them.
* `Store.matching`, `Store.search` — the documents that answer a query, and a page of them.

## References

`InMemoryExecutor` with `index_documents`, `count`, `clear` and `execute`.
-/

namespace DocSearch

/-- A document to be stored, or why there is none. -/
abbrev Submitted := Except String Json

/-- The document of a submission; only objects are stored. -/
def storable : Submitted → Outcome Json
  | .error reason => .error (.invalidQuery (.unserializable reason))
  | .ok j => if j.isObject then .ok j else .error (.invalidQuery .notAnObject)

/-- The documents of submissions, up to the first fault. -/
def allStorable : List Submitted → Outcome (List Json)
  | [] => .ok []
  | d :: ds =>
    match storable d with
    | .error e => .error e
    | .ok j =>
      match allStorable ds with
      | .error e => .error e
      | .ok js => .ok (j :: js)

/-- Documents by index. -/
structure Store where
  /-- The documents of each index that there is. -/
  indexes : List (String × List Json)

namespace Store

/-- The store without documents. -/
def empty : Store := ⟨[]⟩

/-- The documents of an index, in the order of adding. -/
def documents (s : Store) (index : String) : List Json := (s.indexes.lookup index).getD []

/-- The store with the documents of one index replaced. -/
def set (s : Store) (index : String) (docs : List Json) : Store :=
  ⟨(index, docs) :: s.indexes.filter fun p => p.1 != index⟩

/-- The store with documents added to an index, unless one of them cannot be stored. -/
def add (s : Store) (index : String) (docs : List Submitted) : Outcome Store :=
  match allStorable docs with
  | .error e => .error e
  | .ok js => .ok (s.set index (s.documents index ++ js))

/-- The number of documents of an index. -/
def count (s : Store) (index : String) : Nat := (s.documents index).length

/-- The store without the documents of an index. -/
def clear (s : Store) (index : String) : Store :=
  ⟨s.indexes.filter fun p => p.1 != index⟩

/-- The documents of an index that answer a query, in order. -/
def matching (s : Store) (index : String) (q : Query) : List Json :=
  (s.documents index).filter q.matches

/-- The hits for a request. -/
def search (s : Store) (r : Request) : Hits :=
  let found := s.matching r.index r.query
  ⟨r.page.window found, found.length⟩

/-- The store as a backend. -/
def backend (s : Store) : Backend Id := ⟨"in_memory", fun r => .ok (s.search r)⟩

@[simp] theorem documents_empty (index : String) : empty.documents index = [] := rfl

/-- Looking up a name passes over entries of other names. -/
theorem lookup_filter_ne {name other : String} (h : name ≠ other)
    (ps : List (String × List Json)) :
    (ps.filter fun p => p.1 != other).lookup name = ps.lookup name := by
  induction ps with
  | nil => rfl
  | cons p ps ih =>
    obtain ⟨k, v⟩ := p
    by_cases hk : k = other
    · subst hk
      have : (name == k) = false := by simp [h]
      simp [List.lookup_cons, this, ih]
    · by_cases hn : name = k
      · subst hn
        simp [hk]
      · have : (name == k) = false := by simp [hn]
        simp [hk, List.lookup_cons, this, ih]

theorem lookup_filter_self (name : String) (ps : List (String × List Json)) :
    (ps.filter fun p => p.1 != name).lookup name = none := by
  induction ps with
  | nil => rfl
  | cons p ps ih =>
    obtain ⟨k, v⟩ := p
    by_cases hk : k = name
    · simp [hk, ih]
    · have : (name == k) = false := by simp [Ne.symm hk]
      simp [hk, List.lookup_cons, this, ih]

@[simp] theorem documents_set_self (s : Store) (index : String) (docs : List Json) :
    (s.set index docs).documents index = docs := by
  simp [documents, set]

theorem documents_set_ne (s : Store) {index other : String} (h : index ≠ other)
    (docs : List Json) : (s.set other docs).documents index = s.documents index := by
  have : (index == other) = false := by simp [h]
  simp [documents, set, List.lookup_cons, this, lookup_filter_ne h]

@[simp] theorem documents_clear_self (s : Store) (index : String) :
    (s.clear index).documents index = [] := by
  simp [documents, clear, lookup_filter_self]

theorem documents_clear_ne (s : Store) {index other : String} (h : index ≠ other) :
    (s.clear other).documents index = s.documents index := by
  simp [documents, clear, lookup_filter_ne h]

end Store

end DocSearch
