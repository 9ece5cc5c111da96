import DocSearch.Proofs.Filter.Stored
import DocSearch.Proofs.Scalar.Views
import DocSearch.Proofs.Service.ById

/-!
# Searching for integers

Values that are written as integers are compared exactly as long as both of them fit 128 bits.
Filters and searches by id go by that comparison: a value is found by its integer, in whatever
way it is written, and never by another one, and a range goes from one integer to the other.

Longer integers are texts, and those are compared by the doubles nearest to them, so that two
different ones may count as equal; from some 310 digits on there is no double either, and they
are compared character by character, or not at all where the other one is a number.

## Main definitions

* `Json.Stores` — the scalar in a field of a document.
* `Scalar.SearchedExactly` — comparisons, filters and searches by id go by two integers.

## Main results

* `Scalar.order_of_denotes`, `Scalar.order_of_denotes_long` — the comparison up to 128 bits and
  beyond.
* `Scalar.searchedExactly_of_denotes` — **integers of up to 128 bits are searched exactly.**
* `Scalar.integers_searched` — **what integers of any length are compared by.**
-/

namespace DocSearch

open Number

/-! ### Comparing integers -/

namespace Scalar

variable {a b c : Scalar} {p q r : Int}

theorem Denotes.unique (hp : a.Denotes p) (hq : a.Denotes q) : p = q := by
  cases hp with
  | number wide =>
    cases hq
    rfl
  | text hp =>
    cases hq with
    | text hq =>
      rw [← integerOf?_eq_some_iff] at hp hq
      exact Option.some.inj (hp.symm.trans hq)

theorem Denotes.integer?_eq_none (ha : a.Denotes p) (hp : ¬ IsInt128 p) : a.integer? = none := by
  rcases hz : a.integer? with _ | z
  · rfl
  · obtain ⟨hz, hwide⟩ := integer?_eq_some_iff.1 hz
    exact absurd (hz.unique ha ▸ hwide) hp

/-- **Integers of up to 128 bits are compared exactly.** -/
theorem order_of_denotes (ha : a.Denotes p) (hb : b.Denotes q) (hp : IsInt128 p)
    (hq : IsInt128 q) : a.order b = some (compare p q) :=
  order_of_integers (integer?_eq_some_iff.2 ⟨ha, hp⟩) (integer?_eq_some_iff.2 ⟨hb, hq⟩)

/-- **Beyond 128 bits the doubles are compared**, or where there are none the texts. -/
theorem order_of_denotes_long (ha : a.Denotes p) (hb : b.Denotes q)
    (hlong : ¬ (IsInt128 p ∧ IsInt128 q)) :
    a.order b = (orderBy compare (nearestKey? p) (nearestKey? q)).or (plainOrder a b) := by
  have hinteger : orderBy compare a.integer? b.integer? = none := by
    by_cases hp : IsInt128 p
    · rw [hb.integer?_eq_none fun hq => hlong ⟨hp, hq⟩, orderBy_none]
    · rw [ha.integer?_eq_none hp]
      rfl
  have hreal : orderBy Binary64.order a.real? b.real? =
      orderBy compare (nearestKey? p) (nearestKey? q) := by
    rw [← ha.map_key_real?, ← hb.map_key_real?]
    cases a.real? <;> cases b.real? <;> rfl
  rw [order, hinteger, hreal, ha.moment?_eq_none, Option.none_or]
  rfl

theorem order_eq_lt_or_eq_iff (ha : a.Denotes p) (hb : b.Denotes q) (hp : IsInt128 p)
    (hq : IsInt128 q) : (a.order b = some .lt ∨ a.order b = some .eq) ↔ p ≤ q := by
  rw [order_of_denotes ha hb hp hq, Option.some.injEq, Option.some.injEq, Int.compare_eq_lt,
    Int.compare_eq_eq]
  omega

theorem within_iff_of_denotes (ha : a.Denotes p) (hb : b.Denotes q) (hc : c.Denotes r)
    (hp : IsInt128 p) (hq : IsInt128 q) (hr : IsInt128 r) : Within a b c ↔ p ≤ r ∧ r ≤ q := by
  rw [Within, order_eq_lt_or_eq_iff hc hb hr hq, order_of_denotes hc ha hr hp, Option.some.injEq,
    Option.some.injEq, Int.compare_eq_gt, Int.compare_eq_eq]
  omega

end Scalar

/-! ### Values in documents -/

/-- The field of a document holds a scalar, and no list. -/
def Json.Stores (doc : Json) (field : String) (v : Scalar) : Prop :=
  ∃ j, doc.Field field j ∧ Scalar.ofJson? j = some v

/-- A field with one scalar passes the tests that the scalar passes. -/
theorem Json.Stores.meets_iff {doc : Json} {fields : Option FieldTable} {name field : String}
    {v : Scalar} (h : doc.Stores field v) (hfield : StoredAs fields name field)
    {test : Scalar → Prop} : doc.Meets fields name test ↔ test v := by
  obtain ⟨j, hj, hv⟩ := h
  have harray : ∀ items, j ≠ .array items := by
    rintro items rfl
    cases hv
  rw [Predicate.meets_iff hfield]
  constructor
  · rintro ⟨j', s, hj', hs, ht⟩
    -- The field has one value, and that value reaches itself only.
    rw [← Json.at?_eq_some_iff] at hj hj'
    obtain rfl := Option.some.inj (hj.symm.trans hj')
    rw [Json.reaches_iff_of_ne_array harray, hv] at hs
    exact Option.some.inj hs ▸ ht
  · exact fun ht => ⟨j, v, hj, .scalar hv, ht⟩

/-! ### Filters and searches for integers -/

namespace Scalar

/-- Comparisons, filters and searches by id go by the integers `p` and `q` that `a` and `b`
are. -/
structure SearchedExactly (a b : Scalar) (p q : Int) : Prop where
  /-- The comparison is that of the integers. -/
  compared : a.order b = some (compare p q)
  /-- A filter for `a` matches a document that has `b` exactly when the integers are equal. -/
  equals : ∀ fields name field, storedName fields name = .ok field →
    ∃ query, Filter.compile fields ⟨[.equals name a]⟩ = .ok query ∧
      ∀ doc, doc.Stores field b → (query.matches doc = true ↔ p = q)
  /-- A search for the id `a` does not give a document with the id `b`, unless the integers are
  equal. -/
  byId : ∀ (α : Type) (s : Service) (store : Store) (type : DocumentType α) index x,
    Service.found (s.run store.backend type (.byId a index)) = .ok (some x) →
      ∃ doc ∈ store.documents index, type.decode doc = .ok x ∧
        ∀ field, storedName (s.tables.lookup type.name) idField = .ok field →
          doc.Stores field b → p = q
  /-- The range from `a` to `b` is accepted exactly when the integers are in order. -/
  accepted : ∀ fields name field, storedName fields name = .ok field →
    ((∃ query, Filter.compile fields ⟨[.between name a b]⟩ = .ok query) ↔ p ≤ q)
  /-- The range from `a` to `b` matches the documents with an integer between the two. -/
  between : ∀ fields name field query, storedName fields name = .ok field →
    Filter.compile fields ⟨[.between name a b]⟩ = .ok query →
      ∀ doc c r, doc.Stores field c → c.Denotes r → IsInt128 r →
        (query.matches doc = true ↔ p ≤ r ∧ r ≤ q)

section Search

variable {a b : Scalar} {p q : Int} {fields : Option FieldTable} {name field : String}

/-- An equality matches a document with one scalar exactly when the scalar is equal. -/
theorem matches_equals_iff (hname : storedName fields name = .ok field) {query : Query}
    (hquery : Filter.compile fields ⟨[.equals name a]⟩ = .ok query) {doc : Json}
    (hdoc : doc.Stores field b) : query.matches doc = true ↔ b.order a = some .eq :=
  (Filter.matches_single_iff hquery doc).trans (hdoc.meets_iff (storedName_eq_ok_iff.1 hname).2)

/-- A range matches a document with one scalar exactly when the scalar lies in it. -/
theorem matches_between_iff (hname : storedName fields name = .ok field) {query : Query}
    (hquery : Filter.compile fields ⟨[.between name a b]⟩ = .ok query) {doc : Json} {c : Scalar}
    (hdoc : doc.Stores field c) : query.matches doc = true ↔ Within a b c :=
  (Filter.matches_single_iff hquery doc).trans (hdoc.meets_iff (storedName_eq_ok_iff.1 hname).2)

/-- An equality on a field that there is compiles. -/
theorem exists_compile_equals (hname : storedName fields name = .ok field) :
    ∃ query, Filter.compile fields ⟨[.equals name a]⟩ = .ok query := by
  obtain ⟨hnamed, hstored⟩ := storedName_eq_ok_iff.1 hname
  exact Filter.exists_compile_single_iff.2 ⟨hnamed, ⟨field, hstored⟩, trivial⟩

/-- A range on a field that there is compiles exactly when its bounds are in order. -/
theorem exists_compile_between_iff (hname : storedName fields name = .ok field) :
    (∃ query, Filter.compile fields ⟨[.between name a b]⟩ = .ok query) ↔
      a.order b = some .lt ∨ a.order b = some .eq := by
  obtain ⟨hnamed, hstored⟩ := storedName_eq_ok_iff.1 hname
  rw [Filter.exists_compile_single_iff]
  exact ⟨fun h => h.ordered, fun h => ⟨hnamed, ⟨field, hstored⟩, h⟩⟩

/-- **Integers of up to 128 bits are searched exactly.** -/
theorem searchedExactly_of_denotes (ha : a.Denotes p) (hb : b.Denotes q) (hp : IsInt128 p)
    (hq : IsInt128 q) : SearchedExactly a b p q := by
  have hequal : b.order a = some .eq ↔ p = q := by
    rw [order_of_denotes hb ha hq hp, Option.some.injEq, Int.compare_eq_eq, eq_comm]
  refine ⟨order_of_denotes ha hb hp hq, ?_, ?_, ?_, ?_⟩
  · intro fields name field hname
    obtain ⟨query, hquery⟩ := exists_compile_equals (a := a) hname
    exact ⟨query, hquery, fun doc hdoc => (matches_equals_iff hname hquery hdoc).trans hequal⟩
  · intro α s store type index x hx
    obtain ⟨query, doc, hquery, hmem, hmatches, hdecode⟩ := Service.exists_match_of_found hx
    refine ⟨doc, hmem, hdecode, fun field hname hdoc => ?_⟩
    exact hequal.1 ((matches_equals_iff hname hquery hdoc).1 hmatches)
  · intro fields name field hname
    rw [exists_compile_between_iff hname, order_eq_lt_or_eq_iff ha hb hp hq]
  · intro fields name field query hname hquery doc c r hdoc hc hr
    rw [matches_between_iff hname hquery hdoc, within_iff_of_denotes ha hb hc hp hq hr]

/-- **What integers of any length are compared by.**  Two integers of up to 128 bits are compared,
filtered and searched exactly.  With a longer one the doubles nearest to the two are compared;
where one of them has none, two texts are compared character by character, and a text and a
number not at all. -/
theorem integers_searched (ha : a.Denotes p) (hb : b.Denotes q) :
    (IsInt128 p → IsInt128 q → SearchedExactly a b p q) ∧
      (¬ (IsInt128 p ∧ IsInt128 q) →
        a.order b = (orderBy compare (nearestKey? p) (nearestKey? q)).or (plainOrder a b)) :=
  ⟨searchedExactly_of_denotes ha hb, order_of_denotes_long ha hb⟩

/-- The largest integer of 128 bits as a text with a sign, zeros and blanks, and a number; and
the largest one next to the integer after it, which has the same double. -/
theorem integers_searched_largest :
    let largest : Scalar := .text " +00170141183460469231731687303715884105727 "
    let next : Scalar := .text "170141183460469231731687303715884105728"
    let minusOne : Scalar := .number (.integer (-1) (by decide))
    SearchedExactly minusOne largest (-1) 170141183460469231731687303715884105727 ∧
      largest.order next = some .eq := by
  intro largest next minusOne
  have hlargest : largest.Denotes 170141183460469231731687303715884105727 :=
    .text (integerOf?_eq_some_iff.1 (by decide +kernel))
  have hnext : next.Denotes 170141183460469231731687303715884105728 :=
    .text (integerOf?_eq_some_iff.1 (by decide +kernel))
  have hminus : minusOne.Denotes (-1) := .number _
  refine ⟨(integers_searched hminus hlargest).1 (by decide) (by decide), ?_⟩
  rw [(integers_searched hlargest hnext).2 (by decide)]
  decide +kernel

/-- Integers of more than 128 bits are confused: a search for the id of one of them gives the
document of the next one, and the range from one of 311 digits down to nine is accepted. -/
theorem long_integers_confused :
    let a : Scalar := .text "170141183460469231731687303715884105728"
    let b : Scalar := .text "170141183460469231731687303715884105729"
    let doc : Json := .object [("id", .string "170141183460469231731687303715884105729")]
    let store : Store := ⟨[("docs", [doc])]⟩
    let huge : Scalar := .text (String.ofList ('1' :: List.replicate 310 '0'))
    (a.Denotes 170141183460469231731687303715884105728 ∧
      b.Denotes 170141183460469231731687303715884105729 ∧ a.order b = some .eq ∧
      doc.Stores idField b ∧ Service.found
        (Service.standard.run store.backend .untyped (.byId a "docs")) = .ok (some doc)) ∧
    huge.Denotes (tenTo 310) ∧ Scalar.Denotes (.text "9") 9 ∧
      huge.order (.text "9") = some .lt ∧
      ∃ query, Filter.compile none ⟨[.between "v" huge (.text "9")]⟩ = .ok query := by
  intro a b doc store huge
  have ha : a.Denotes 170141183460469231731687303715884105728 :=
    .text (integerOf?_eq_some_iff.1 (by decide +kernel))
  have hb : b.Denotes 170141183460469231731687303715884105729 :=
    .text (integerOf?_eq_some_iff.1 (by decide +kernel))
  have hhuge : huge.Denotes (tenTo 310) := by
    refine .text (integerOf?_eq_some_iff.1 ?_)
    rw [String.toList_ofList]
    decide +kernel
  have hnine : Scalar.Denotes (.text "9") 9 := .text (integerOf?_eq_some_iff.1 (by decide +kernel))
  -- There is no double for the long one, so the first characters decide.
  have hless : huge.order (.text "9") = some .lt := by
    rw [order_of_denotes_long hhuge hnine (by decide +kernel),
      nearestKey?_of_le (Int.natAbs_natCast _).ge]
    simp only [huge, orderBy, plainOrder, String.toList_ofList, Option.none_or]
    rfl
  have hname : storedName none "v" = .ok "v" := rfl
  have hquery : Service.standard.compile DocumentType.untyped.name (.ofId a) =
      .ok (.bool ⟨[.equals "id" a], []⟩) := by decide +kernel
  have hmatches : (Query.bool ⟨[.equals "id" a], []⟩).matches doc = true := by decide +kernel
  refine ⟨⟨ha, hb, by decide +kernel, ⟨_, .member rfl, rfl⟩, ?_⟩, hhuge, hnine, hless,
    (exists_compile_between_iff hname).2 (.inl hless)⟩
  have hfound : store.matching "docs" (.bool ⟨[.equals "id" a], []⟩) = [doc] := by
    have hdocs : store.documents "docs" = [doc] := rfl
    rw [Store.matching, hdocs, List.filter_cons_of_pos hmatches, List.filter_nil]
  rw [Service.found_byId (by decide) hquery, hfound]
  rfl

end Search

end Scalar

end DocSearch
