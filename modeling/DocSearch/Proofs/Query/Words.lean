import DocSearch.Proofs.Json.Leaves
import DocSearch.Proofs.Service.Asking
import DocSearch.Proofs.Text.LowerCase

/-!
# Searching for words

A search for a text finds the documents in which one of its words occurs, in lower case, in
the text of a scalar.  So what is found depends on the words of the text and on the scalars
that are looked at, and on nothing else: two texts together find what either of them finds,
more fields find no less, and a document that grows is not lost.

Words and texts are lower-cased each on its own.  A word that stands in a text as it is may
therefore be missed, namely where a capital sigma ends the word but not the word of the text
that it stands in.

## Main definitions

* `Json.Offers` — the scalars of a document that a search in some fields looks at.
* `TextSearch.Finds` — what a text finds, whatever the page.

## Main results

* `Query.matches_multiMatch_iff` — **what a search for words finds.**
* `Query.fields_refine` — **more fields find no less, and all fields find most.**
* `TextSearch.finds_iff` — **what a text finds.**
* `TextSearch.finds_union_of_words` — **texts find what their words find**, their words alone.
* `TextSearch.occurrence_found` — **a word is found where it stands**, unless a sigma in it
  changes its form; `TextSearch.final_sigma_missed` is such a word.
-/

namespace DocSearch

/-! ### What is looked at -/

/-- The scalars of a document that a search in some fields looks at. -/
inductive Json.Offers (doc : Json) (fields : List String) (v : Scalar) : Prop
  /-- All of them, with the name that stands for every field. -/
  | all (h : allFields ∈ fields) (hv : doc.Contains v)
  /-- Those in one of the fields. -/
  | inField {field : String} {j : Json} (h : field ∈ fields) (hj : doc.Field field j)
      (hv : j.Contains v)

namespace Json

variable {doc : Json} {fields more : List String} {v : Scalar}

/-- More fields offer more scalars. -/
theorem Offers.mono (h : ∀ f ∈ fields, f ∈ more) (hv : doc.Offers fields v) :
    doc.Offers more v := by
  cases hv with
  | all hall hv => exact .all (h _ hall) hv
  | inField hf hj hv => exact .inField (h _ hf) hj hv

theorem Offers.contains (h : doc.Offers fields v) : doc.Contains v := by
  cases h with
  | all _ hv => exact hv
  | inField _ hj hv => exact hv.of_field hj

/-- The name that stands for every field offers the whole document. -/
theorem offers_iff_contains (h : allFields ∈ fields) : doc.Offers fields v ↔ doc.Contains v :=
  ⟨Offers.contains, .all h⟩

/-- Words are looked for in the texts of the scalars that are offered. -/
theorem mem_leavesIn_iff {t : List Char} :
    t ∈ leavesIn fields doc ↔ ∃ v, doc.Offers fields v ∧ v.searchText = t := by
  by_cases hall : allFields ∈ fields
  · have hany : fields.any (· == allFields) = true := by simpa using hall
    rw [leavesIn, if_pos hany, mem_leaves_iff]
    simp only [offers_iff_contains hall]
  · have hany : ¬ fields.any (· == allFields) = true := by simpa using hall
    rw [leavesIn, if_neg hany, List.mem_flatMap]
    constructor
    · rintro ⟨field, hfield, ht⟩
      cases hat : doc.at? field with
      | none =>
        rw [hat] at ht
        cases ht
      | some j =>
        rw [hat] at ht
        obtain ⟨v, hv, rfl⟩ := (mem_leaves_iff j).1 ht
        exact ⟨v, .inField hfield (at?_eq_some_iff.1 hat) hv, rfl⟩
    · rintro ⟨v, ⟨h, -⟩ | ⟨hfield, hj, hv⟩, rfl⟩
      · exact absurd h hall
      · refine ⟨_, hfield, ?_⟩
        rw [at?_eq_some_iff.2 hj]
        exact (mem_leaves_iff _).2 ⟨v, hv, rfl⟩

end Json

/-! ### What is found -/

theorem containsWord_iff {words leaves : List (List Char)} :
    containsWord words leaves = true ↔ ∃ leaf ∈ leaves, ∃ w ∈ words, w <:+: leaf := by
  simp only [containsWord, List.any_eq_true, Text.occursIn_iff]

namespace Query

/-- **What a search for words finds**: a document that offers a scalar in whose text a word
occurs in lower case. -/
theorem matches_multiMatch_iff {text : String} {fields : List String} {doc : Json} :
    (multiMatch text fields).matches doc = true ↔ ∃ w, Text.IsWord text.toList w ∧
      ∃ v, doc.Offers fields v ∧ Text.lower w <:+: v.searchText := by
  simp only [«matches», searchWords, containsWord_iff, Json.mem_leavesIn_iff, List.mem_map]
  constructor
  · rintro ⟨_, ⟨v, hv, rfl⟩, _, ⟨w, hw, rfl⟩, hin⟩
    exact ⟨w, Text.mem_words_iff.1 hw, v, hv, hin⟩
  · rintro ⟨w, hw, v, hv, hin⟩
    exact ⟨_, ⟨v, hv, rfl⟩, _, ⟨w, Text.mem_words_iff.2 hw, rfl⟩, hin⟩

theorem matches_multiMatch_mono {text : String} {fields more : List String}
    (h : ∀ f ∈ fields, f ∈ more) {doc : Json}
    (hdoc : (multiMatch text fields).matches doc = true) :
    (multiMatch text more).matches doc = true := by
  obtain ⟨w, hw, v, hv, hin⟩ := matches_multiMatch_iff.1 hdoc
  exact matches_multiMatch_iff.2 ⟨w, hw, v, hv.mono h, hin⟩

/-- All fields find what some fields find. -/
theorem matches_allFields {text : String} {fields : List String} {doc : Json}
    (hdoc : (multiMatch text fields).matches doc = true) :
    (multiMatch text [allFields]).matches doc = true := by
  obtain ⟨w, hw, v, hv, hin⟩ := matches_multiMatch_iff.1 hdoc
  exact matches_multiMatch_iff.2 ⟨w, hw, v, .all List.mem_cons_self hv.contains, hin⟩

/-- **A search in some fields refines the search in all fields.**  A document is found when a
word occurs in a scalar of one of the fields.  More fields find no less; all fields find what
any fields find; the name for every field makes the others idle; and the order of the fields
does not matter, nor how often they are named. -/
theorem fields_refine (text : String) (doc : Json) :
    (∀ fields, (multiMatch text fields).matches doc = true ↔ ∃ w, Text.IsWord text.toList w ∧
      ∃ v, doc.Offers fields v ∧ Text.lower w <:+: v.searchText) ∧
    (∀ fields more, (∀ f ∈ fields, f ∈ more) →
      (multiMatch text fields).matches doc = true →
        (multiMatch text more).matches doc = true) ∧
    (∀ fields, (multiMatch text fields).matches doc = true →
      (multiMatch text [allFields]).matches doc = true) ∧
    (∀ fields, allFields ∈ fields →
      (multiMatch text fields).matches doc = (multiMatch text [allFields]).matches doc) ∧
    ∀ fields others, (∀ f, f ∈ fields ↔ f ∈ others) →
      (multiMatch text fields).matches doc = (multiMatch text others).matches doc := by
  refine ⟨fun fields => matches_multiMatch_iff, fun fields more h => matches_multiMatch_mono h,
    fun fields => matches_allFields, fun fields h => ?_, fun fields others h => ?_⟩
  · have hback : ∀ f ∈ [allFields], f ∈ fields := fun f hf => List.mem_singleton.1 hf ▸ h
    exact Bool.eq_iff_iff.2 ⟨matches_allFields, matches_multiMatch_mono hback⟩
  · exact Bool.eq_iff_iff.2 ⟨matches_multiMatch_mono fun f => (h f).1,
      matches_multiMatch_mono fun f => (h f).2⟩

/-- A field behind dots, with a list in it; more fields, all fields among others, and the fields
in the other order. -/
theorem fields_refine_behind_dots :
    let doc := Json.object [("a", .object [("b", .array [.null, .string "Red brick"])])]
    (multiMatch "BRICK" ["a.b"]).matches doc = true ∧
      (multiMatch "BRICK" ["x", "a.b"]).matches doc = true ∧
        (multiMatch "BRICK" ["a.b", "x", "a.b"]).matches doc = true ∧
          (multiMatch "BRICK" ["x", "*"]).matches doc = true := by
  intro doc
  obtain ⟨-, hmore, hall, hidle, hsame⟩ := fields_refine "BRICK" doc
  have hdoc : (multiMatch "BRICK" ["a.b"]).matches doc = true := by decide +kernel
  have hbefore := hmore _ ["x", "a.b"] (by decide) hdoc
  have horder : ∀ f, f ∈ ["a.b", "x", "a.b"] ↔ f ∈ ["x", "a.b"] := by simp
  exact ⟨hdoc, hbefore, (hsame _ _ horder).trans hbefore,
    (hidle ["x", "*"] (by decide)).trans (hall _ hdoc)⟩

end Query

/-! ### Searches for a text -/

namespace TextSearch

/-- The search for the text, with some page, finds the document. -/
def Finds (text : String) (doc : Json) : Prop :=
  ∃ size number s, TextSearch.of text size number = .ok s ∧ s.query.matches doc = true

variable {text text' : String} {size number : UInt32} {s : TextSearch} {doc doc' : Json}

/-- Where a page holds results, exactly the texts with a word can be searched for. -/
theorem exists_of_iff (hsize : 0 < size.toNat) (number : UInt32) :
    (∃ s, TextSearch.of text size number = .ok s) ↔ ∃ w, Text.IsWord text.toList w := by
  have hpage := Page.of_eq_ok hsize number
  have hwords : Text.trim text.toList ≠ [] ↔ ∃ w, Text.IsWord text.toList w := by
    rw [ne_eq, Text.trim_eq_nil_iff, List.eq_nil_iff_forall_not_mem]
    simp only [not_forall, not_not, Text.mem_words_iff]
  simp only [of_eq_ok_iff, hpage, Except.ok.injEq, exists_and_left, exists_eq_left', exists_eq,
    and_true, hwords]

/-- What the search for a text finds, whatever its page. -/
theorem matches_iff (hs : TextSearch.of text size number = .ok s) :
    s.query.matches doc = true ↔ ∃ w, Text.IsWord text.toList w ∧
      ∃ v, doc.Contains v ∧ Text.lower w <:+: v.searchText := by
  obtain ⟨-, page, -, rfl⟩ := of_eq_ok_iff.1 hs
  simp only [Query.matches_multiMatch_iff, Json.offers_iff_contains List.mem_cons_self,
    String.toList_ofList, ← Text.mem_words_iff, Text.words_trim]

/-- **What a text finds**: the documents with a scalar in whose text one of its words occurs in
lower case. -/
theorem finds_iff : Finds text doc ↔ ∃ w, Text.IsWord text.toList w ∧
    ∃ v, doc.Contains v ∧ Text.lower w <:+: v.searchText := by
  constructor
  · rintro ⟨size, number, s, hs, hdoc⟩
    exact (matches_iff hs).1 hdoc
  · rintro ⟨w, hw, hin⟩
    have hsize : 0 < (1 : UInt32).toNat := by decide
    obtain ⟨s, hs⟩ := (exists_of_iff hsize 0).2 ⟨w, hw⟩
    exact ⟨1, 0, s, hs, (matches_iff hs).2 ⟨w, hw, hin⟩⟩

/-- More words find no less. -/
theorem Finds.mono (h : ∀ w, Text.IsWord text.toList w → Text.IsWord text'.toList w)
    (hdoc : Finds text doc) : Finds text' doc := by
  obtain ⟨w, hw, hin⟩ := finds_iff.1 hdoc
  exact finds_iff.2 ⟨w, h w hw, hin⟩

/-- A document that grows is found as before. -/
theorem Finds.grown (h : Relation.ReflTransGen Json.Grown doc doc') (hdoc : Finds text doc) :
    Finds text doc' := by
  obtain ⟨w, hw, v, hv, hin⟩ := finds_iff.1 hdoc
  exact finds_iff.2 ⟨w, hw, v, hv.of_reflTransGen h, hin⟩

/-- Two texts with blanks between them find what the one or the other finds. -/
theorem finds_append_iff {gap : String} (hne : gap ≠ "")
    (hgap : ∀ c ∈ gap.toList, Text.isBlank c = true) :
    Finds (text ++ gap ++ text') doc ↔ Finds text doc ∨ Finds text' doc := by
  have hlist : gap.toList ≠ [] := by simpa using hne
  have hwords : ∀ w, Text.IsWord (text ++ gap ++ text').toList w ↔
      Text.IsWord text.toList w ∨ Text.IsWord text'.toList w := fun w => by
    simp only [← Text.mem_words_iff, String.toList_append, Text.words_append_append hlist hgap,
      List.mem_append]
  simp only [finds_iff, hwords, or_and_right, exists_or]

/-- Blanks around a text change nothing. -/
theorem finds_around_iff {left right : String} (hleft : ∀ c ∈ left.toList, Text.isBlank c = true)
    (hright : ∀ c ∈ right.toList, Text.isBlank c = true) :
    Finds (left ++ text ++ right) doc ↔ Finds text doc := by
  have hwords : Text.words (left ++ text ++ right).toList = Text.words text.toList := by
    rw [String.toList_append, String.toList_append, Text.words_append_blanks hright,
      Text.words_blanks_append hleft]
  simp only [finds_iff, ← Text.mem_words_iff, hwords]

/-- **Texts find what their words find.**  Where a page holds results, exactly the texts without
a word cannot be searched for, and the page does not matter for what is found.  Two texts with
blanks between them find what the one or the other finds.  Only the words of a text matter, not
their order, not how often they are there, and not the blanks between them and around them; more
words find no less.  A document that grows is not lost. -/
theorem finds_union_of_words :
    (∀ (text : String) (size number : UInt32), 0 < size.toNat →
      ((∃ e, TextSearch.of text size number = .error e) ↔
        ¬ ∃ w, Text.IsWord text.toList w)) ∧
    (∀ (text : String) (size number : UInt32) (s : TextSearch),
      TextSearch.of text size number = .ok s →
        ∀ doc, s.query.matches doc = true ↔ Finds text doc) ∧
    (∀ text gap text' : String, gap ≠ "" → (∀ c ∈ gap.toList, Text.isBlank c = true) →
      ∀ doc, Finds (text ++ gap ++ text') doc ↔ Finds text doc ∨ Finds text' doc) ∧
    (∀ text text' : String, (∀ w, Text.IsWord text.toList w → Text.IsWord text'.toList w) →
      ∀ doc, Finds text doc → Finds text' doc) ∧
    (∀ text text' : String, (∀ w, Text.IsWord text.toList w ↔ Text.IsWord text'.toList w) →
      ∀ doc, Finds text doc ↔ Finds text' doc) ∧
    (∀ left text right : String, (∀ c ∈ left.toList, Text.isBlank c = true) →
      (∀ c ∈ right.toList, Text.isBlank c = true) →
        ∀ doc, Finds (left ++ text ++ right) doc ↔ Finds text doc) ∧
    ∀ text doc doc', Relation.ReflTransGen Json.Grown doc doc' → Finds text doc →
      Finds text doc' := by
  refine ⟨fun text size number hsize => ?_, fun text size number s hs doc => ?_,
    fun text gap text' hne hgap doc => finds_append_iff hne hgap,
    fun text text' h doc => Finds.mono h,
    fun text text' h doc => ⟨Finds.mono fun w => (h w).1, Finds.mono fun w => (h w).2⟩,
    fun left text right hleft hright doc => finds_around_iff hleft hright,
    fun text doc doc' => Finds.grown⟩
  · rw [← exists_of_iff hsize number]
    cases TextSearch.of text size number <;> simp
  · rw [matches_iff hs, finds_iff]

/-- A text of blanks only; and texts with a word among others and a document with one more item
in a list under a name. -/
theorem finds_union_of_words_no_break_space :
    let doc := Json.object [("a", .array [.string "Red brick"])]
    let doc' := Json.object [("a", .array [.string "Red brick", .number (.ofNat 7)])]
    (∃ e, TextSearch.of "\u00A0" 10 0 = .error e) ∧ Finds "BRICK" doc ∧
      Finds ("stone" ++ "\u00A0\n" ++ "BRICK") doc' ∧ Finds "BRICK stone BRICK" doc' ∧
        Finds (" " ++ "stone BRICK" ++ "\u3000") doc' := by
  intro doc doc'
  obtain ⟨hfails, hpage, hunion, hmore, hsame, haround, hgrows⟩ := finds_union_of_words
  have hgrown : Relation.ReflTransGen Json.Grown doc doc' :=
    .single (@Json.Grown.inMember [] [] "a" _ _ (.item [.string "Red brick"] _))
  have hbefore : Finds "BRICK" doc := (hpage "BRICK" 10 0 _ rfl doc).1 (by decide +kernel)
  have hbrick : Finds "BRICK" doc' := hgrows _ _ _ hgrown hbefore
  have hboth : Finds "stone BRICK" doc' := hmore "BRICK" _ (fun w hw => by
    have hmem : ∀ w ∈ Text.words "BRICK".toList, w ∈ Text.words "stone BRICK".toList := by decide
    exact Text.mem_words_iff.1 (hmem w (Text.mem_words_iff.2 hw))) doc' hbrick
  refine ⟨(hfails "\u00A0" 10 0 (by decide)).2 ?_, hbefore,
    (hunion "stone" "\u00A0\n" "BRICK" (by decide) (List.all_eq_true.1 (by decide)) doc').2
      (.inr hbrick),
    (hsame "stone BRICK" _ (fun w => ?_) doc').1 hboth,
    (haround " " "stone BRICK" "\u3000" (List.all_eq_true.1 (by decide))
      (List.all_eq_true.1 (by decide)) doc').2 hboth⟩
  · rintro ⟨w, hw⟩
    have hnone : Text.words "\u00A0".toList = [] := by decide
    rw [← Text.mem_words_iff, hnone] at hw
    cases hw
  · rw [← Text.mem_words_iff, ← Text.mem_words_iff,
      show Text.words "BRICK stone BRICK".toList =
        ["BRICK".toList, "stone".toList, "BRICK".toList] by decide,
      show Text.words "stone BRICK".toList = ["stone".toList, "BRICK".toList] by decide]
    simp only [List.mem_cons, List.not_mem_nil, or_false]
    rw [or_left_comm, or_self]

/-! ### Words that stand in a document -/

/-- **A word is found where it stands as it is**, if each capital sigma in it ends a word there
and by itself alike.  This is so where each sigma in the word, if there are any, has a letter
behind it in the word, and where the word stands between blanks or the ends of the text.  It is
what makes the lower-case form of the text, at that place, the one of the word. -/
theorem occurrence_found (hs : TextSearch.of text size number = .ok s) {leaf : String}
    (hleaf : doc.Contains (.text leaf)) {before w after : List Char}
    (hw : Text.IsWord text.toList w) (hat : leaf.toList = before ++ w ++ after) :
    (Text.KeepsForms before w after → s.query.matches doc = true) ∧
    ((∀ front back, w = front ++ 'Σ' :: back → Text.meetsCased back = true) →
      Text.KeepsForms before w after) ∧
    (Text.EndsBlank before → Text.BeginsBlank after → Text.KeepsForms before w after) ∧
    Text.lower leaf.toList = Text.lowerBetween [] before (w ++ after) ++
      Text.lowerBetween before.reverse w after ++
        Text.lowerAfter (w.reverse ++ before.reverse) after ∧
    (Text.lowerBetween before.reverse w after = Text.lower w ↔
      Text.KeepsForms before w after) := by
  refine ⟨fun h => ?_, fun h => Text.keepsForms_of_letters h before after,
    fun hbefore hafter => Text.keepsForms_of_blanks hbefore hafter w, ?_,
    Text.lowerBetween_eq_lower_iff⟩
  · refine (matches_iff hs).2 ⟨w, hw, .text leaf, hleaf, ?_⟩
    rw [Scalar.searchText, hat]
    exact Text.lower_infix_lower h
  · rw [hat, Text.lower_append]

/-- A word with a sigma at its end, between blanks, in a list. -/
theorem occurrence_found_whole_word :
    let doc := Json.object [("v", .array [.string "Η ΟΔΟΣ, ΑΣ"])]
    ∃ s, TextSearch.of " ΑΣ " 10 0 = .ok s ∧ s.query.matches doc = true := by
  intro doc
  have hleaf : doc.Contains (.text "Η ΟΔΟΣ, ΑΣ") :=
    .member List.mem_cons_self (.item List.mem_cons_self (.scalar rfl))
  have hw : Text.IsWord " ΑΣ ".toList "ΑΣ".toList := Text.mem_words_iff.1 (by decide)
  have hs : TextSearch.of " ΑΣ " 10 0 = .ok ⟨.multiMatch "ΑΣ" ["*"], ⟨10, 0, by decide⟩⟩ := rfl
  have hat : "Η ΟΔΟΣ, ΑΣ".toList = "Η ΟΔΟΣ, ".toList ++ "ΑΣ".toList ++ [] := by decide
  have hbefore : Text.EndsBlank "Η ΟΔΟΣ, ".toList := by
    intro c hc
    obtain rfl : ' ' = c := Option.some.inj hc
    decide
  have hafter : Text.BeginsBlank [] := by
    intro c hc
    cases hc
  obtain ⟨hfound, -, hblanks, -⟩ := occurrence_found hs hleaf hw hat
  exact ⟨_, hs, hfound (hblanks hbefore hafter)⟩

/-- A sigma at the end of the word alone is not found inside a word, where it has another form. -/
theorem final_sigma_missed :
    let doc := Json.object [("v", .string "ΑΣΑ")]
    ∃ s, TextSearch.of "ΑΣ" 10 0 = .ok s ∧ doc.Contains (.text "ΑΣΑ") ∧
      Text.IsWord "ΑΣ".toList "ΑΣ".toList ∧ "ΑΣ".toList <:+: "ΑΣΑ".toList ∧
        s.query.matches doc = false := by
  refine ⟨_, rfl, .member List.mem_cons_self (.scalar rfl), Text.mem_words_iff.1 (by decide),
    ⟨[], ['Α'], by decide⟩, by decide +kernel⟩

end TextSearch

end DocSearch
