import DocSearch.Proofs.Decoding.Basic
import DocSearch.Proofs.Decoding.Record
import DocSearch.Proofs.Filter.Wire

/-!
# Queries as documents and on the wire

A query is written in two ways.  As a document it keeps its shape: every clause names its
field and its values.  On the wire a group without clauses is left out, and the name of a
field, which is anything at all, stands where a keyword of the language could stand.

Both say the same.  A document is read back as the query with every moment as its text; and
two queries are alike on the wire exactly when they are alike as documents, which is when
nothing but moments in place of their texts tells them apart.

## Main results

* `Query.decode_toJson` — a query read back.
* `Clause.render_eq_iff`, `Query.render_eq_iff` — what is left of a query on the wire.
* `Query.forms_agree` — **a query, its document and its form on the wire say the same.**
-/

namespace DocSearch

/-! ### Reading back what was written -/

/-- A clause is read back settled. -/
theorem Clause.decode_toJson (c : Clause) : decode c.toJson = .ok c.settled := by
  cases c with
  | equals field value =>
    have hreads : equalsRecord.Reads [("field", .string field), ("value", value.serialized)]
        (.equals field value.settled) :=
      ((Record.Reads.field rfl (Decoder.text_string field)).both
        (Record.Reads.field rfl (Scalar.decode_serialized value))).map _
    exact hreads.ofMembers
  | range field low high =>
    have hreads : rangeRecord.Reads
        [("field", .string field), ("gte", low.serialized), ("lte", high.serialized)]
        (.range field low.settled high.settled) :=
      ((Record.Reads.field rfl (Decoder.text_string field)).both
        ((Record.Reads.field rfl (Scalar.decode_serialized low)).both
          (Record.Reads.field rfl (Scalar.decode_serialized high)))).map _
    exact hreads.ofMembers

theorem Groups.decode_toJson (g : Groups) (title : String) :
    record.decode title g.toJson = .ok g.settled := by
  have hreads : record.Reads [("must", .array (g.must.map (·.toJson))),
      ("must_not", .array (g.mustNot.map (·.toJson)))] g.settled :=
    ((Record.Reads.field rfl (Decoder.listOf_map Clause.decode_toJson g.must)).both
      (Record.Reads.field rfl (Decoder.listOf_map Clause.decode_toJson g.mustNot))).map _
  exact hreads.ofMembers

/-- **A query is read back settled.** -/
theorem Query.decode_toJson (q : Query) : decode q.toJson = .ok q.settled := by
  cases q with
  | matchAll => rfl
  | bool g =>
    have hchosen : decode (toJson (.bool g)) =
        (Groups.record.decode "BoolQuery" g.toJson).map .bool := rfl
    rw [hchosen, g.decode_toJson]
    rfl
  | multiMatch text fields =>
    have hfields : Decoder.listOf Decoder.text (.ofTexts fields) = .ok fields := by
      rw [Json.ofTexts, Decoder.listOf_map Decoder.text_string, List.map_id']
    have hreads : multiMatchRecord.Reads [("fields", .ofTexts fields), ("text", .string text)]
        (.multiMatch text fields) :=
      ((Record.Reads.field rfl (Decoder.text_string text)).both
        (Record.Reads.field rfl hfields)).map _
    exact hreads.ofMembers

/-! ### Settled queries as documents -/

theorem Clause.toJson_settled (c : Clause) : c.settled.toJson = c.toJson := by
  cases c <;> simp only [settled, toJson, Scalar.serialized_settled]

theorem Groups.toJson_settled (g : Groups) : g.settled.toJson = g.toJson := by
  simp only [settled, toJson, List.map_map, Function.comp_def, Clause.toJson_settled]

/-- A settled query is the same document. -/
theorem Query.toJson_settled (q : Query) : q.settled.toJson = q.toJson := by
  cases q with
  | bool g => exact congrArg (fun j => Json.object [("bool", j)]) g.toJson_settled
  | _ => rfl

/-! ### What is left of a query on the wire -/

theorem Json.ofTexts_inj {ss ts : List String} : ofTexts ss = ofTexts ts ↔ ss = ts := by
  rw [ofTexts, ofTexts, Json.array.injEq, List.map_inj_right fun _ _ => Json.string.inj]

/-- Two values are alike as documents exactly when they are once they are settled. -/
theorem Scalar.toJson_eq_iff {v w : Scalar} : v.toJson = w.toJson ↔ v.settled = w.settled := by
  constructor
  · intro h
    have hread : some v.settled = some w.settled := by
      rw [← ofJson?_toJson, ← ofJson?_toJson, h]
    exact Option.some.inj hread
  · intro h
    rw [← toJson_settled v, h, toJson_settled]

theorem Clause.render_eq_iff {c d : Clause} : c.render = d.render ↔ c.settled = d.settled := by
  cases c <;> cases d <;> simp [render, settled, Scalar.toJson_eq_iff]

theorem Clause.map_render_eq_iff {cs ds : List Clause} :
    cs.map (·.render) = ds.map (·.render) ↔ cs.map (·.settled) = ds.map (·.settled) := by
  induction cs generalizing ds with
  | nil => cases ds <;> simp
  | cons c cs ih =>
    cases ds with
    | nil => simp
    | cons d ds => simp only [List.map_cons, List.cons.injEq, render_eq_iff, ih]

/-- A group is found under its name; the one that is left out is the empty one. -/
theorem lookup_renderGroup (name : String) (cs : List Clause) {rest : List (String × Json)}
    (hrest : rest.lookup name = none) :
    ((renderGroup name cs ++ rest).lookup name).getD (.array []) =
      .array (cs.map (·.render)) := by
  cases cs with
  | nil => simp [renderGroup, hrest]
  | cons c cs => simp [renderGroup]

theorem lookup_renderGroup_of_ne {name other : String} (h : name ≠ other) (cs : List Clause)
    (rest : List (String × Json)) :
    (renderGroup other cs ++ rest).lookup name = rest.lookup name := by
  cases cs with
  | nil => rfl
  | cons c cs =>
    have hname : (name == other) = false := beq_false_of_ne h
    rw [renderGroup, List.isEmpty_cons, if_neg Bool.false_ne_true, List.cons_append,
      List.lookup_cons, hname]
    rfl

namespace Groups

theorem lookup_must (g : Groups) :
    ((renderGroup "must" g.must ++ renderGroup "must_not" g.mustNot).lookup "must").getD
      (.array []) = .array (g.must.map (·.render)) := by
  have hskip := lookup_renderGroup_of_ne (by decide : "must" ≠ "must_not") g.mustNot []
  rw [List.append_nil] at hskip
  exact lookup_renderGroup "must" g.must hskip

theorem lookup_mustNot (g : Groups) :
    ((renderGroup "must" g.must ++ renderGroup "must_not" g.mustNot).lookup "must_not").getD
      (.array []) = .array (g.mustNot.map (·.render)) := by
  have hfound := lookup_renderGroup "must_not" g.mustNot List.lookup_nil
  rwa [List.append_nil, ← lookup_renderGroup_of_ne (by decide : "must_not" ≠ "must") g.must]
    at hfound

/-- Groups that are alike on the wire are alike, though an empty one is left out there. -/
theorem settled_eq_of_render_eq {g h : Groups}
    (heq : renderGroup "must" g.must ++ renderGroup "must_not" g.mustNot =
      renderGroup "must" h.must ++ renderGroup "must_not" h.mustNot) :
    g.settled = h.settled := by
  -- An empty group is not there to be compared, but what is found under its name is.
  have hmust := g.lookup_must
  rw [heq, h.lookup_must] at hmust
  have hmustNot := g.lookup_mustNot
  rw [heq, h.lookup_mustNot] at hmustNot
  rw [settled, settled, Clause.map_render_eq_iff.1 (Json.array.inj hmust),
    Clause.map_render_eq_iff.1 (Json.array.inj hmustNot)]

end Groups

namespace Query

/-- **Queries are alike on the wire exactly when they are once they are settled.** -/
theorem render_eq_iff {q r : Query} : q.render = r.render ↔ q.settled = r.settled := by
  constructor
  · intro h
    cases q with
    | matchAll => cases r <;> simp [render] at h ⊢
    | bool g =>
      cases r with
      | bool g' =>
        have hgroups : g.settled = g'.settled :=
          Groups.settled_eq_of_render_eq (by simpa [render] using h)
        exact congrArg Query.bool hgroups
      | _ => simp [render] at h
    | multiMatch text fields =>
      cases r with
      | multiMatch text' fields' =>
        obtain ⟨rfl, rfl⟩ : fields = fields' ∧ text = text' := by
          simpa [render, Json.ofTexts_inj] using h
        rfl
      | _ => simp [render] at h
  · intro h
    rw [← q.render_settled, h, r.render_settled]

/-- Queries are alike as documents exactly when they are once they are settled. -/
theorem toJson_eq_iff {q r : Query} : q.toJson = r.toJson ↔ q.settled = r.settled := by
  constructor
  · intro h
    have hread : (.ok q.settled : Except DecodeError Query) = .ok r.settled := by
      rw [← q.decode_toJson, h, r.decode_toJson]
    exact Except.ok.inj hread
  · intro h
    rw [← q.toJson_settled, h, r.toJson_settled]

/-- **A query, its document and its form on the wire say the same.**  The document is read back
as the query with every moment as its text, which is the same on the wire; and two queries are
alike on the wire exactly when their documents are, so that nothing but moments in place of
their texts tells them apart. -/
theorem forms_agree (q : Query) :
    decode q.toJson = .ok q.settled ∧ q.settled.render = q.render ∧
      ∀ r : Query, (q.render = r.render ↔ q.toJson = r.toJson) ∧
        (q.render = r.render ↔ q.settled = r.settled) :=
  ⟨q.decode_toJson, q.render_settled, fun _ =>
    ⟨render_eq_iff.trans toJson_eq_iff.symm, render_eq_iff⟩⟩

end Query

end DocSearch
