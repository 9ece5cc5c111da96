import DocSearch.Page
import DocSearch.Query.Basic

/-!
# Queries on the wire

The language in which queries are sent to a search cluster.

## Main definitions

* `Query.render` — a query in that language.
* `Request`, `Request.body` — a query on a page of an index, and what is sent for it.

## References

`search_body`, `render_query`, `render_bool`, `render_clause` and `render_multi_match`.
-/

namespace DocSearch

/-- A clause on the wire. -/
def Clause.render : Clause → Json
  | .equals field value => .object [("match", .object [(field, value.toJson)])]
  | .range field low high =>
    .object [("range", .object [(field, .object [("gte", low.toJson), ("lte", high.toJson)])])]

/-- A group on the wire; an empty one is left out. -/
def renderGroup (name : String) (clauses : List Clause) : List (String × Json) :=
  if clauses.isEmpty then [] else [(name, .array (clauses.map (·.render)))]

/-- A query on the wire. -/
def Query.render : Query → Json
  | .matchAll => .object [("match_all", .object [])]
  | .bool g =>
    .object [("bool", .object (renderGroup "must" g.must ++ renderGroup "must_not" g.mustNot))]
  | .multiMatch text fields =>
    .object
      [("multi_match",
        .object [("fields", .ofTexts fields), ("lenient", .bool true), ("query", .string text)])]

/-- A query on a page of an index. -/
structure Request where
  /-- The index. -/
  index : String
  /-- The query. -/
  query : Query
  /-- The page. -/
  page : Page

/-- What is sent for a request. -/
def Request.body (r : Request) : Json :=
  .object
    [("from", .ofNat r.page.offset), ("query", r.query.render),
      ("size", .ofNat r.page.size.toNat), ("track_total_hits", .bool true)]

end DocSearch
