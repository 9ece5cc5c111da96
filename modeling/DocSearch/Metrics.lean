import DocSearch.Error

/-!
# Metrics

The account of searches: how many of each kind came out how, how many were timed, and how
many hits the successful ones gave.

## Main definitions

* `Series` — values under labels, sorted by labels; `Series.key` tells one from another.
* `Histogram` — how many observations lie up to each of some bounds, and their sum.
* `Metrics`, `Change`, `Metrics.change` — the account, and changes of one figure in it.
* `Change.ofSearch`, `Metrics.record` — the changes for a search, all of them made at once.
* `Metrics.requests`, `Metrics.timed`, `Metrics.hits` — readings of the account.
* `Metrics.exposition` — the account in lines of text.

## References

`init_metrics`, `record_search` and `gather_metrics`, with the registry that they use.
-/

namespace DocSearch

open Number

/-! ### Values under labels -/

/-- Values under labels, sorted by labels. -/
abbrev Series (α : Type) := List (List String × α)

/-- The order of labels, value by value. -/
def labelOrder : List String → List String → Ordering
  | [], [] => .eq
  | [], _ :: _ => .lt
  | _ :: _, [] => .gt
  | a :: as, b :: bs => (Text.order a.toList b.toList).then (labelOrder as bs)

namespace Series

/-- What tells one series from another: the values of the labels run together. -/
def key (labels : List String) : List Char := labels.flatMap String.toList

/-- Adds a series at the place of its labels. -/
def insert (labels : List String) (a : α) : Series α → Series α
  | [] => [(labels, a)]
  | s :: ss =>
    if labelOrder labels s.1 = .lt then (labels, a) :: s :: ss else s :: insert labels a ss

/-- Whether there is a series with the key of some labels. -/
def has (labels : List String) (s : Series α) : Bool := s.any fun t => key t.1 == key labels

/-- Changes the value under some labels, which is `start` if there is none; a series keeps
the labels that it began with. -/
def update (labels : List String) (start : α) (f : α → α) (s : Series α) : Series α :=
  if s.has labels then s.map fun t => if key t.1 == key labels then (t.1, f t.2) else t
  else s.insert labels (f start)

/-- The value under some labels, or `start`. -/
def get (labels : List String) (start : α) (s : Series α) : α :=
  ((s.find? fun t => key t.1 == key labels).map (·.2)).getD start

end Series

/-! ### Observations -/

/-- A summary of observed numbers.  The counts go on without bound: that counters of 64 bits
wrap around is left out, here and in `Metrics.durations`. -/
structure Histogram where
  /-- Bounds, each with the number of observations up to it. -/
  buckets : List (Nat × Nat)
  /-- The number of observations. -/
  count : Nat
  /-- The sum of the observations, kept as a double. -/
  sum : Nat
  deriving DecidableEq, Repr

namespace Histogram

/-- The summary of no observations. -/
def empty (bounds : List Nat) : Histogram := ⟨bounds.map fun b => (b, 0), 0, 0⟩

/-- The summary with one more observation. -/
def observe (n : Nat) (h : Histogram) : Histogram where
  buckets := h.buckets.map fun b => (b.1, if n ≤ b.1 then b.2 + 1 else b.2)
  count := h.count + 1
  sum := roundToDouble (h.sum + roundToDouble n)

end Histogram

/-! ### The account -/

/-- The account of searches. -/
structure Metrics where
  /-- The number of searches by kind and outcome, kept as a double. -/
  requestsTotal : Series Nat
  /-- The number of timed searches by kind, counted without bound. -/
  durations : Series Nat
  /-- The hits of successful searches by kind. -/
  hitsReturned : Series Histogram

/-- A change of one figure of the account. -/
inductive Change
  /-- A search of a kind has come out in some way. -/
  | counted (kind outcome : String)
  /-- A search of a kind has been timed. -/
  | timed (kind : String)
  /-- A search of a kind has given so many hits. -/
  | returned (kind : String) (hits : Nat)
  deriving DecidableEq, Repr

namespace Metrics

/-- The account before any search. -/
def empty : Metrics := ⟨[], [], []⟩

/-- The bounds that hits are counted up to. -/
def hitBounds : List Nat := [0, 1, 5, 10, 25, 50, 100, 250, 1000]

/-- The outcome of a successful search. -/
def okOutcome : String := "ok"

/-- The account after a change. -/
def change (m : Metrics) : Change → Metrics
  | .counted kind outcome =>
    { m with
      requestsTotal :=
        Series.update [kind, outcome] 0 (fun n => roundToDouble (n + 1)) m.requestsTotal }
  | .timed kind => { m with durations := Series.update [kind] 0 (· + 1) m.durations }
  | .returned kind hits =>
    { m with
      hitsReturned :=
        Series.update [kind] (.empty hitBounds) (Histogram.observe hits) m.hitsReturned }

/-- The account after a list of changes. -/
def after (m : Metrics) (changes : List Change) : Metrics := changes.foldl change m

end Metrics

/-- The changes for a search: it is counted and timed, and when it succeeds so are its
hits. -/
def Change.ofSearch (kind outcome : String) (hits : Nat) : List Change :=
  if outcome = Metrics.okOutcome then
    [.counted kind outcome, .timed kind, .returned kind hits]
  else [.counted kind outcome, .timed kind]

namespace Metrics

/-- The account with one more search. -/
def record (m : Metrics) (kind outcome : String) (hits : Nat) : Metrics :=
  m.after (Change.ofSearch kind outcome hits)

/-- The number of searches of a kind that came out in a given way. -/
def requests (m : Metrics) (kind outcome : String) : Nat :=
  Series.get [kind, outcome] 0 m.requestsTotal

/-- The number of timed searches of a kind. -/
def timed (m : Metrics) (kind : String) : Nat := Series.get [kind] 0 m.durations

/-- The hits of the successful searches of a kind. -/
def hits (m : Metrics) (kind : String) : Histogram :=
  Series.get [kind] (.empty hitBounds) m.hitsReturned

/-! ### Exposition -/

/-- The value of a label with its escapes. -/
def labelText (s : String) : String :=
  String.ofList <| s.toList.flatMap fun c =>
    if c = '\\' then ['\\', '\\']
    else if c = '\n' then ['\\', 'n']
    else if c = '"' then ['\\', '"']
    else [c]

/-- Labels with their values, in braces. -/
def labelsText (names values : List String) : String :=
  "\x7b" ++
    ",".intercalate ((names.zip values).map fun p => p.1 ++ "=\"" ++ labelText p.2 ++ "\"") ++
    "\x7d"

/-- A number that is kept as a double. -/
def doubleText (n : Nat) : String :=
  String.ofList (((Binary64.ofInt? n).getD .zero).text .plain)

/-- The lines of a family, which is left out when it has no series. -/
def familyLines (name help type : String) (lines : List String) : List String :=
  if lines.isEmpty then []
  else
    ("# HELP filter_search_" ++ name ++ " " ++ help) ::
      ("# TYPE filter_search_" ++ name ++ " " ++ type) ::
        lines.map ("filter_search_" ++ name ++ ·)

/-- The lines of the summary under one label. -/
def histogramLines (kind : List String) (h : Histogram) : List String :=
  (h.buckets.map fun b =>
      "_bucket" ++ labelsText ["kind", "le"] (kind ++ [natString b.1]) ++ " " ++
        natString b.2) ++
    ["_bucket" ++ labelsText ["kind", "le"] (kind ++ ["+Inf"]) ++ " " ++ natString h.count,
      "_sum" ++ labelsText ["kind"] kind ++ " " ++ doubleText h.sum,
      "_count" ++ labelsText ["kind"] kind ++ " " ++ natString h.count]

/-- The account in lines of text; of the times only their number is told. -/
def exposition (m : Metrics) : List String :=
  familyLines "duration_seconds" "Search request duration in seconds" "histogram"
      (m.durations.map fun s => "_count" ++ labelsText ["kind"] s.1 ++ " " ++ natString s.2) ++
    familyLines "hits_returned" "Number of hits returned per search page" "histogram"
      (m.hitsReturned.flatMap fun s => histogramLines s.1 s.2) ++
    familyLines "requests_total" "Total number of search requests" "counter"
      (m.requestsTotal.map fun s =>
        labelsText ["kind", "outcome"] s.1 ++ " " ++ doubleText s.2)

end Metrics

end DocSearch
