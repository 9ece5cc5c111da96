import DocSearch.Document.Basic
import DocSearch.Metrics
import DocSearch.Query.Compile
import DocSearch.Query.Wire

/-!
# The search service

Searches by filter, by id and by text over a backend, with the account of them.  A search
is first turned into a request, which asks nothing of the backend; then the backend is
asked once, and its hits are decoded.

## Main definitions

* `Search` — what can be asked for.
* `Service`, `ServiceSetup` — field tables by type and the standard page; how a service is
  set up.
* `Service.request` — the request of a search.
* `Service.run` — a search on a backend.
* `Service.runNoted`, `Service.runMetered` — the same with what it changes in the account.
* `Service.found` — the first result of a search, for searches by id.

## References

`SearchService` and `SearchServiceBuilder`, with `search_by_filter_paged`, `search_by_id`,
`search_by_text`, `run` and `execute`.
-/

namespace DocSearch

/-- Something that answers requests. -/
structure Backend (m : Type → Type) where
  /-- The name of the backend. -/
  name : String
  /-- The answer to a request. -/
  execute : Request → m (Outcome Hits)

/-- A search. -/
inductive Search
  /-- The first page of the documents that match a filter. -/
  | filtered (filter : Filter) (index : String)
  /-- A page of the documents that match a filter. -/
  | paged (filter : Filter) (size number : UInt32) (index : String)
  /-- The document of an id. -/
  | byId (id : Scalar) (index : String)
  /-- A page of the documents with a word of a text. -/
  | byText (text : String) (size number : UInt32) (index : String)

/-- The kind of searches by filter. -/
def filterKind : String := "filter"

/-- The kind of searches by id. -/
def idKind : String := "id"

/-- The kind of searches by text. -/
def textKind : String := "text"

/-- The kind of a search. -/
def Search.kind : Search → String
  | .filtered _ _ => filterKind
  | .paged _ _ _ _ => filterKind
  | .byId _ _ => idKind
  | .byText _ _ _ _ => textKind

/-- The field that holds the id of a document. -/
def idField : String := "id"

/-- The filter for the document of an id. -/
def Filter.ofId (id : Scalar) : Filter := ⟨[.equals idField id]⟩

/-- A service. -/
structure Service where
  /-- Field tables by the name of a type.  Types are told apart by their names: two types of one
  name are one type here. -/
  tables : List (String × FieldTable)
  /-- The page of a search that names none. -/
  defaultPage : Page

/-- A service that is being set up. -/
structure ServiceSetup where
  /-- Field tables by the name of a type, which stands for the type. -/
  tables : List (String × FieldTable)
  /-- The number of results on a page of a search that names none. -/
  pageSize : UInt32

namespace ServiceSetup

/-- The setup to start with. -/
def standard : ServiceSetup := ⟨[], 10⟩

/-- The setup with the field table of one more type. -/
def register (s : ServiceSetup) (type : String) (table : FieldTable) : Outcome ServiceSetup :=
  if table.isEmpty then .error (.configuration (.emptyTable type))
  else if (s.tables.lookup type).isSome then .error (.configuration (.repeatedType type))
  else .ok { s with tables := (type, table) :: s.tables }

/-- The setup with several more field tables, up to the first that does not fit. -/
def registerAll (s : ServiceSetup) : List (String × FieldTable) → Outcome ServiceSetup
  | [] => .ok s
  | t :: ts =>
    match s.register t.1 t.2 with
    | .error e => .error e
    | .ok s => s.registerAll ts

/-- The service of a setup. -/
def build (s : ServiceSetup) : Outcome Service :=
  match Page.first s.pageSize with
  | .error e => .error e
  | .ok page => .ok ⟨s.tables, page⟩

end ServiceSetup

namespace Service

/-- The service without field tables and with ten results on a page. -/
def standard : Service := ⟨[], .standard⟩

/-- The query of a filter on documents of a type. -/
def compile (s : Service) (type : String) (f : Filter) : Outcome Query :=
  f.compile (s.tables.lookup type)

/-- The request for a page of an index. -/
def requestOn (index : String) (page : Page) (query : Outcome Query) : Outcome Request :=
  if isBlankName index then .error (.invalidQuery .blankIndex)
  else
    match query with
    | .error e => .error e
    | .ok q => .ok ⟨index, q, page⟩

/-- The request of a search for documents of a type. -/
def request (s : Service) (type : String) : Search → Outcome Request
  | .filtered f index => requestOn index s.defaultPage (s.compile type f)
  | .paged f size number index =>
    match Page.of size number with
    | .error e => .error e
    | .ok page => requestOn index page (s.compile type f)
  | .byId id index => requestOn index .single (s.compile type (.ofId id))
  | .byText text size number index =>
    match TextSearch.of text size number with
    | .error e => .error e
    | .ok t => requestOn index t.page (.ok t.query)

/-- The results for a request, from what the backend answered. -/
def finish (type : DocumentType α) (r : Request) (answer : Outcome Hits) :
    Outcome (ResultPage α) :=
  match answer with
  | .error e => .error e
  | .ok hits => hits.normalize type.decode r.page

/-- What a backend makes of a request, unless there is none. -/
def ask [Monad m] (backend : Backend m) (type : DocumentType α) :
    Outcome Request → m (Outcome (ResultPage α))
  | .error e => pure (.error e)
  | .ok r => do return finish type r (← backend.execute r)

/-- A search on a backend. -/
def run [Monad m] (s : Service) (backend : Backend m) (type : DocumentType α)
    (search : Search) : m (Outcome (ResultPage α)) :=
  ask backend type (s.request type.name search)

/-- The changes in the account for a search of a kind that comes to a result. -/
def changesFor (kind : String) : Outcome (ResultPage α) → List Change
  | .ok page => Change.ofSearch kind Metrics.okOutcome page.data.length
  | .error e => Change.ofSearch kind e.code 0

/-- A search of a kind for a page of an index, with its changes in the account. -/
def runOn [Monad m] (backend : Backend m) (type : DocumentType α) (kind index : String)
    (page : Page) (query : Outcome Query) : m (Outcome (ResultPage α) × List Change) := do
  let result ← ask backend type (requestOn index page query)
  return (result, changesFor kind result)

/-- A search of a kind that is over before it begins, with its changes in the account. -/
def refused (kind : String) (e : SearchError) : Outcome (ResultPage α) × List Change :=
  (.error e, Change.ofSearch kind e.code 0)

/-- A search on a backend, with its changes in the account.  A page or a text that is not
well formed is refused at once. -/
def runNoted [Monad m] (s : Service) (backend : Backend m) (type : DocumentType α) :
    Search → m (Outcome (ResultPage α) × List Change)
  | .filtered f index =>
    runOn backend type filterKind index s.defaultPage (s.compile type.name f)
  | .paged f size number index =>
    match Page.of size number with
    | .error e => pure (refused filterKind e)
    | .ok page => runOn backend type filterKind index page (s.compile type.name f)
  | .byId id index =>
    runOn backend type idKind index .single (s.compile type.name (.ofId id))
  | .byText text size number index =>
    match TextSearch.of text size number with
    | .error e => pure (refused textKind e)
    | .ok t => runOn backend type textKind index t.page (.ok t.query)

/-- A search on a backend, with its entry in the account. -/
def runMetered [Monad m] (s : Service) (backend : Backend m) (type : DocumentType α)
    (search : Search) (metrics : Metrics) : m (Outcome (ResultPage α) × Metrics) := do
  let noted ← s.runNoted backend type search
  return (noted.1, metrics.after noted.2)

/-- The first result of a search. -/
def found (result : Outcome (ResultPage α)) : Outcome (Option α) :=
  match result with
  | .error e => .error e
  | .ok page => .ok page.data.head?

end Service

end DocSearch
