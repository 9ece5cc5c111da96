import DocSearch.Scalar

/-!
# Errors of a search

What can go wrong between a filter and a page of results, with the code and the wording of
each error.  Every sort of error carries its cause; `note` stands for a cause that is only
known by its wording.

## Main definitions

* `FilterFault`, `QueryFault`, `BackendFault`, `ResultFault`, `SetupFault` — the causes.
* `SearchError` — the errors.
* `SearchError.code`, `SearchError.message` — how they are told.
* `SearchError.beforeBackend` — the errors that arise before the backend is asked.

## References

`SearchError` with `error_code` and `is_compile_error`, and the texts of the faults where they
arise.
-/

namespace DocSearch

/-- What is wrong with a filter. -/
inductive FilterFault
  /-- The text of the filter is no document. -/
  | notADocument
  /-- The document is neither an object nor a list. -/
  | notAFilter
  /-- The member `filters` is no list. -/
  | filtersNotAList
  /-- A predicate has no kind. -/
  | kindMissing
  /-- A predicate is not formed as its kind asks for. -/
  | undecodable (e : DecodeError)
  /-- A predicate names no field. -/
  | blankName
  /-- A range begins above its end. -/
  | inverted (field : String) (low high : Scalar)
  /-- The ends of a range cannot be compared. -/
  | incomparable (field : String) (low high : Scalar)
  /-- Another cause. -/
  | note (text : String)
  deriving DecidableEq, Repr

/-- What is wrong with a query, or with documents to be stored. -/
inductive QueryFault
  /-- The text to search for has no content. -/
  | emptyText
  /-- A page holds no results. -/
  | zeroPageSize
  /-- The index has no name. -/
  | blankIndex
  /-- A document to be stored is no object. -/
  | notAnObject
  /-- A document to be stored has no form as a document. -/
  | unserializable (reason : String)
  /-- Another cause. -/
  | note (text : String)
  deriving DecidableEq, Repr

/-- Why the backend gave no results. -/
inductive BackendFault
  /-- No connection. -/
  | unreachable (reason : String)
  /-- No answer in time. -/
  | timedOut (seconds : Nat)
  /-- An answer with a status that is no success. -/
  | rejected (status : String) (body : String)
  /-- Another cause. -/
  | note (text : String)
  deriving DecidableEq, Repr

/-- What is wrong with a result. -/
inductive ResultFault
  /-- A document is not of the type asked for. -/
  | undecodable (e : DecodeError)
  /-- A hit comes without its document. -/
  | sourceMissing
  /-- The answer is no document. -/
  | notADocument
  /-- The answer is not formed as an answer. -/
  | unreadable (e : DecodeError)
  /-- Another cause. -/
  | note (text : String)
  deriving DecidableEq, Repr

/-- What is wrong with the way a search was set up. -/
inductive SetupFault
  /-- A field table with a name that has no content. -/
  | blankFieldName (entity : String)
  /-- A field table with two fields of one serialized name. -/
  | repeatedTarget (entity name : String)
  /-- A field table with two fields of one logical name. -/
  | repeatedName (entity name : String)
  /-- A field table without fields. -/
  | emptyTable (type : String)
  /-- Two field tables for one type. -/
  | repeatedType (type : String)
  /-- No node to send requests to. -/
  | nodeMissing
  /-- No user or password where they are needed. -/
  | credentialsMissing
  /-- Settings out of their bounds. -/
  | outOfBounds (rules : List String)
  /-- Another cause. -/
  | note (text : String)
  deriving DecidableEq, Repr

/-- The wording of a fault in a filter. -/
def FilterFault.message : FilterFault → String
  | .notADocument => "text is not a document"
  | .notAFilter => "filter must be an object or an array"
  | .filtersNotAList => "'filters' must be an array"
  | .kindMissing => "filter is missing a 'kind'"
  | .undecodable e => e.message
  | .blankName => "property name must not be empty"
  | .inverted field low high =>
    "range on '" ++ field ++ "' has lower bound " ++ low.display ++ " above upper bound " ++
      high.display
  | .incomparable field low high =>
    "range on '" ++ field ++ "' has incomparable bounds " ++ low.display ++ " and " ++
      high.display
  | .note text => text

/-- The wording of a fault in a query. -/
def QueryFault.message : QueryFault → String
  | .emptyText => "search text must not be empty"
  | .zeroPageSize => "page size must be greater than zero"
  | .blankIndex => "index name must not be empty"
  | .notAnObject => "documents must serialize to JSON objects"
  | .unserializable reason => "document could not be serialized: " ++ reason
  | .note text => text

/-- The wording of a fault of the backend. -/
def BackendFault.message : BackendFault → String
  | .unreachable reason => "failed to connect: " ++ reason
  | .timedOut seconds => "search request timed out after " ++ natString seconds ++ " seconds"
  | .rejected status body => "search cluster returned " ++ status ++ ": " ++ body
  | .note text => text

/-- The wording of a fault in a result. -/
def ResultFault.message : ResultFault → String
  | .undecodable e => e.message
  | .sourceMissing => "hit has no _source"
  | .notADocument => "undecodable search response: text is not a document"
  | .unreadable e => "undecodable search response: " ++ e.message
  | .note text => text

/-- The wording of a fault in the setup. -/
def SetupFault.message : SetupFault → String
  | .blankFieldName entity => "field map for " ++ entity ++ " contains an empty field name"
  | .repeatedTarget entity name =>
    "field map for " ++ entity ++ " maps more than one field to '" ++ name ++ "'"
  | .repeatedName entity name => "field map for " ++ entity ++ " declares '" ++ name ++ "' twice"
  | .emptyTable type => "field map for " ++ type ++ " is empty"
  | .repeatedType type => type ++ " is already registered"
  | .nodeMissing => "at least one search node must be configured"
  | .credentialsMissing => "search cluster user or password not found"
  | .outOfBounds rules => "settings out of bounds: " ++ ", ".intercalate rules
  | .note text => text

/-- An error of a search. -/
inductive SearchError
  /-- A predicate of a kind that there is not. -/
  | unsupportedKind (kind : String)
  /-- A filter that is not well formed. -/
  | invalidFilter (fault : FilterFault)
  /-- A field that the table of an entity does not list. -/
  | unknownField (entity field : String)
  /-- A query that is not well formed. -/
  | invalidQuery (fault : QueryFault)
  /-- A backend that gave no results. -/
  | backendUnavailable (fault : BackendFault)
  /-- A result that is not well formed. -/
  | malformedResult (position : Nat) (fault : ResultFault)
  /-- A search that was not set up well. -/
  | configuration (fault : SetupFault)
  deriving DecidableEq, Repr

namespace SearchError

/-- The code of an error. -/
def code : SearchError → String
  | .unsupportedKind _ => "UNSUPPORTED_FILTER_KIND"
  | .invalidFilter _ => "INVALID_FILTER"
  | .unknownField _ _ => "UNKNOWN_FIELD"
  | .invalidQuery _ => "INVALID_QUERY"
  | .backendUnavailable _ => "BACKEND_UNAVAILABLE"
  | .malformedResult _ _ => "MALFORMED_RESULT"
  | .configuration _ => "CONFIGURATION_ERROR"

/-- The wording of an error. -/
def message : SearchError → String
  | .unsupportedKind kind => "Unsupported filter kind: " ++ kind
  | .invalidFilter fault => "Invalid filter: " ++ fault.message
  | .unknownField entity field => "Unknown field '" ++ field ++ "' for entity " ++ entity
  | .invalidQuery fault => "Invalid query: " ++ fault.message
  | .backendUnavailable fault => "Search backend unavailable: " ++ fault.message
  | .malformedResult position fault =>
    "Malformed result at position " ++ natString position ++ ": " ++ fault.message
  | .configuration fault => "Invalid configuration: " ++ fault.message

/-- Whether an error arises before the backend is asked. -/
def beforeBackend : SearchError → Bool
  | .unsupportedKind _ => true
  | .invalidFilter _ => true
  | .unknownField _ _ => true
  | .invalidQuery _ => true
  | _ => false

/-- The errors that a backend may answer with. -/
def fromBackend : SearchError → Bool
  | .backendUnavailable _ => true
  | .malformedResult _ _ => true
  | _ => false

end SearchError

/-- The outcome of a step of a search. -/
abbrev Outcome (α : Type) := Except SearchError α

end DocSearch
