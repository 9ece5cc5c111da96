import DocSearch.Decoding.Choice
import DocSearch.Error

/-!
# Settings of a search

Which backend is asked, how it is reached, and what a search uses that does not say more.

## Main definitions

* `BackendKind` — the backends.
* `SearchSettings` — the settings, with their defaults.
* `SearchSettings.toJson`, `SearchSettings.decode` — settings as documents.
* `SearchSettings.broken`, `SearchSettings.check` — the bounds that settings keep.
* `SearchSettings.credentials` — the user and the password, where they are needed.
* `SearchSettings.baseUrl` — where requests go.

## References

`SearchConfig` with `check` and `credentials`, and `SearchBackend`.
-/

namespace DocSearch

/-- The backends. -/
inductive BackendKind
  /-- A search cluster. -/
  | elasticsearch
  /-- The store in memory. -/
  | inMemory
  deriving DecidableEq, Repr

namespace BackendKind

/-- The name of a backend in settings. -/
def name : BackendKind → String
  | .elasticsearch => "elasticsearch"
  | .inMemory => "in_memory"

/-- A backend by its name. -/
def decode : Decoder BackendKind :=
  Chosen.decode
    [("elasticsearch", Chosen.unit .elasticsearch), ("in_memory", Chosen.unit .inMemory)]

end BackendKind

/-- The settings of a search. -/
structure SearchSettings where
  /-- The backend. -/
  backend : BackendKind := .elasticsearch
  /-- The addresses of the nodes of a cluster. -/
  nodes : List String := ["http://localhost:9200"]
  /-- The user. -/
  username : Option String := none
  /-- The password. -/
  password : Option String := none
  /-- Whether the user and the password are sent. -/
  securityEnabled : Bool := false
  /-- The index of a search that names none. -/
  defaultIndex : String := "documents"
  /-- The number of results on a page of a search that names none. -/
  defaultPageSize : UInt32 := 10
  /-- The seconds after which a request is given up. -/
  requestTimeoutSecs : UInt64 := 30
  deriving DecidableEq, Repr

namespace SearchSettings

/-- The settings to start with. -/
def standard : SearchSettings := {}

/-- An optional text as a document. -/
def optionalText (s : Option String) : Json := .ofOption (s.map .string)

/-- Settings as a document. -/
def toJson (s : SearchSettings) : Json :=
  .object
    [("backend", .string s.backend.name), ("default_index", .string s.defaultIndex),
      ("default_page_size", .ofNat s.defaultPageSize.toNat), ("nodes", .ofTexts s.nodes),
      ("password", optionalText s.password),
      ("request_timeout_secs", .ofNat s.requestTimeoutSecs.toNat),
      ("security_enabled", .bool s.securityEnabled), ("username", optionalText s.username)]

/-- The fields of the settings, each with its default. -/
def record : Record SearchSettings :=
  let d := standard
  ((Record.optional "backend" BackendKind.decode d.backend).both
    ((Record.optional "nodes" (Decoder.listOf Decoder.text) d.nodes).both
      ((Record.optional "username" (Decoder.optional Decoder.text) d.username).both
        ((Record.optional "password" (Decoder.optional Decoder.text) d.password).both
          ((Record.optional "security_enabled" Decoder.bool d.securityEnabled).both
            ((Record.optional "default_index" Decoder.text d.defaultIndex).both
              ((Record.optional "default_page_size" Decoder.word d.defaultPageSize).both
                (Record.optional "request_timeout_secs"
                  (fun j => (Decoder.nat64 j).map UInt64.ofNat) d.requestTimeoutSecs)))))))).map
    fun (backend, nodes, username, password, secure, index, size, timeout) =>
      ⟨backend, nodes, username, password, secure, index, size, timeout⟩

/-- Settings from a document. -/
def decode : Decoder SearchSettings := record.decode "SearchConfig"

/-! ### Changes -/

/-- The settings with a single node. -/
def withNode (s : SearchSettings) (node : String) : SearchSettings := { s with nodes := [node] }

/-- The settings with a user and a password, which are sent. -/
def withCredentials (s : SearchSettings) (user password : String) : SearchSettings :=
  { s with username := some user, password := some password, securityEnabled := true }

/-! ### Rules -/

/-- The bounds that settings break, by name. -/
def broken (s : SearchSettings) : List String :=
  (if s.defaultIndex.isEmpty then ["default_index:length"] else []) ++
    (if s.defaultPageSize.toNat = 0 then ["default_page_size:range"] else []) ++
    (if s.requestTimeoutSecs.toNat = 0 then ["request_timeout_secs:range"] else [])

/-- Accepts settings that break no bounds. -/
def check (s : SearchSettings) : Outcome Unit :=
  if s.broken.isEmpty then .ok () else .error (.configuration (.outOfBounds s.broken))

/-- Whether a text has no content. -/
def isBlank (s : String) : Bool := Text.isBlankText s.toList

/-- The user and the password, where they are sent. -/
def credentials (s : SearchSettings) : Outcome (Option (String × String)) :=
  if !s.securityEnabled then .ok none
  else
    match s.username, s.password with
    | some user, some password =>
      if isBlank user || isBlank password then .error (.configuration .credentialsMissing)
      else .ok (some (user, password))
    | _, _ => .error (.configuration .credentialsMissing)

/-- The address that requests go to, of the first node. -/
def baseUrl (s : SearchSettings) : Outcome String :=
  match s.nodes with
  | [] => .error (.configuration .nodeMissing)
  | node :: _ =>
    .ok (String.ofList ((node.toList.reverse.dropWhile (· == '/')).reverse))

end SearchSettings

end DocSearch
