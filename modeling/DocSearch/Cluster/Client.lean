import DocSearch.Cluster.Address
import DocSearch.Cluster.Reply
import DocSearch.Service
import DocSearch.Settings.Search
import DocSearch.Store

/-!
# Asking a cluster

A request for a page of an index becomes a message to the first node of a cluster; what
comes back of it becomes hits or an error.  How messages are carried is left to a function.

## Main definitions

* `Message`, `Exchange` — a message, and what comes back of it.
* `Client`, `Client.of` — a cluster as it is asked, from settings.
* `Client.message`, `Client.outcome` — the message of a request, and the outcome.
* `Client.backend`, `backendOf` — a cluster as a backend; the backend that settings ask for.

## References

`ElasticExecutor` with `new`, `search_url` and `execute`, and `create_executor`.
-/

namespace DocSearch

namespace Cluster

/-- A message to a cluster, always posted. -/
structure Message where
  /-- The address, to which the parameter in `target` comes. -/
  address : String
  /-- The path and the query with the parameter, unless the address has no host. -/
  target : Option String
  /-- The user and the password in their header. -/
  authorization : Option String
  /-- What is sent. -/
  body : Json

/-- What comes back of a message. -/
inductive Exchange
  /-- An answer with its status and its bytes, and with the text that these are by the character
  set of the answer. -/
  | answered (status : Nat) (body : List UInt8) (text : String)
  /-- An answer that breaks off behind its status. -/
  | brokenOff (status : Nat) (reason : String)
  /-- No answer in time. -/
  | timedOut
  /-- No connection. -/
  | unreachable (reason : String)

/-- A way of carrying messages. -/
abbrev Carrier (m : Type → Type) := Message → m Exchange

/-- A cluster as it is asked. -/
structure Client where
  /-- The address of its first node, without slashes at the end. -/
  baseUrl : String
  /-- The user and the password. -/
  credentials : Option (String × String)
  /-- The seconds after which a request is given up. -/
  timeoutSecs : UInt64

/-- The header for a user and a password. -/
def basicAuthorization (user password : String) : String :=
  "Basic " ++
    String.ofList (Text.base64 ((user.toList ++ ':' :: password.toList).flatMap Text.utf8Bytes))

namespace Client

/-- The cluster that settings describe.  That a client for messages cannot be set up at all,
which would be a fault of the configuration too, is left out. -/
def of (s : SearchSettings) : Outcome Client :=
  match s.baseUrl with
  | .error e => .error e
  | .ok baseUrl =>
    match s.credentials with
    | .error e => .error e
    | .ok credentials => .ok ⟨baseUrl, credentials, s.requestTimeoutSecs⟩

/-- The address for searches in an index. -/
def searchUrl (c : Client) (index : String) : String := c.baseUrl ++ "/" ++ index ++ "/_search"

/-- The parameter that makes a cluster pass over an index that it does not have. -/
def parameter : String := "ignore_unavailable=true"

/-- The message of a request. -/
def message (c : Client) (r : Request) : Message where
  address := c.searchUrl r.index
  target := (targetOf? (c.searchUrl r.index).toList parameter.toList).map String.ofList
  authorization := c.credentials.map fun p => basicAuthorization p.1 p.2
  body := r.body

/-- The outcome of a request, from what came back. -/
def outcome (c : Client) : Exchange → Outcome Hits
  | .timedOut => .error (.backendUnavailable (.timedOut c.timeoutSecs.toNat))
  | .unreachable reason => .error (.backendUnavailable (.unreachable reason))
  | .answered status body text =>
    if isSuccess status then hitsOfBody body
    else .error (.backendUnavailable (.rejected (statusText status) text))
  | .brokenOff status reason =>
    if isSuccess status then
      .error (.malformedResult 0 (.note ("undecodable search response: " ++ reason)))
    else .error (.backendUnavailable (.rejected (statusText status) ""))

/-- A cluster as a backend. -/
def backend [Monad m] (c : Client) (carry : Carrier m) : Backend m where
  name := "elasticsearch"
  execute r := do return c.outcome (← carry (c.message r))

end Client

end Cluster

/-- The backend that settings ask for; a store in memory is empty at first. -/
def backendOf [Monad m] (carry : Cluster.Carrier m) (s : SearchSettings) :
    Outcome (Backend m) :=
  match s.backend with
  | .elasticsearch =>
    match Cluster.Client.of s with
    | .error e => .error e
    | .ok c => .ok (c.backend carry)
  | .inMemory => .ok ⟨Store.empty.backend.name, fun r => pure (.ok (Store.empty.search r))⟩

end DocSearch
