import DocSearch.Cluster.Client
import DocSearch.CommandLine.Help
import DocSearch.Filter.Reader
import DocSearch.Settings.Load

/-!
# The program

A run of the program reads its arguments, loads the settings, carries out one command and
ends with a text to print or with an error.  Files and the way to a cluster are left to
functions, so that a run can be looked at as a value.

## Main definitions

* `Surroundings` — files, variables and the way to a cluster.
* `filterOf` — the filter of a command, from the text that was given or read.
* `Command.run` — a command carried out under settings.
* `Ending`, `Ending.exitCode` — how a run ends.
* `Surroundings.run` — a run of the program.

## References

`main`, `run`, `build_service`, `read_filter` and `print_json` of the command line.
-/

namespace DocSearch

/-- What is around a run of the program. -/
structure Surroundings (m : Type → Type) where
  /-- The files. -/
  files : Files m
  /-- The variables. -/
  vars : List (String × String)
  /-- The way of carrying messages to a cluster. -/
  carry : Cluster.Carrier m

/-- The outcome of a step of a command. -/
abbrev CommandOutcome (α : Type) := Except CommandError α

/-- The outcome of a step of a search as one of a command. -/
def CommandOutcome.ofSearch : Outcome α → CommandOutcome α
  | .ok a => .ok a
  | .error e => .error (.search e)

/-! ### Filters -/

/-- The text that a filter is taken from, if there is one. -/
def FilterSource.read [Monad m] (files : Files m) :
    FilterSource → m (Except InputFault (Option String))
  | .absent => pure (.ok none)
  | .text s => pure (.ok (some s))
  | .file path => do return (← files path).map some

/-- The filter of a text, or the filter without predicates. -/
def filterOf : Except InputFault (Option String) → CommandOutcome Filter
  | .error fault => .error (.input fault)
  | .ok none => .ok .empty
  | .ok (some s) =>
    match Json.read? s.toList with
    | none => .error (.serialization "text is not a document")
    | some j => .ofSearch (Filter.ofJson j)

/-! ### Commands -/

/-- The service that settings ask for, with its backend. -/
def serviceOf [Monad m] (carry : Cluster.Carrier m) (s : SearchSettings) :
    Outcome (Service × Backend m) :=
  match backendOf carry s with
  | .error e => .error e
  | .ok backend =>
    match { ServiceSetup.standard with pageSize := s.defaultPageSize }.build with
    | .error e => .error e
    | .ok service => .ok (service, backend)

/-- A search under settings. -/
def SearchSettings.ask [Monad m] (carry : Cluster.Carrier m) (s : SearchSettings)
    (search : Search) : m (Outcome (ResultPage Json)) :=
  match serviceOf carry s with
  | .error e => pure (.error e)
  | .ok (service, backend) => service.run backend .untyped search

/-- The request that a filter is compiled to, for the first page of an index. -/
def compiledRequest (s : SearchSettings) (index : String) (f : Filter) : Outcome Request :=
  match f.compile none with
  | .error e => .error e
  | .ok q =>
    match Page.first s.defaultPageSize with
    | .error e => .error e
    | .ok page => .ok ⟨index, q, page⟩

/-- A request as a document. -/
def Request.toJson (r : Request) : Json := .object [("body", r.body), ("index", .string r.index)]

/-- The search of a filter, once that has been read. -/
def Filter.ask [Monad m] (carry : Cluster.Carrier m) (s : SearchSettings)
    (size : Option UInt32) (number : UInt32) (index : Option String) (f : Filter) :
    m (Outcome (ResultPage Json)) :=
  s.ask carry
    (.paged f (size.getD s.defaultPageSize) number (index.getD s.defaultIndex))

/-- A command carried out under settings, with the document that it shows. -/
def Command.run [Monad m] (files : Files m) (carry : Cluster.Carrier m) (s : SearchSettings) :
    Command → m (CommandOutcome Json)
  | .filter source index size number => do
    match filterOf (← source.read files) with
    | .error e => return .error e
    | .ok f =>
      return (CommandOutcome.ofSearch (← f.ask carry s size number index)).map (·.toJson)
  | .text words index size number => do
    let search : Search :=
      .byText words (size.getD s.defaultPageSize) number (index.getD s.defaultIndex)
    return (CommandOutcome.ofSearch (← s.ask carry search)).map (·.toJson)
  | .get id index => do
    let search : Search := .byId (.text id) (index.getD s.defaultIndex)
    return (CommandOutcome.ofSearch (Service.found (← s.ask carry search))).map .ofOption
  | .compile source index => do
    match filterOf (← source.read files) with
    | .error e => return .error e
    | .ok f =>
      let request := compiledRequest s (index.getD s.defaultIndex) f
      return (CommandOutcome.ofSearch request).map (·.toJson)

/-! ### Runs -/

/-- How a run of the program ends. -/
inductive Ending
  /-- With a text. -/
  | shown (text : String)
  /-- With arguments that are not understood. -/
  | misused (fault : UsageFault)
  /-- Without settings. -/
  | unsettled (fault : SettingsFault)
  /-- With a command that fails. -/
  | failed (e : CommandError)

namespace Ending

/-- The error with which a run ends. -/
def error? : Ending → Option CommandError
  | .unsettled fault => some (.settings fault.message)
  | .failed e => some e
  | _ => none

/-- The code with which the program ends after arguments that are not understood. -/
def misuseCode : Nat := 2

/-- The code with which the program ends. -/
def exitCode : Ending → Nat
  | .shown _ => 0
  | .misused _ => misuseCode
  | e => (e.error?.map CommandError.exitCode).getD 0

/-- What the program prints. -/
def output : Ending → String
  | .shown text => text
  | _ => ""

/-- What the program says about an error. -/
def complaint? : Ending → Option String
  | .shown _ => none
  | .misused fault => some ("error: " ++ fault.message)
  | .unsettled fault =>
    some ("error: failed to load configuration: " ++ (CommandError.settings fault.message).message)
  | .failed e => some ("error: " ++ e.message)

end Ending

/-- The settings of a search, with a node that counts more than those of the settings. -/
def Settings.searchWith (s : Settings) (node : Option String) : SearchSettings :=
  match node with
  | some node => s.search.withNode node
  | none => s.search

/-- An invocation carried out. -/
def Invocation.run [Monad m] (w : Surroundings m) (i : Invocation) : m Ending := do
  match ← Settings.load w.files w.vars i.config with
  | .error fault => return .unsettled fault
  | .ok settings =>
    match ← i.command.run w.files w.carry (settings.searchWith i.node) with
    | .error e => return .failed e
    | .ok j => return .shown (String.ofList (j.prettyText 0) ++ "\n")

/-- A run of the program. -/
def Surroundings.run [Monad m] (w : Surroundings m) (args : List String) : m Ending :=
  match Invocation.ofArguments w.vars args with
  | .error (.help topic) => pure (.shown (helpText w.vars topic))
  | .error (.misuse fault) => pure (.misused fault)
  | .ok i => i.run w

end DocSearch
