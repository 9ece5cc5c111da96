import DocSearch.CommandLine.Error
import DocSearch.Settings.Environment
import DocSearch.Settings.Layers
import DocSearch.Settings.Search
import DocSearch.Toml.Reader

/-!
# Loading settings

Settings are loaded from three layers: the defaults, a file if one is named, and variables.
What the layers give together is then taken for the settings, and their bounds are checked.

## Main definitions

* `LogSettings`, `Settings` — the settings of the program.
* `Settings.ofSetting?` — the settings that a value stands for.
* `SettingsFault` — what can be wrong with settings.
* `Files`, `settingsFile` — the files, and the one that a path means.
* `Settings.ofLayers`, `Settings.load` — the settings of given layers; loading them.

## References

`Config`, `ObservabilityConfig`, and `load` with its defaults.
-/

namespace DocSearch

/-- The settings of the log and the metrics. -/
structure LogSettings where
  /-- The least level that is logged. -/
  logLevel : String := "info"
  /-- Whether the log is written as documents. -/
  jsonLogs : Bool := false
  /-- Whether searches are counted. -/
  metricsEnabled : Bool := true
  deriving DecidableEq, Repr

/-- The settings of the program. -/
structure Settings where
  /-- The settings of a search. -/
  search : SearchSettings := {}
  /-- The settings of the log and the metrics. -/
  observability : LogSettings := {}
  deriving DecidableEq, Repr

/-- Settings of the log and the metrics as a document. -/
def LogSettings.toJson (s : LogSettings) : Json :=
  .object
    [("json_logs", .bool s.jsonLogs), ("log_level", .string s.logLevel),
      ("metrics_enabled", .bool s.metricsEnabled)]

/-- Settings as a document. -/
def Settings.toJson (s : Settings) : Json :=
  .object [("observability", s.observability.toJson), ("search", s.search.toJson)]

/-! ### Values taken for settings -/

/-- The values of the fields of a record, by name from a table and by place from a list. -/
def Setting.fields? (names : List String) : Setting → Option (String → Option Setting)
  | .table es => some fun name => es.lookup name
  | .list vs => some fun name => (names.zip vs).lookup name
  | _ => none

/-- A field taken for a value, or its default. -/
def fieldOr (find : String → Option Setting) (name : String) (read : Setting → Option α)
    (default : α) : Option α :=
  match find name with
  | some v => read v
  | none => some default

/-- A backend by its name in any case, which may also be the only name of a table. -/
def BackendKind.ofSetting? : Setting → Option BackendKind
  | .text s => ofName? s
  | .table [e] => ofName? e.1
  | _ => none
where
  /-- A backend by its name in any case. -/
  ofName? (s : String) : Option BackendKind :=
    if Setting.lowered s = BackendKind.elasticsearch.name then some .elasticsearch
    else if Setting.lowered s = BackendKind.inMemory.name then some .inMemory
    else none

/-- The fields of the settings of a search, in order. -/
def SearchSettings.fieldNames : List String :=
  ["backend", "nodes", "username", "password", "security_enabled", "default_index",
    "default_page_size", "request_timeout_secs"]

/-- The settings of a search that a value stands for. -/
def SearchSettings.ofSetting? (v : Setting) : Option SearchSettings := do
  let find ← v.fields? fieldNames
  let d := standard
  return {
    backend := ← fieldOr find "backend" BackendKind.ofSetting? d.backend
    nodes := ← fieldOr find "nodes" Setting.toTexts? d.nodes
    username := ← fieldOr find "username" Setting.toOptionalText? d.username
    password := ← fieldOr find "password" Setting.toOptionalText? d.password
    securityEnabled := ← fieldOr find "security_enabled" Setting.toBool? d.securityEnabled
    defaultIndex := ← fieldOr find "default_index" Setting.toText? d.defaultIndex
    defaultPageSize :=
      ← fieldOr find "default_page_size" (fun v => v.toNat32?.map UInt32.ofNat)
        d.defaultPageSize
    requestTimeoutSecs :=
      ← fieldOr find "request_timeout_secs" (fun v => v.toNat64?.map UInt64.ofNat)
        d.requestTimeoutSecs }

/-- The fields of the settings of the log and the metrics, in order. -/
def LogSettings.fieldNames : List String := ["log_level", "json_logs", "metrics_enabled"]

/-- The settings of the log and the metrics that a value stands for. -/
def LogSettings.ofSetting? (v : Setting) : Option LogSettings := do
  let find ← v.fields? fieldNames
  let d : LogSettings := {}
  return {
    logLevel := ← fieldOr find "log_level" Setting.toText? d.logLevel
    jsonLogs := ← fieldOr find "json_logs" Setting.toBool? d.jsonLogs
    metricsEnabled := ← fieldOr find "metrics_enabled" Setting.toBool? d.metricsEnabled }

/-- The settings that a value stands for. -/
def Settings.ofSetting? (v : Setting) : Option Settings := do
  let find ← v.fields? ["search", "observability"]
  return {
    search := ← fieldOr find "search" SearchSettings.ofSetting? {}
    observability := ← fieldOr find "observability" LogSettings.ofSetting? {} }

/-! ### Layers -/

/-- The layer of the defaults. -/
def defaultLayer : List (String × Setting) :=
  [("search", .table
      [("backend", .text "elasticsearch"), ("nodes", .list [.text "http://localhost:9200"]),
        ("security_enabled", .bool false), ("default_index", .text "documents"),
        ("default_page_size", .integer 10), ("request_timeout_secs", .integer 30)]),
    ("observability", .table
      [("log_level", .text "info"), ("json_logs", .bool false),
        ("metrics_enabled", .bool true)])]

/-- What is wrong with settings. -/
inductive SettingsFault
  /-- The file is not there. -/
  | fileMissing (path : String)
  /-- The file is not of a known format. -/
  | unknownFormat (path : String)
  /-- The file is not well formed. -/
  | unreadable (path : String)
  /-- A value is not what a setting asks for. -/
  | wrongValue
  /-- The settings are out of their bounds. -/
  | outOfBounds (e : SearchError)

/-- The wording of a fault. -/
def SettingsFault.message : SettingsFault → String
  | .fileMissing path => "configuration file \"" ++ path ++ "\" not found"
  | .unknownFormat path =>
    "configuration file \"" ++ path ++ "\" is not of a registered file format"
  | .unreadable path => "configuration file \"" ++ path ++ "\" is not well formed"
  | .wrongValue => "a setting has a value of the wrong type"
  | .outOfBounds e => e.message

/-- The settings of layers, each laid over the ones before it. -/
def Settings.ofLayers (layers : List (List (String × Setting))) :
    Except SettingsFault Settings :=
  match ofSetting? (layers.foldl Setting.overlay (.table [])) with
  | none => .error .wrongValue
  | some s =>
    match s.search.check with
    | .error e => .error (.outOfBounds e)
    | .ok () => .ok s

/-! ### Files -/

/-- The texts of files by their paths. -/
abbrev Files (m : Type → Type) := String → m (Except InputFault String)

/-- The last name in a path, without slashes behind it, and what stands before it. -/
def splitPath (path : String) : List Char × List Char :=
  let body := path.toList.reverse.dropWhile (· == '/')
  ((body.dropWhile (· != '/')).reverse, (body.takeWhile (· != '/')).reverse)

/-- The extension of a name: what stands behind its last dot, unless that is its first
character. -/
def extension? (name : List Char) : Option (List Char) :=
  let ext := (name.reverse.takeWhile (· != '.')).reverse
  if ext.length + 1 < name.length then some ext else none

/-- The extension of files with settings. -/
def settingsExtension : List Char := "toml".toList

/-- The path with the extension of files with settings added to its last name. -/
def withSettingsExtension (path : String) : String :=
  let (folder, name) := splitPath path
  String.ofList (folder ++ name ++ '.' :: settingsExtension)

/-- The layer of the text of a file.  A byte order mark at the beginning of the file is not
part of the text, which may begin with a mark of its own. -/
def fileLayer (path text : String) : Except SettingsFault (List (String × Setting)) :=
  match Toml.read? (Toml.dropMark text.toList) with
  | some es => .ok es
  | none => .error (.unreadable path)

/-- The layer of the file that a path means: the file itself, which must have the extension
of files with settings, or the file with that extension added. -/
def settingsFile [Monad m] (files : Files m) (path : String) :
    m (Except SettingsFault (List (String × Setting))) := do
  match ← files path with
  | .ok text =>
    if extension? (splitPath path).2 = some settingsExtension then return fileLayer path text
    else return .error (.unknownFormat path)
  | .error _ =>
    if (splitPath path).2.isEmpty then return .error (.fileMissing path)
    let path := withSettingsExtension path
    match ← files path with
    | .ok text => return fileLayer path text
    | .error _ => return .error (.fileMissing path)

/-! ### All together -/

/-- The variable that names a file with settings. -/
def fileVariable : String := "FILTER_SEARCH_CONFIG"

/-- Loads the settings; `path` names a file with more right than a variable does. -/
def Settings.load [Monad m] (files : Files m) (vars : List (String × String))
    (path : Option String) : m (Except SettingsFault Settings) := do
  let environment := environmentLayer vars
  match path.or (vars.lookup fileVariable) with
  | none => return ofLayers [defaultLayer, environment]
  | some path =>
    match ← settingsFile files path with
    | .error e => return .error e
    | .ok layer => return ofLayers [defaultLayer, layer, environment]

end DocSearch
