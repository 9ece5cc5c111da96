import DocSearch.CommandLine.Arguments

/-!
# Help

The help texts of the program: what it is for, how it is called, and a table of what may be
said to it.

## Main definitions

* `columns` — names and descriptions, side by side.
* `helpText` — the help on a topic.

## References

The descriptions of `Cli` and `Commands`, as the library that reads arguments lays them out.
-/

namespace DocSearch

/-- The name under which the program is called. -/
def programName : String := "fsearch"

/-- Names with descriptions, side by side. -/
def columns (rows : List (String × String)) : List String :=
  let width := (rows.map fun r => r.1.length).foldl max 0
  rows.map fun r => "  " ++ r.1 ++ String.ofList (List.replicate (width - r.1.length) ' ') ++
    "  " ++ r.2

namespace CommandOption

/-- What stands for the value of an option. -/
def valueName : CommandOption → String
  | .config => "CONFIG"
  | .node => "NODE"
  | .index => "INDEX"
  | .file => "FILE"
  | .json => "JSON"
  | .pageSize => "PAGE_SIZE"
  | .page => "PAGE"

/-- An option with its value. -/
def usage (o : CommandOption) : String :=
  String.ofList ['-', o.short] ++ ", " ++ o.flag ++ " <" ++ o.valueName ++ ">"

/-- The description of an option that may stand anywhere, with the value that a variable
gives to it. -/
def sharedAbout (node : String) : CommandOption → String
  | .config => "Configuration file (overrides FILTER_SEARCH_CONFIG)"
  | .node =>
    "Search cluster node (overrides configuration) [env: " ++ nodeVariable ++ "=" ++ node ++ "]"
  | .page => "[default: 0]"
  | _ => ""

/-- The description of an option of searches by filter. -/
def filterAbout (node : String) : CommandOption → String
  | .index => "Index to search (defaults to the configured index)"
  | .file => "Read the filter from a file"
  | .json => "Inline filter JSON"
  | o => o.sharedAbout node

end CommandOption

namespace Verb

/-- What a word asks for. -/
def about : Verb → String
  | .filter => "Search with a JSON filter document"
  | .text => "Free-text search across all fields"
  | .get => "Fetch one document by id"
  | .compile => "Print the cluster request a filter compiles to, without running it"

/-- The description of an option behind a word. -/
def optionAbout (node : String) : Verb → CommandOption → String
  | .filter, o => o.filterAbout node
  | _, o => o.sharedAbout node

end Verb

/-- What help is for. -/
def helpAbout : String := "Print this message or the help of the given subcommand(s)"

/-- The option that asks for help. -/
def helpRow : String × String := ("-h, --help", "Print help")

/-- The lines of the help on the program. -/
def programHelp (node : String) : List String :=
  ["Filter and free-text search over a document cluster", "",
    "Usage: " ++ programName ++ " [OPTIONS] <COMMAND>", "", "Commands:"] ++
    columns ((Verb.all.map fun v => (v.name, v.about)) ++ [("help", helpAbout)]) ++
    ["", "Options:"] ++
    columns ((CommandOption.shared.map fun o => (o.usage, o.sharedAbout node)) ++ [helpRow])

/-- The lines of the help on a word for what is asked. -/
def verbHelp (node : String) (v : Verb) : List String :=
  let operand := v.operandName?.map fun name => "<" ++ name ++ ">"
  [v.about, "",
    "Usage: " ++ programName ++ " " ++ v.name ++ " [OPTIONS]" ++
      (operand.map (" " ++ ·)).getD "", ""] ++
    (match operand with
    | some name => "Arguments:" :: columns [(name, "")] ++ [""]
    | none => []) ++
    "Options:" ::
      columns ((v.options.map fun o => (o.usage, v.optionAbout node o)) ++ [helpRow])

/-- The lines of the help on help. -/
def helpHelp : List String :=
  [helpAbout, "", "Usage: " ++ programName ++ " help [COMMAND]...", "", "Arguments:"] ++
    columns [("[COMMAND]...", "Print help for the subcommand(s)")]

/-- The help on a topic; a variable may name the node of the cluster. -/
def helpText (vars : List (String × String)) (topic : HelpTopic) : String :=
  let node := (vars.lookup nodeVariable).getD ""
  let lines :=
    match topic with
    | .program => programHelp node
    | .verb v => verbHelp node v
    | .help => helpHelp
  String.join (lines.map (· ++ "\n"))

end DocSearch
