/-!
# Commands

The program is asked for one of four things: the documents that match a filter, the
documents with a word of a text, the document of an id, or the request that a filter is
compiled to.

## Main definitions

* `CommandOption`, `Verb` — the options and the words for what is asked, with their names.
* `Verb.options` — the options that stand behind a word.
* `FilterSource` — where a filter is taken from.
* `Command`, `Invocation` — what the program is asked to do.

## References

`Cli` and `Commands`.
-/

namespace DocSearch

/-- An option of the program; each has a value. -/
inductive CommandOption
  /-- The file with settings. -/
  | config
  /-- The node of the cluster. -/
  | node
  /-- The index. -/
  | index
  /-- The file with the filter. -/
  | file
  /-- The text of the filter. -/
  | json
  /-- The number of results on a page. -/
  | pageSize
  /-- The number of the page. -/
  | page
  deriving DecidableEq, Repr

namespace CommandOption

/-- The name behind two dashes. -/
def long : CommandOption → String
  | .config => "config"
  | .node => "node"
  | .index => "index"
  | .file => "file"
  | .json => "json"
  | .pageSize => "page-size"
  | .page => "page"

/-- The letter behind one dash. -/
def short : CommandOption → Char
  | .config => 'c'
  | .node => 'n'
  | .index => 'i'
  | .file => 'f'
  | .json => 'j'
  | .pageSize => 's'
  | .page => 'p'

/-- The option as it is told to users. -/
def flag (o : CommandOption) : String := "--" ++ o.long

/-- The options that may stand before and behind the word for what is asked. -/
def shared : List CommandOption := [.config, .node]

end CommandOption

/-- The words for what is asked. -/
inductive Verb
  /-- Asks for the documents that match a filter. -/
  | filter
  /-- Asks for the documents with a word of a text. -/
  | text
  /-- Asks for the document of an id. -/
  | get
  /-- Asks for the request that a filter is compiled to. -/
  | compile
  deriving DecidableEq, Repr

namespace Verb

/-- All words, in the order of the help. -/
def all : List Verb := [.filter, .text, .get, .compile]

/-- The spelling of a word. -/
def name : Verb → String
  | .filter => "filter"
  | .text => "text"
  | .get => "get"
  | .compile => "compile"

/-- The word of a spelling. -/
def ofName? (s : String) : Option Verb := all.find? fun v => v.name == s

/-- The options that may stand behind a word, in the order of the help. -/
def options : Verb → List CommandOption
  | .filter => [.config, .index, .file, .node, .json, .pageSize, .page]
  | .text => [.config, .index, .node, .pageSize, .page]
  | .get => [.config, .index, .node]
  | .compile => [.config, .index, .file, .node, .json]

/-- The name of the one argument that a word needs besides options. -/
def operandName? : Verb → Option String
  | .text => some "TEXT"
  | .get => some "ID"
  | _ => none

@[simp] theorem ofName?_name (v : Verb) : ofName? v.name = some v := by cases v <;> decide

end Verb

/-- Where a filter is taken from. -/
inductive FilterSource
  /-- From nowhere: the filter without predicates. -/
  | absent
  /-- From a text. -/
  | text (s : String)
  /-- From a file. -/
  | file (path : String)
  deriving DecidableEq, Repr

/-- What the program is asked to do. -/
inductive Command
  /-- To show a page of the documents that match a filter. -/
  | filter (source : FilterSource) (index : Option String) (size : Option UInt32)
      (number : UInt32)
  /-- To show a page of the documents with a word of a text. -/
  | text (text : String) (index : Option String) (size : Option UInt32) (number : UInt32)
  /-- To show the document of an id. -/
  | get (id : String) (index : Option String)
  /-- To show the request that a filter is compiled to. -/
  | compile (source : FilterSource) (index : Option String)
  deriving DecidableEq, Repr

/-- A command with what else was said to the program. -/
structure Invocation where
  /-- The file with settings. -/
  config : Option String
  /-- The node of the cluster. -/
  node : Option String
  /-- The command. -/
  command : Command
  deriving DecidableEq, Repr

end DocSearch
