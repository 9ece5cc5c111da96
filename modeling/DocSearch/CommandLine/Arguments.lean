import DocSearch.CommandLine.Basic
import DocSearch.Number.Decimal

/-!
# Reading arguments

Options may be written with two dashes and a name or with one dash and a letter; the value
is the next argument, or stands behind the name after `=`, or directly behind the letter.
Behind the argument `--` nothing is an option.  Some options may stand both before and
behind the word for what is asked, and then the one behind it counts.

The value that stands in an argument of its own is settled only when the next thing is
read.  A call for help is answered when it is met, whatever stands behind it.

## Main definitions

* `Argument` — an argument by its form.
* `UsageFault`, `Interruption` — why arguments are not read to the end.
* `Given` — what has been said so far on one side of the word for what is asked.
* `Given.take`, `Given.takeAll` — the next argument; the arguments behind the word.
* `Invocation.ofArguments` — what the program is asked to do.

## References

The arguments of `Cli` and `Commands`, by the rules of the library that reads them.
-/

namespace DocSearch

open Number

/-! ### Forms -/

/-- An argument by its form. -/
inductive Argument
  /-- Two dashes alone. -/
  | separator
  /-- Two dashes and a name, perhaps with a value after `=`. -/
  | long (name : String) (value : Option String)
  /-- One dash and a letter, with what stands behind it. -/
  | short (letter : Char) (rest : List Char)
  /-- Anything else. -/
  | word (s : String)
  deriving DecidableEq, Repr

/-- The argument that a text is. -/
def Argument.of (s : String) : Argument :=
  match s.toList with
  | ['-', '-'] => .separator
  | '-' :: '-' :: cs =>
    .long (String.ofList (cs.takeWhile (· != '=')))
      (if '=' ∈ cs then some (String.ofList ((cs.dropWhile (· != '=')).drop 1)) else none)
  | '-' :: c :: cs => .short c cs
  | _ => .word s

/-- The value directly behind a letter, with or without `=` before it. -/
def attachedValue : List Char → String
  | '=' :: cs => String.ofList cs
  | cs => String.ofList cs

/-- A number of 32 bits, as it may be written for an option. -/
def wordOf? (s : String) : Option UInt32 :=
  ((integerOf? s.toList).filter fun z => decide (IsNat32 z)).map fun z =>
    UInt32.ofNat z.toNat

/-- A path, which may not be empty. -/
def pathOf? (s : String) : Option String := if s.isEmpty then none else some s

/-! ### Faults -/

/-- What is wrong with arguments. -/
inductive UsageFault
  /-- The argument is not known. -/
  | unexpected (argument : String)
  /-- The option has no value. -/
  | valueMissing (o : CommandOption)
  /-- The value is not one for the option. -/
  | badValue (o : CommandOption) (value : String)
  /-- The option is given twice. -/
  | repeated (o : CommandOption)
  /-- The two options exclude each other. -/
  | conflict (o other : CommandOption)
  /-- An argument that is needed is missing. -/
  | operandMissing (name : String)
  /-- It is not said what is asked. -/
  | verbMissing
  deriving DecidableEq, Repr

/-- The wording of a fault. -/
def UsageFault.message : UsageFault → String
  | .unexpected argument => "unexpected argument '" ++ argument ++ "' found"
  | .valueMissing o => "a value is required for '" ++ o.flag ++ "' but none was supplied"
  | .badValue o value => "invalid value '" ++ value ++ "' for '" ++ o.flag ++ "'"
  | .repeated o => "the argument '" ++ o.flag ++ "' cannot be used multiple times"
  | .conflict o other =>
    "the argument '" ++ o.flag ++ "' cannot be used with '" ++ other.flag ++ "'"
  | .operandMissing name => "the required argument <" ++ name ++ "> was not provided"
  | .verbMissing => "a subcommand is required but one was not provided"

/-- What help is asked for. -/
inductive HelpTopic
  /-- The program as a whole. -/
  | program
  /-- One of the words for what is asked. -/
  | verb (v : Verb)
  /-- The help itself. -/
  | help
  deriving DecidableEq, Repr

/-- Why arguments are not read to the end. -/
inductive Interruption
  /-- Help is asked for. -/
  | help (topic : HelpTopic)
  /-- Something is wrong. -/
  | misuse (fault : UsageFault)
  deriving DecidableEq, Repr

/-! ### One side -/

/-- What has been said so far on one side of the word for what is asked. -/
structure Given where
  /-- The file with settings. -/
  config : Option String := none
  /-- The node of the cluster. -/
  node : Option String := none
  /-- The index. -/
  index : Option String := none
  /-- The file with the filter. -/
  file : Option String := none
  /-- The text of the filter. -/
  json : Option String := none
  /-- The number of results on a page. -/
  pageSize : Option UInt32 := none
  /-- The number of the page. -/
  page : Option UInt32 := none
  /-- The argument besides options. -/
  operand : Option String := none
  /-- The last option, if its value stands in an argument of its own, with that value. -/
  waiting : Option (CommandOption × Option String) := none
  deriving DecidableEq, Repr

namespace Given

/-- Keeps the value of an option, unless there is one already or the value is none. -/
def once (o : CommandOption) (text : String) (old new : Option α)
    (keep : Option α → Given) : Except Interruption Given :=
  if old.isSome then .error (.misuse (.repeated o))
  else if new.isNone then .error (.misuse (.badValue o text))
  else .ok (keep new)

/-- Keeps the value of an option. -/
def put (g : Given) (o : CommandOption) (s : String) : Except Interruption Given :=
  match o with
  | .config => once o s g.config (pathOf? s) fun config => { g with config }
  | .node => once o s g.node (some s) fun node => { g with node }
  | .index => once o s g.index (some s) fun index => { g with index }
  | .file => once o s g.file (pathOf? s) fun file => { g with file }
  | .json => once o s g.json (some s) fun json => { g with json }
  | .pageSize => once o s g.pageSize (wordOf? s) fun pageSize => { g with pageSize }
  | .page => once o s g.page (wordOf? s) fun page => { g with page }

/-- Settles the option that waits. -/
def settle (g : Given) : Except Interruption Given :=
  match g.waiting with
  | none => .ok g
  | some (o, none) => .error (.misuse (.valueMissing o))
  | some (o, some s) => { g with waiting := none }.put o s

/-- Takes an option, with the value that stands in the same argument if there is one. -/
def takeOption (g : Given) (o : CommandOption) (value : Option String) :
    Except Interruption Given :=
  match g.settle with
  | .error e => .error e
  | .ok g =>
    match value with
    | some s => g.put o s
    | none => .ok { g with waiting := some (o, none) }

/-- Takes an argument besides options. -/
def takeOperand (wanted : Option String) (g : Given) (s : String) :
    Except Interruption Given :=
  match g.settle with
  | .error e => .error e
  | .ok g =>
    if wanted.isSome && g.operand.isNone then .ok { g with operand := some s }
    else .error (.misuse (.unexpected s))

/-- Takes arguments none of which is an option. -/
def takeOperands (wanted : Option String) (g : Given) : List String → Except Interruption Given
  | [] => g.settle
  | s :: args =>
    match g.takeOperand wanted s with
    | .error e => .error e
    | .ok g => takeOperands wanted g args

/-- Answers a call for help, once the option before it is settled. -/
def callHelp (topic : HelpTopic) (g : Given) : Except Interruption Given :=
  match g.settle with
  | .error e => .error e
  | .ok _ => .error (.help topic)

/-- Takes an argument that is an option, or one besides options as `plain` says. -/
def take (options : List CommandOption) (topic : HelpTopic)
    (plain : Given → String → Except Interruption Given) (g : Given) :
    Argument → Except Interruption Given
  | .long name value =>
    match options.find? fun o => o.long == name with
    | some o => g.takeOption o value
    | none =>
      if name = "help" ∧ value = none then g.callHelp topic
      else .error (.misuse (.unexpected ("--" ++ name)))
  | .short letter rest =>
    match options.find? fun o => o.short == letter with
    | some o => g.takeOption o (if rest.isEmpty then none else some (attachedValue rest))
    | none =>
      if letter = 'h' then g.callHelp topic
      else .error (.misuse (.unexpected (String.ofList ['-', letter])))
  | .word s =>
    match g.waiting with
    | some (o, none) => .ok { g with waiting := some (o, some s) }
    | _ => plain g s
  | .separator => .ok g

/-- Takes the arguments behind a word for what is asked. -/
def takeAll (v : Verb) (g : Given) : List String → Except Interruption Given
  | [] => g.settle
  | s :: args =>
    match Argument.of s with
    | .separator => takeOperands v.operandName? g args
    | a =>
      match g.take v.options (.verb v) (takeOperand v.operandName?) a with
      | .error e => .error e
      | .ok g => takeAll v g args

/-! ### Commands -/

/-- Where the filter is taken from. -/
def source (g : Given) : Except UsageFault FilterSource :=
  match g.file, g.json with
  | some _, some _ => .error (.conflict .file .json)
  | some path, none => .ok (.file path)
  | none, some s => .ok (.text s)
  | none, none => .ok .absent

/-- The argument besides options, which must have been given. -/
def operandOr (g : Given) (name : String) : Except UsageFault String :=
  match g.operand with
  | some s => .ok s
  | none => .error (.operandMissing name)

/-- The command that a word stands for, with what was said behind it. -/
def command (g : Given) : Verb → Except UsageFault Command
  | .filter => g.source.map fun s => .filter s g.index g.pageSize (g.page.getD 0)
  | .text => (g.operandOr "TEXT").map fun s => .text s g.index g.pageSize (g.page.getD 0)
  | .get => (g.operandOr "ID").map fun s => .get s g.index
  | .compile => g.source.map fun s => .compile s g.index

end Given

/-! ### Both sides -/

/-- The variable that names a node of the cluster. -/
def nodeVariable : String := "FILTER_SEARCH_NODE"

/-- The help that the words behind `help` ask for. -/
def helpOf : List String → Interruption
  | [] => .help .program
  | ["help"] => .help .help
  | [s] =>
    match Verb.ofName? s with
    | some v => .help (.verb v)
    | none => .misuse (.unexpected s)
  | _ :: s :: _ => .misuse (.unexpected s)

namespace Invocation

/-- What is asked, from what was said before and behind a word. -/
def ofSides (vars : List (String × String)) (v : Verb) (before behind : Given) :
    Except Interruption Invocation :=
  match behind.command v with
  | .error e => .error (.misuse e)
  | .ok command =>
    match before.settle with
    | .error e => .error e
    | .ok before =>
      .ok ⟨behind.config.or before.config,
        (behind.node.or before.node).or (vars.lookup nodeVariable), command⟩

/-- Reads arguments up to the word for what is asked, then those behind it. -/
def read (vars : List (String × String)) (before : Given) :
    List String → Except Interruption Invocation
  | [] => .error (.misuse .verbMissing)
  | s :: args =>
    match Argument.of s, before.waiting with
    | .word _, some (o, none) =>
      read vars { before with waiting := some (o, some s) } args
    | .word _, _ =>
      if s = "help" then .error (helpOf args)
      else
        match Verb.ofName? s with
        | none => .error (.misuse (.unexpected s))
        | some v =>
          match Given.takeAll v {} args with
          | .error e => .error e
          | .ok behind => ofSides vars v before behind
    | .separator, _ => .error (.misuse .verbMissing)
    | a, _ =>
      match before.take CommandOption.shared .program
          (fun _ s => .error (.misuse (.unexpected s))) a with
      | .error e => .error e
      | .ok before => read vars before args

/-- What arguments ask the program to do; a variable may name the node of the cluster. -/
def ofArguments (vars : List (String × String)) (args : List String) :
    Except Interruption Invocation :=
  read vars {} args

end Invocation

end DocSearch
