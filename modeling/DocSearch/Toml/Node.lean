import DocSearch.Toml.Scalar

/-!
# Tables of a settings file

A settings file is a list of statements: headings, which say where the next values belong,
and values under names.  A table is laid out once; later statements may add to it only
where that says nothing twice.

A table whose first name is a certain mark does not stand for itself, but for the date or
time that the text under the mark spells.

## Main definitions

* `Toml.Node` — a value, a table or a list of tables, with the way in which it came up.
* `Toml.assign?` — one value under a path of names.
* `Toml.Statement`, `Toml.Statement.runAll?` — statements, and the table that they make up.
* `Toml.Node.setting?` — the value of a setting that a node stands for.
* `Toml.tableSetting?` — the same for a table, with the mark in mind.

## References

The files that `load` of `Config` reads, as the library for settings takes them.
-/

namespace DocSearch.Toml

/-- A node of a settings file. -/
inductive Node
  /-- A value without parts. -/
  | leaf (v : Scalar)
  /-- A list in brackets. -/
  | list (items : List Node)
  /-- A table in braces, to which nothing can be added. -/
  | inline (entries : List (String × Node))
  /-- A table; whether it came up only on the way to another one, and whether that was in
  a path of names before a value. -/
  | table (implied dotted : Bool) (entries : List (String × Node))
  /-- A list of tables that came up by headings. -/
  | tables (elements : List (List (String × Node)))
  deriving Inhabited

/-- The entries of a table. -/
abbrev Entries := List (String × Node)

/-- Changes the entry of a name, or adds it at the end. -/
def putEntry (name : String) (n : Node) : Entries → Entries
  | [] => [(name, n)]
  | e :: es => if e.1 = name then (name, n) :: es else e :: putEntry name n es

/-- Changes the last element of a list. -/
def mapLast? (f : α → Option α) : List α → Option (List α)
  | [] => none
  | [a] => (f a).map fun a => [a]
  | a :: as => (mapLast? f as).map (a :: ·)

/-- Changes the table that a path of headings leads to; tables on the way come up if they
are not there, and of a list of tables the last is meant. -/
def within? (f : Entries → Option Entries) : List String → Entries → Option Entries
  | [], es => f es
  | name :: path, es =>
    match es.lookup name with
    | none => (within? f path []).map fun inner => putEntry name (.table true false inner) es
    | some (.table implied dotted inner) =>
      (within? f path inner).map fun inner => putEntry name (.table implied dotted inner) es
    | some (.tables elements) =>
      (mapLast? (within? f path) elements).map fun elements =>
        putEntry name (.tables elements) es
    | some _ => none

/-- Puts a value under a path of names; `taking` tells whether the table takes values in this
way, which tables from headings do not do after their heading. -/
def assignUnder? (v : Node) (taking : Bool) : List String → Entries → Option Entries
  | [], _ => none
  | [name], es =>
    if taking && (es.lookup name).isNone then some (putEntry name v es) else none
  | name :: next :: path, es =>
    match es.lookup name with
    | none =>
      (assignUnder? v true (next :: path) []).map fun inner =>
        putEntry name (.table true true inner) es
    | some (.table implied dotted inner) =>
      if implied then
        (assignUnder? v dotted (next :: path) inner).map fun inner =>
          putEntry name (.table true dotted inner) es
      else none
    | some (.tables elements) =>
      (mapLast? (assignUnder? v false (next :: path)) elements).map fun elements =>
        putEntry name (.tables elements) es
    | some _ => none

/-- Puts a value under a path of names into a table. -/
def assign? (path : List String) (v : Node) (es : Entries) : Option Entries :=
  assignUnder? v true path es

/-- Begins the table of a heading; one that came up on the way to another one takes its
place at the end. -/
def openTable? (name : String) (es : Entries) : Option Entries :=
  match es.lookup name with
  | none => some (putEntry name (.table false false []) es)
  | some (.table true false inner) =>
    some (es.filter (·.1 != name) ++ [(name, .table false false inner)])
  | some _ => none

/-- Begins the next table of a list of tables. -/
def openElement? (name : String) (es : Entries) : Option Entries :=
  match es.lookup name with
  | none => some (putEntry name (.tables [[]]) es)
  | some (.tables elements) => some (putEntry name (.tables (elements ++ [[]])) es)
  | some _ => none

/-- A statement of a settings file. -/
inductive Statement
  /-- The heading of a table. -/
  | heading (path : List String)
  /-- The heading of an element of a list of tables. -/
  | element (path : List String)
  /-- A value under a path of names. -/
  | assign (path : List String) (v : Node)

/-- One statement, where the last heading was `place`. -/
def Statement.run? (place : List String) (root : Entries) :
    Statement → Option (List String × Entries)
  | .heading path =>
    (path.getLast?.bind fun last => within? (openTable? last) path.dropLast root).map
      fun root => (path, root)
  | .element path =>
    (path.getLast?.bind fun last => within? (openElement? last) path.dropLast root).map
      fun root => (path, root)
  | .assign path v => (within? (assign? path v) place root).map fun root => (place, root)

/-- Statements one after the other. -/
def Statement.runAll? (place : List String) (root : Entries) :
    List Statement → Option Entries
  | [] => some root
  | s :: ss =>
    match s.run? place root with
    | none => none
    | some (place, root) => runAll? place root ss

/-- The name that marks a table which stands for a date or a time. -/
def momentMark : String := "$__toml_private_datetime"

/-- The date or time that the text under the mark spells. -/
def Node.spelled? : Node → Option Setting
  | .leaf (.text s) => (momentOf? .quoted s.toList).map fun t => .text (String.ofList t)
  | _ => none

mutual

/-- The value of a setting that a node stands for. -/
def Node.setting? : Node → Option Setting
  | .leaf v => some v.setting
  | .list items => (itemSettings? items).map .list
  | .inline es => tableSetting? es
  | .table _ _ es => tableSetting? es
  | .tables elements => (elementSettings? elements).map .list

/-- The value that a table stands for: the date or time under the mark if that is its first
name, and else the table of the values under its names. -/
def tableSetting? : List (String × Node) → Option Setting
  | [] => some (.table [])
  | (name, n) :: es =>
    if name = momentMark then n.spelled?
    else n.setting?.bind fun v => (entrySettings? es).map fun vs => .table ((name, v) :: vs)

/-- The values under the names of a table. -/
def entrySettings? : List (String × Node) → Option (List (String × Setting))
  | [] => some []
  | (name, n) :: es =>
    n.setting?.bind fun v => (entrySettings? es).map fun vs => (name, v) :: vs

/-- The values of the items of a list. -/
def itemSettings? : List Node → Option (List Setting)
  | [] => some []
  | n :: ns => n.setting?.bind fun v => (itemSettings? ns).map (v :: ·)

/-- The values of the tables of a list of tables. -/
def elementSettings? : List (List (String × Node)) → Option (List Setting)
  | [] => some []
  | es :: ess => (tableSetting? es).bind fun v => (elementSettings? ess).map (v :: ·)

end

end DocSearch.Toml
