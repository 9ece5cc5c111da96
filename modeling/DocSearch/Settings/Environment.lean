import DocSearch.Settings.Value

/-!
# Settings from variables

Variables whose names begin with `FILTER_SEARCH__`, in any case, are settings; two
underscores in the rest of a name separate levels.

## Main definitions

* `settingNameOf?` — the setting that a variable is for.
* `guessSetting` — the value that a text is taken for.
* `environmentLayer` — the settings of all variables.

## References

The source of variables in `load` of `Config`.
-/

namespace DocSearch

open Number

/-- What the names of variables for settings begin with. -/
def variableStart : List Char := "filter_search__".toList

/-- The name with dots in place of pairs of underscores. -/
def dotted : List Char → List Char
  | '_' :: '_' :: cs => '.' :: dotted cs
  | c :: cs => c :: dotted cs
  | [] => []

/-- The setting that a variable is for. -/
def settingNameOf? (name : String) : Option String :=
  let name := Text.lower name.toList
  if variableStart.isPrefixOf name then
    some (String.ofList (dotted (name.drop variableStart.length)))
  else none

/-- The double that a text stands for, also one that is not finite. -/
def doubleOf? (cs : List Char) : Option Double :=
  match decimalOf? cs with
  | some d => some d.toDouble
  | none =>
    let (negative, body) := sign cs
    let word := body.map fun c =>
      if 'A'.toNat ≤ c.toNat ∧ c.toNat ≤ 'Z'.toNat then Char.ofNat (c.toNat + 32) else c
    if word = "inf".toList ∨ word = "infinity".toList then some (.infinite negative)
    else if word = "nan".toList then some .nan
    else none

/-- The setting whose text is a list of texts. -/
def listSetting : String := "search.nodes"

/-- The value that the text of a variable is taken for: a truth value, an integer, a double,
or else a text, which for some settings is split at commas. -/
def guessSetting (name value : String) : Setting :=
  let cs := value.toList
  if Setting.lowered value = "true" then .bool true
  else if Setting.lowered value = "false" then .bool false
  else
    match (integerOf? cs).filter fun z => decide (IsInt64 z) with
    | some z => .integer z
    | none =>
      match doubleOf? cs with
      | some x => .real x
      | none =>
        if name = listSetting then
          .list ((Text.splitAt ',' cs).map fun part => .text (String.ofList part))
        else .text value

/-- The settings of variables; of two for one setting the last counts. -/
def environmentLayer (vars : List (String × String)) : List (String × Setting) :=
  vars.filterMap fun v =>
    (settingNameOf? v.1).map fun name => (name, guessSetting name v.2)

end DocSearch
