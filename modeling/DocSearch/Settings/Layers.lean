import DocSearch.Settings.Value

/-!
# Layers of settings

Settings come from several places, one laid over the other.  Where two tables meet, their
entries are merged; anything else takes the place of what was there.  Names are told apart
without regard to case.

## Main definitions

* `Setting.put` — one entry of a table.
* `Setting.assign` — a value laid over what a table has under a name.
* `SettingPath`, `SettingPath.of?` — the way to a setting, such as `search.nodes[0]`.
* `SettingPath.assign` — a value laid over what the way leads to.
* `Setting.overlay` — a whole layer laid over another.

## References

The layers of `load` of `Config`, as the library for settings puts them together.
-/

namespace DocSearch

namespace Setting

/-- The entries of a table; none of anything else. -/
def entries : Setting → List (String × Setting)
  | .table es => es
  | _ => []

/-- The items of a list; none of anything else. -/
def items : Setting → List Setting
  | .list vs => vs
  | _ => []

/-- Changes the entry of a name, or adds it at the end. -/
def put (name : String) (v : Setting) : List (String × Setting) → List (String × Setting)
  | [] => [(name, v)]
  | e :: es => if e.1 = name then (name, v) :: es else e :: put name v es

mutual

/-- The value laid over what a table has under a name; what is no table becomes one. -/
def assign (root : Setting) (name : String) (v : Setting) : Setting :=
  let es := root.entries
  let name := lowered name
  match v with
  | .table incoming =>
    .table (put name (assignAll ((es.lookup name).getD (.table [])) incoming) es)
  | .nil => .table (put name .nil es)
  | .bool b => .table (put name (.bool b) es)
  | .integer z => .table (put name (.integer z) es)
  | .real x => .table (put name (.real x) es)
  | .text s => .table (put name (.text s) es)
  | .list vs => .table (put name (.list vs) es)

/-- Entries laid over a value, one after the other. -/
def assignAll (target : Setting) : List (String × Setting) → Setting
  | [] => target
  | e :: es => assignAll (assign target e.1 e.2) es

end

/-- The list with its element at a place changed, filled up with empty values to there. -/
def putAt (i : Nat) (f : Setting → Setting) (vs : List Setting) : List Setting :=
  let vs := vs ++ List.replicate (i + 1 - vs.length) .nil
  vs.take i ++ f (vs.getD i .nil) :: vs.drop (i + 1)

end Setting

/-- A step on the way to a setting. -/
inductive SettingStep
  /-- The entry of a name. -/
  | name (s : String)
  /-- The item at a place, counted from the end when negative. -/
  | place (i : Int)
  deriving DecidableEq, Repr

/-- The way to a setting: a name, then steps. -/
structure SettingPath where
  /-- The first name. -/
  head : String
  /-- The steps behind it. -/
  steps : List SettingStep
  deriving DecidableEq, Repr

namespace SettingPath

/-! ### Reading -/

/-- Whether a character may stand in a name on a way. -/
def isNameChar (c : Char) : Bool :=
  Number.isDigit c || c == ' ' || c == '_' || c == '-' ||
    (Nat.ble 'a'.toNat c.toNat && Nat.ble c.toNat 'z'.toNat) ||
    (Nat.ble 'A'.toNat c.toNat && Nat.ble c.toNat 'Z'.toNat)

/-- The number of a place in brackets. -/
def placeOf? (cs : List Char) : Option Int :=
  let isSpace (c : Char) : Bool := c == ' ' || c == '\t'
  let body := ((cs.dropWhile isSpace).reverse.dropWhile isSpace).reverse
  if body.head? = some '+' then none
  else (Number.integerOf? body).filter fun z => decide (Number.IsInt64 z)

/-- The steps that a text describes. -/
def stepsOf? (cs : List Char) : Option (List SettingStep) :=
  match cs with
  | [] => some []
  | '.' :: rest =>
    have : (rest.dropWhile isNameChar).length < rest.length + 1 :=
      Nat.lt_succ_of_le (List.dropWhile_suffix _).length_le
    if (rest.takeWhile isNameChar).isEmpty then none
    else
      (stepsOf? (rest.dropWhile isNameChar)).map fun steps =>
        .name (String.ofList (rest.takeWhile isNameChar)) :: steps
  | '[' :: rest =>
    have : (rest.dropWhile (· != ']')).length - 1 < rest.length + 1 :=
      Nat.lt_succ_of_le
        (Nat.le_trans (Nat.sub_le _ _) (List.dropWhile_suffix _).length_le)
    if (rest.dropWhile (· != ']')).isEmpty then none
    else
      (placeOf? (rest.takeWhile (· != ']'))).bind fun i =>
        (stepsOf? ((rest.dropWhile (· != ']')).drop 1)).map fun steps => .place i :: steps
  | _ => none
termination_by cs.length

/-- The way that a text describes. -/
def of? (s : String) : Option SettingPath :=
  let head := s.toList.takeWhile isNameChar
  if head.isEmpty then none
  else (stepsOf? (s.toList.dropWhile isNameChar)).map fun steps => ⟨String.ofList head, steps⟩

/-! ### Assigning -/

/-- The place that a number stands for in a list of some length. -/
def placeIn (i : Int) (length : Nat) : Nat := if 0 ≤ i then i.toNat else length - i.natAbs

/-- A value laid over what steps lead to. -/
def assignSteps (v : Setting) : List SettingStep → Setting → Setting
  | [], _ => v
  | [.name s], root => root.assign s v
  | .name s :: steps, root =>
    let name := Setting.lowered s
    let es := root.entries
    .table (Setting.put name (assignSteps v steps ((es.lookup name).getD .nil)) es)
  | .place i :: steps, root =>
    let vs := root.items
    .list (Setting.putAt (placeIn i vs.length) (assignSteps v steps) vs)

/-- A value laid over what a way leads to. -/
def assign (p : SettingPath) (root v : Setting) : Setting :=
  assignSteps v (.name p.head :: p.steps) root

end SettingPath

namespace Setting

/-- A value laid over what a name leads to, which is a way if it can be read as one. -/
def assignNamed (root : Setting) (name : String) (v : Setting) : Setting :=
  match SettingPath.of? name with
  | some p => p.assign root v
  | none => root.assign name v

/-- A layer laid over another. -/
def overlay (root : Setting) (layer : List (String × Setting)) : Setting :=
  layer.foldl (fun root e => root.assignNamed e.1 e.2) root

end Setting

end DocSearch
