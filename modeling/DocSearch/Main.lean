import DocSearch.CommandLine.Program

/-!
# The program at work

The program with the files, the variables and the output of the system.  It has no
connection of its own to a cluster, so a cluster is always out of reach.

## Main definitions

* `readText`, `readVariables` — a file as a text; the variables.
* `main` — the program.

## References

`main` of the command line.
-/

namespace DocSearch

/-- The number of a fault of the system, which may come with its sign turned. -/
def faultNumber (code : UInt32) : Nat :=
  if code.toNat < 2147483648 then code.toNat else 4294967296 - code.toNat

/-- The number of the fault that a file is a directory. -/
def directoryFault : Nat := 21

/-- A fault of the system as one of reading a file. -/
def inputFaultOf : IO.Error → InputFault
  | .noFileOrDirectory _ _ _ => .notFound
  | .inappropriateType _ code _ =>
    if faultNumber code = directoryFault then .isADirectory else .notADirectory
  | e => .note (toString e)

/-- Reads a file as a text. -/
def readText (path : String) : IO (Except InputFault String) := do
  try
    match String.fromUTF8? (← IO.FS.readBinFile path) with
    | some text => return .ok text
    | none => return .error .notText
  catch e => return .error (inputFaultOf e)

/-- The name and the value of a variable, from both with `=` between them. -/
def variableOf? (entry : List Char) : Option (String × String) :=
  if '=' ∈ entry then
    some (String.ofList (entry.takeWhile (· != '=')),
      String.ofList ((entry.dropWhile (· != '=')).drop 1))
  else none

/-- Reads the variables. -/
def readVariables : IO (List (String × String)) := do
  match ← readText "/proc/self/environ" with
  | .ok text => return (Text.splitAt '\x00' text.toList).filterMap variableOf?
  | .error _ => return []

end DocSearch

/-- The program. -/
def main (args : List String) : IO UInt32 := do
  let vars ← DocSearch.readVariables
  let surroundings : DocSearch.Surroundings IO :=
    ⟨DocSearch.readText, vars, fun _ => pure (.unreachable "no connection")⟩
  let ending ← surroundings.run args
  IO.print ending.output
  match ending.complaint? with
  | some text => IO.eprintln text
  | none => pure ()
  return UInt32.ofNat ending.exitCode
