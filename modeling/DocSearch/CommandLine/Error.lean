import DocSearch.Error

/-!
# Errors of commands

What can make a command fail, and the code with which the program then ends.

## Main definitions

* `InputFault` — why a file is not read.
* `CommandError` — the errors.
* `CommandError.code`, `CommandError.message`, `CommandError.exitCode` — how they are told.

## References

`AppError` with `error_code` and `exit_code`.
-/

namespace DocSearch

/-- Why a file is not read. -/
inductive InputFault
  /-- There is no such file. -/
  | notFound
  /-- The file is a directory. -/
  | isADirectory
  /-- A part of the path is a file. -/
  | notADirectory
  /-- The file holds no text. -/
  | notText
  /-- Another cause. -/
  | note (text : String)
  deriving DecidableEq, Repr

/-- The wording of a fault. -/
def InputFault.message : InputFault → String
  | .notFound => "No such file or directory (os error 2)"
  | .isADirectory => "Is a directory (os error 21)"
  | .notADirectory => "Not a directory (os error 20)"
  | .notText => "stream did not contain valid UTF-8"
  | .note text => text

/-- An error of a command. -/
inductive CommandError
  /-- The search fails. -/
  | search (e : SearchError)
  /-- The settings cannot be had. -/
  | settings (reason : String)
  /-- A file is not read. -/
  | input (fault : InputFault)
  /-- A text is no document. -/
  | serialization (reason : String)
  deriving DecidableEq, Repr

namespace CommandError

/-- The code of an error. -/
def code : CommandError → String
  | .search e => e.code
  | .settings _ => "CONFIGURATION_ERROR"
  | .input _ => "IO_ERROR"
  | .serialization _ => "SERIALIZATION_ERROR"

/-- The wording of an error. -/
def message : CommandError → String
  | .search e => e.message
  | .settings reason => "Configuration error: " ++ reason
  | .input fault => "IO error: " ++ fault.message
  | .serialization reason => "Serialization error: " ++ reason

/-- The code with which a program ends that fails in this way. -/
def exitCode : CommandError → Nat
  | .search e => if e.beforeBackend then 2 else 1
  | .settings _ => 78
  | .input _ => 1
  | .serialization _ => 1

end CommandError

end DocSearch
