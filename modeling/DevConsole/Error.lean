import DevConsole.Files.Error

/-!
# Failures

`Error` is what an operation reports to its user. An `Abort` ends the program: an arithmetic result
left the range of its machine type, or a place is not in its table. `Error.message` is the text
shown for an error.
-/

namespace DevConsole

inductive Error where
  | files (e : Files.FileError)
  | invalidMode (name available : String)
  | commandNotFound (name : String)
  /-- A refused argument; the text is shown as it is. -/
  | usage (text : String)
  | network (text : String)
  | store (text : String)
  | config (text : String)
  | io (text : String)
  | toml (text : String)
  | json (text : String)
  deriving DecidableEq, Repr

def Error.message : Error → String
  | .files e => e.message
  | .invalidMode name available => "Invalid mode: " ++ name ++ ". Available: " ++ available
  | .commandNotFound name => "Command not found: " ++ name
  | .usage text => text
  | .network text => "network error: " ++ text
  | .store text => "store error: " ++ text
  | .config text => "config error: " ++ text
  | .io text => "I/O error: " ++ text
  | .toml text => "TOML parse error: " ++ text
  | .json text => "JSON error: " ++ text

/-- A computation that cannot go on. -/
inductive Abort where
  /-- A year above 65535. -/
  | year
  /-- A time past the end of the monotonic clock. -/
  | instant
  /-- An amount of money past 64 bits. -/
  | amount
  /-- A place outside of a table. -/
  | place
  deriving DecidableEq, Repr

end DevConsole
