import DevConsole.Error
import DevConsole.Toml.Reader

/-!
# Configuration

The settings of the host, read from a TOML file. Every field has a default, so that an empty file or
none at all is a configuration too; keys that no field has are ignored.
-/

namespace DevConsole

structure Config where
  /-- The file that backs the store. -/
  stateFile : String := "devterm-state.json"
  /-- The mode to start in when none is stored. -/
  defaultMode : String := "dev"
  user : String := "user"
  hostname : String := "pro-sys"
  /-- The directory a session starts in. -/
  home : String := "/home/user"
  /-- Seconds between two looks at the price of an alert. -/
  alertIntervalSecs : Nat := 10
  deriving DecidableEq, Repr

namespace Config

/-- The text under a key, or the default where there is none. -/
def text? (t : Toml.Table) (key default : String) : Option String :=
  match t.find? key with
  | none => some default
  | some (.string s) => some s
  | some _ => none

/-- The natural number under a key, or the default where there is none. -/
def natural? (t : Toml.Table) (key : String) (default : Nat) : Option Nat :=
  match t.find? key with
  | none => some default
  | some (.integer n) => if n < 0 then none else some n.toNat
  | some _ => none

/-- The settings in a table, unless one has the wrong type. -/
def ofTable? (t : Toml.Table) : Option Config := do
  let default : Config := {}
  return {
    stateFile := ← text? t "state_file" default.stateFile
    defaultMode := ← text? t "default_mode" default.defaultMode
    user := ← text? t "user" default.user
    hostname := ← text? t "hostname" default.hostname
    home := ← text? t "home" default.home
    alertIntervalSecs := ← natural? t "alert_interval_secs" default.alertIntervalSecs }

/-- The settings that a text describes. -/
def parse (text : String) : Except Error Config :=
  match (Toml.read text).bind ofTable? with
  | some c => .ok c
  | none => .error (.config "devterm.toml: malformed")

/-- The settings in a file with these bytes, or the defaults where there is no file. -/
def load : Option ByteArray → Except Error Config
  | none => .ok {}
  | some bytes =>
    match String.fromUTF8? bytes with
    | some text => parse text
    | none => .error (.io "stream did not contain valid UTF-8")

end Config

end DevConsole
