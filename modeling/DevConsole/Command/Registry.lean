import DevConsole.Entries
import DevConsole.Mode

/-!
# The command registry

Commands are registered under their names, in lower case, either for all modes or for one. A name is
looked up among the commands of all modes first. `completions` lists what a name that has been
started may become.
-/

namespace DevConsole

/-- How a command is presented. -/
structure Info where
  name : String
  description : String
  usage : String
  deriving DecidableEq, Repr

/-- A registered command: how it is presented and what it stands for. -/
structure Registered (α : Type) where
  info : Info
  action : α
  deriving Repr

/-- The name that a command is filed under. -/
def Registered.key {α : Type} (c : Registered α) : String := Text.lower c.info.name

structure Registry (α : Type) where
  /-- The commands of all modes. -/
  globals : Entries (Registered α) := []
  /-- The commands of one mode. -/
  ofMode : Mode → Entries (Registered α) := fun _ => []

namespace Registry

variable {α β : Type}

/-- Registers a command for all modes, in place of an earlier one of its name. -/
def registerGlobal (r : Registry α) (c : Registered α) : Registry α :=
  { r with globals := r.globals.insert c.key c }

/-- Registers a command for one mode, in place of an earlier one of its name there. -/
def register (r : Registry α) (mode : Mode) (c : Registered α) : Registry α :=
  { r with ofMode := fun m =>
      if m = mode then (r.ofMode m).insert c.key c else r.ofMode m }

/-- The command that a name stands for, in any case of its letters. -/
def resolve? (r : Registry α) (name : String) (mode : Mode) : Option (Registered α) :=
  (r.globals.find? (Text.lower name)).or ((r.ofMode mode).find? (Text.lower name))

/-- How the commands of a table are presented, in the order of their names. -/
def listing (es : Entries (Registered α)) : List Info := es.map fun e => e.2.info

/-- The names that can be reached in a mode and start with what has been typed, as it has been
typed. They are sorted, and each is named once. -/
def completions (r : Registry α) (typed : String) (mode : Mode) : List String :=
  let names := (r.globals.names ++ (r.ofMode mode).names).filter fun name =>
    typed.toList.isPrefixOf name.toList
  (names.mergeSort fun a b => decide (a ≤ b)).eraseReps

/-- The registry with other things in place of what the commands stand for. -/
def map (f : α → β) (r : Registry α) : Registry β where
  globals := r.globals.map fun e => (e.1, ⟨e.2.info, f e.2.action⟩)
  ofMode mode := (r.ofMode mode).map fun e => (e.1, ⟨e.2.info, f e.2.action⟩)

end Registry

end DevConsole
