import DevConsole.Error
import DevConsole.Text.Ascii
import DevConsole.Text.Lines

/-!
# Modes

A session works with the commands of one mode at a time. A mode is asked for by its short name,
which is also what is stored, or by one of its other names, in any case.
-/

namespace DevConsole

inductive Mode where
  | development
  | marketData
  | network
  | utilities
  | filesystem
  | novelty
  deriving DecidableEq, Repr

namespace Mode

def all : List Mode := [.development, .marketData, .network, .utilities, .filesystem, .novelty]

def name : Mode → String
  | .development => "dev"
  | .marketData => "crypto"
  | .network => "network"
  | .utilities => "tools"
  | .filesystem => "fs"
  | .novelty => "fun"

def otherNames : Mode → List String
  | .development => ["development"]
  | .marketData => ["market", "market-data"]
  | .network => ["net"]
  | .utilities => ["utilities"]
  | .filesystem => ["filesystem"]
  | .novelty => ["novelty"]

/-- The short names, with commas between them. -/
def names : String := Text.joinWith ", " (all.map name)

def answersTo (m : Mode) (name : String) : Bool := m.name == name || m.otherNames.contains name

def ofName? (name : String) : Option Mode := all.find? (·.answersTo (Text.lower name))

/-- The mode of a name, or the error that lists the names there are. -/
def parse (name : String) : Except Error Mode :=
  match ofName? name with
  | some m => .ok m
  | none => .error (.invalidMode name names)

end Mode

end DevConsole
