/-!
# Output of commands

What a command gives back for the shell to show: lines with a style, or a request that goes to the
shell itself, such as clearing the screen.
-/

namespace DevConsole

inductive Style where
  | system
  | success
  | error
  deriving DecidableEq, Repr

/-- A line of output; most lines have no style. -/
structure Line where
  text : String
  style : Option Style := none
  deriving DecidableEq, Repr

namespace Line

def plain (text : String) : Line := ⟨text, none⟩
def system (text : String) : Line := ⟨text, some .system⟩
def success (text : String) : Line := ⟨text, some .success⟩
def error (text : String) : Line := ⟨text, some .error⟩

end Line

/-- A program that takes over the whole screen. -/
inductive Program where
  | snake
  deriving DecidableEq, Repr

/-- What is shown before a program takes over. -/
def Program.intro : Program → List String
  | .snake => ["Starting Snake game...", "Use W/A/S/D to move, Q to quit"]

inductive Output where
  /-- Lines without a style, with line feeds between them. -/
  | text (text : String)
  | lines (lines : List Line)
  | nothing
  | clear
  /-- A farewell, after which the session ends. -/
  | exit (farewell : String)
  | launch (program : Program)
  deriving DecidableEq, Repr

end DevConsole
