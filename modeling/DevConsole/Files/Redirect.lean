import DevConsole.Regex.Capture
import DevConsole.Regex.Reader

/-!
# Redirected text

A line `"text" > name` asks to write a text into a file: a text in double quotes that is not empty,
a greater-than sign with blanks around it or not, and a name that may hold anything but a line feed.
-/

namespace DevConsole.Files

structure Redirect where
  content : String
  name : String
  deriving DecidableEq, Repr

namespace Redirect

@[irreducible]
def pattern? : Option Regex := Regex.parse "^\"([^\"]+)\"\\s*>\\s*(.+)$"

/-- What the groups of a match ask for. Both take part in every match. -/
def ofGroups (groups : List (Nat × List Char)) : Redirect :=
  let text := fun (number : Nat) => String.ofList ((groups.lookup number).getD [])
  ⟨text 1, Text.trim (text 2)⟩

/-- What a line asks for, if it has this form. -/
def parse? (line : String) : Option Redirect :=
  (pattern?.bind (·.captures? line)).map ofGroups

end Redirect

end DevConsole.Files
