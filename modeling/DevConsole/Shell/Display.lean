import DevConsole.Command.Output

/-!
# What a shell shows

A shell writes lines and clears the view. `screen` is the view of someone who follows these events.
-/

namespace DevConsole

inductive DisplayEvent where
  | write (line : Line)
  | clear
  deriving DecidableEq, Repr

/-- What happens on a display, in order. -/
abbrev Display := List DisplayEvent

namespace Display

/-- Writes lines. -/
def ofLines (lines : List Line) : Display := lines.map .write

/-- The lines in view after an event. -/
def after (view : List Line) : DisplayEvent → List Line
  | .write line => view ++ [line]
  | .clear => []

/-- The lines in view after all that has happened on an empty display. -/
def screen (d : Display) : List Line := d.foldl after []

end Display

end DevConsole
