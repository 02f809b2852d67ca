import DevConsole.Shell.Event

/-!
# Keys

Which input event a key stands for.
-/

namespace DevConsole

inductive Key where
  | char (c : Char)
  | enter
  | backspace
  | up
  | down
  | tab
  /-- A key that edits nothing. -/
  | other
  deriving DecidableEq, Repr

/-- A key that is pressed, held or let go. -/
structure KeyStroke where
  key : Key
  control : Bool := false
  released : Bool := false
  deriving DecidableEq, Repr

/-- The event of a key. With the control key only two letters stand for one. -/
def KeyStroke.event? (k : KeyStroke) : Option InputEvent :=
  if k.released then none
  else
    match k.key with
    | .char c =>
      if !k.control then some (.textInput c)
      else if c = 'c' then some .interrupt
      else if c = 'd' then some .quit
      else none
    | .enter => some .submit
    | .backspace => some .backspace
    | .up => some .historyBack
    | .down => some .historyForward
    | .tab => some .complete
    | .other => none

end DevConsole
