import DevConsole.Shell.Basic
import DevConsole.Shell.Event

/-!
# Editing the line

How input events change the editable line: typing and taking back, recalling earlier lines,
completing the name of a command, and running the line.
-/

namespace DevConsole.Shell

open Net

variable {σ ν : Type} [Backend σ] [Client ν]

def setInput (s : Shell σ ν) (text : String) : Shell σ ν := { s with input := text }

/-- What a name that has been started may become in the mode of the session. -/
def autocomplete (s : Shell σ ν) (typed : String) : Completion :=
  match builtins.completions typed s.session.mode with
  | [] => .none
  | [name] => .unique name
  | names => .ambiguous names

/-- Completes the editable line, or shows what it may become. -/
def complete (s : Shell σ ν) : Shell σ ν × Display :=
  match s.autocomplete s.input with
  | .none => (s, [])
  | .unique name => (s.setInput (name ++ " "), [])
  | .ambiguous names => (s, [.write (.system (Text.joinWith "  " names))])

/-- A text without its last character. -/
def dropLastChar (s : String) : String := String.ofList s.toList.dropLast

/-- What an event does. -/
def handle (s : Shell σ ν) (now : Instant) (event : InputEvent) : Step σ ν :=
  match event with
  | .textInput c => .ok (s.setInput (s.input.push c), [])
  | .backspace => .ok (s.setInput (dropLastChar s.input), [])
  | .submit => (s.setInput "").runLine now s.input
  | .historyBack =>
    let (line, session) := s.session.historyBack
    .ok ({ s with session, input := line.getD s.input }, [])
  | .historyForward =>
    let (line, session) := s.session.historyForward
    .ok ({ s with session, input := line }, [])
  | .complete => .ok s.complete
  | .interrupt =>
    .ok (s.setInput "", [.write (.plain (s.prompt ++ " " ++ s.input ++ "^C"))])
  | .quit => .ok ({ s with exitRequested := true }, [])

end DevConsole.Shell
