import DevConsole.Json.Reader
import DevConsole.Json.Printer

/-!
# Input events

What a user does to the editable line. An event is written in JSON as its name, typed text as an
object with the character under its name; an object with null is another way to write any other
event.
-/

namespace DevConsole

inductive InputEvent where
  /-- A character is typed. -/
  | textInput (c : Char)
  | backspace
  | submit
  | historyBack
  | historyForward
  | complete
  /-- The line is given up. -/
  | interrupt
  | quit
  deriving DecidableEq, Repr

namespace InputEvent

/-- The events without typed text, under their names. -/
def named : List (String × InputEvent) :=
  [("Backspace", .backspace), ("Submit", .submit), ("HistoryBack", .historyBack),
   ("HistoryForward", .historyForward), ("Complete", .complete), ("Interrupt", .interrupt),
   ("Quit", .quit)]

def ofName? (name : String) : Option InputEvent := (named.find? (·.1 == name)).map Prod.snd

/-- The name that typed text is written under. -/
def textName : String := "TextInput"

def toJson (e : InputEvent) : Json :=
  match e with
  | .textInput c => .object [(textName, .string (String.singleton c))]
  | e => .string (((named.find? (·.2 == e)).map Prod.fst).getD "")

def ofJson? : Json → Option InputEvent
  | .string name => ofName? name
  | .object [(name, value)] =>
    match value with
    | .null => ofName? name
    | .string s =>
      match s.toList with
      | [c] => if name = textName then some (.textInput c) else none
      | _ => none
    | _ => none
  | _ => none

/-- The event that a JSON text writes. -/
def read (text : String) : Option InputEvent := (Json.read text).bind ofJson?

end InputEvent

end DevConsole
