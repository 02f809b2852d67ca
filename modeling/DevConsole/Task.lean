import DevConsole.Json.Reader
import DevConsole.Json.Printer

/-!
# Tasks

A task is a text that is done or not. Tasks are stored as a JSON list of records; reading passes
over members that a task does not have, and takes a list of the two values for the record.
-/

namespace DevConsole

structure Task where
  text : String
  done : Bool := false
  deriving DecidableEq, Repr

namespace Task

def toJson (t : Task) : Json := .object [("text", .string t.text), ("done", .bool t.done)]

def ofFields? (text done : Json) : Option Task :=
  text.string?.bind fun text => done.bool?.map fun done => ⟨text, done⟩

def ofJson? : Json → Option Task
  | .object members => do
    ofFields? (← (← Json.member? "text" members)) (← (← Json.member? "done" members))
  | .array [text, done] => ofFields? text done
  | _ => none

/-- The tasks in a stored text. Only what belongs to a task has to be sound. -/
def decodeList? (text : String) : Option (List Task) := (Json.parse text).bind (Json.list? ofJson?)

def encodeList (tasks : List Task) : Json := .array (tasks.map toJson)

/-- Marks the task of a number as done, counting from one. -/
def finish? (tasks : List Task) (number : Nat) : Option (List Task) :=
  match number with
  | 0 => none
  | i + 1 =>
    if i < tasks.length then some (tasks.modify i fun t => { t with done := true }) else none

end Task

end DevConsole
