import DevConsole.Command.Action
import DevConsole.Task
import DevConsole.Text.Blank
import Std.Data.HashMap

/-!
# Commands of the utilities mode

Passwords, notes, tasks, timers, random numbers, the export of notes and tasks into a file, and
counts of the commands used. Notes and tasks are stored as JSON; a stored text that is none counts
as empty.
-/

namespace DevConsole

inductive Utility where
  | password
  | note
  | task
  | timer
  | random
  | exporting
  | stats
  deriving DecidableEq, Repr

namespace Utility

def all : List Utility := [.password, .note, .task, .timer, .random, .exporting, .stats]

def noteUsage : String := "note add <content> | note list | note clear"
def taskUsage : String := "task add <content> | task done <n> | task list | task clear"

def info : Utility → Info
  | .password => ⟨"password", "Generate password", "password [length]"⟩
  | .note => ⟨"note", "Manage notes (add | list | clear)", noteUsage⟩
  | .task => ⟨"task", "Manage tasks (add | done | list | clear)", taskUsage⟩
  | .timer => ⟨"timer", "Set timer (e.g., timer 5)", "timer <seconds> | timer cancel"⟩
  | .random => ⟨"random", "Generate random number (e.g., random 1 100)", "random [min] [max]"⟩
  | .exporting => ⟨"export", "Export data (notes | tasks)", "export <notes | tasks>"⟩
  | .stats => ⟨"stats", "Show usage statistics", "stats"⟩

variable {σ ν : Type} [Backend σ]

/-! ## Passwords and random numbers -/

def passwordChars : List Char :=
  "abcdefghijklmnopqrstuvwxyzABCDEFGHIJKLMNOPQRSTUVWXYZ0123456789!@#$%^&*()_+".toList

def usualPasswordLength : Nat := 12
def maxPasswordLength : Nat := 256

/-- The length asked for; anything but a positive number asks for the usual one. -/
def passwordLength (args : List String) : Nat :=
  ((args.head?.bind Text.natural64?).filter (0 < ·)).getD usualPasswordLength

def drawPasswordChar (r : Random) : Char × Random :=
  let (c, r) := r.choose? passwordChars
  (c.getD ' ', r)

def runPassword (args : List String) : Action σ ν Output := do
  let length := passwordLength args
  if maxPasswordLength < length then
    Action.refuseUsage
      ("Error: Password length must be at most " ++ toString maxPasswordLength)
  else
    let chars ← Action.onRandom (Random.times drawPasswordChar length)
    return .text ("Generated Password: " ++ String.ofList chars)

/-- A bound of the range, where the word is a number. -/
def bound (args : List String) (index : Nat) (default : Int) : Int :=
  (args[index]?.bind Text.integer64?).getD default

def runRandom (args : List String) : Action σ ν Output := do
  let least := bound args 0 0
  let greatest := bound args 1 100
  if greatest < least then Action.refuseUsage "Error: min must not exceed max"
  else
    let n ← Action.onRandom (Random.inRange (Int64.ofInt least) (Int64.ofInt greatest))
    return .text ("Random (" ++ toString least ++ "-" ++ toString greatest ++ "): " ++
      toString n.toInt)

/-! ## Notes and tasks -/

/-- Lines under a heading, numbered from one. -/
def numbered (heading : String) (entries : List String) : String :=
  Text.joinWith "\n"
    (heading :: entries.mapIdx fun i entry => toString (i + 1) ++ ". " ++ entry)

def decodeNotes? (text : String) : Option (List String) :=
  (Json.read text).bind (Json.list? Json.string?)

def encodeNotes (notes : List String) : Json := .array (notes.map Json.string)

/-- The stored notes. -/
def storedNotes (s : Store σ) : List String := (s.getJson? decodeNotes? Key.notes).getD []

/-- The stored tasks. -/
def storedTasks (s : Store σ) : List Task := (s.getJson? Task.decodeList? Key.tasks).getD []

def putNotes (notes : List String) : Action σ ν Unit :=
  Action.onStore (·.setJson Key.notes (encodeNotes notes))

def putTasks (tasks : List Task) : Action σ ν Unit :=
  Action.onStore (·.setJson Key.tasks (Task.encodeList tasks))

def runNote (args : List String) : Action σ ν Output := do
  let notes := storedNotes (← get).store
  match args with
  | "add" :: word :: words =>
    putNotes (notes ++ [Text.joinWith " " (word :: words)])
    return .text "Note added."
  | "list" :: _ => return .text (numbered "--- Notes ---" notes)
  | "clear" :: _ =>
    putNotes []
    return .text "Notes cleared."
  | _ => Action.refuseUsage ("Usage: " ++ noteUsage)

/-- A task as it is listed. -/
def taskText (t : Task) : String := (if t.done then "[x] " else "[ ] ") ++ t.text

def runTask (args : List String) : Action σ ν Output := do
  let tasks := storedTasks (← get).store
  match args with
  | "add" :: word :: words =>
    putTasks (tasks ++ [⟨Text.joinWith " " (word :: words), false⟩])
    return .text "Task added."
  | "done" :: number :: _ =>
    let tasks ← Action.required ((Text.natural64? number).bind (Task.finish? tasks))
      ("Error: No task " ++ number)
    putTasks tasks
    return .text ("Task " ++ number ++ " marked done.")
  | "list" :: _ => return .text (numbered "--- Tasks ---" (tasks.map taskText))
  | "clear" :: _ =>
    putTasks []
    return .text "Tasks cleared."
  | _ => Action.refuseUsage ("Usage: " ++ taskUsage)

/-! ## Timers -/

def timerUsage : String := "Usage: timer <seconds> | timer cancel"

def setTimer (seconds : Nat) (now : Instant) : Action σ ν Output := do
  let m ← get
  let scheduler ← Action.required (m.scheduler.addTimer? now seconds)
    "Error: Timer duration is too long"
  set { m with scheduler }
  return .lines [.system ("Timer set for " ++ toString seconds ++ " seconds...")]

def runTimer (args : List String) (now : Instant) : Action σ ν Output := do
  match args with
  | [] => Action.refuseUsage timerUsage
  | "cancel" :: _ =>
    let count ← Action.onScheduler Scheduler.cancelTimers
    return .lines [.system ("Cancelled " ++ toString count ++ " timer(s).")]
  | seconds :: _ =>
    let seconds ← Action.required (Text.natural64? seconds) timerUsage
    setTimer seconds now

/-! ## Export and statistics -/

/-- Writes a stored list into a file of the working directory. -/
def exportList (key file label : String) : Action σ ν Output := do
  let m ← get
  let data := (m.store.get? key).getD "[]"
  Action.onVolume (Files.Volume.writeFile m.session.cwd file data)
  let path ← Action.ofExcept (((← get).session.cwd.join file).mapError .files)
  return .text (label ++ " exported to " ++ path.render ++ ".")

def runExport (args : List String) : Action σ ν Output :=
  match args with
  | "notes" :: _ => exportList Key.notes "notes.json" "Notes"
  | "tasks" :: _ => exportList Key.tasks "tasks.json" "Tasks"
  | _ => Action.refuseUsage "Usage: export <notes | tasks>"

/-- How often names were used. -/
structure Counts where
  /-- The names with their numbers of uses, in the order of first use. -/
  table : Array (String × Nat) := #[]
  /-- The places of the names in the table. -/
  places : Std.HashMap String Nat := {}

/-- Counts one more use of a name. -/
def Counts.use (c : Counts) (name : String) : Except Abort Counts :=
  match c.places[name]? with
  | some i =>
    if h : i < c.table.size then
      .ok { c with table := c.table.set i (c.table[i].1, c.table[i].2 + 1) }
    else .error .place
  | none =>
    .ok ⟨c.table.push (name, 1), c.places.insert name c.table.size⟩

/-- How often each first word was used. -/
def useCounts (history : List String) : Except Abort Counts :=
  (history.map Text.firstWord).foldlM Counts.use {}

/-- The counts with the greatest first; of equal ones the name used first comes first. -/
def ranked (counts : List (String × Nat)) : List (String × Nat) :=
  counts.mergeSort fun a b => decide (b.2 ≤ a.2)

def statsText (s : Session) : Except Abort String := do
  let counts ← useCounts s.history
  return Text.joinWith "\n"
    (["--- Usage Statistics ---", "Total commands: " ++ toString s.history.length,
      "Current mode: " ++ s.mode.name, "", "Top 5 commands:"] ++
      ((ranked counts.table.toList).take 5).map fun (name, count) =>
        "  " ++ name ++ ": " ++ toString count)

def runStats : Action σ ν Output := do
  let session := (← get).session
  return .text (← Action.ofAbort (statsText session))

def run (c : Utility) (call : Call) : Action σ ν Output :=
  match c with
  | .password => runPassword call.args
  | .note => runNote call.args
  | .task => runTask call.args
  | .timer => runTimer call.args call.now
  | .random => runRandom call.args
  | .exporting => runExport call.args
  | .stats => runStats

end Utility

end DevConsole
