import DevConsole.Command.Builtin
import DevConsole.Shell.Display

/-!
# The shell

A `Shell` is a machine with the profile of its session, a queue of lines to run, an editable line,
and what the last commands asked of the host. `dispatch` runs one line: it is recorded and shown
behind the prompt, its first word is looked up in the registry, and what the command gives is shown.
Lines are run strictly one after the other.
-/

namespace DevConsole

open Files Net

structure Shell (σ ν : Type) extends Machine σ ν where
  profile : Profile
  clock : Clock
  /-- The lines still to be run. -/
  queue : List String := []
  /-- The editable line. -/
  input : String := ""
  exitRequested : Bool := false
  /-- The program that the host is to run. -/
  program : Option Program := none

/-- What completing the name of a command comes to. -/
inductive Completion where
  | none
  | unique (name : String)
  | ambiguous (names : List String)
  deriving DecidableEq, Repr

/-- The presentation of the built-in commands. -/
def builtinInfos : Registry Unit := builtins.map fun _ => ()

namespace Shell

variable {σ ν : Type} [Backend σ] [Client ν]

/-- What a shell does: it is another one afterwards, and something has been shown. -/
abbrev Step (σ ν : Type) := Except Abort (Shell σ ν × Display)

/-- A shell over a store, with what the store holds of an earlier session. -/
def start (config : Config) (store : Store σ) (network : Network ν) (clock : Clock)
    (random : Random) : Shell σ ν :=
  let profile := Profile.ofConfig config
  let (volume, store) := Volume.load store
  { session := Session.restore store volume.tree profile
    volume, store, scheduler := {}, random, network, profile, clock }

/-! ## Prompt and banner -/

/-- What is left of a path below another one. -/
def below? (home : List String) (path : List String) : Option (List String) :=
  if home.isPrefixOf path then some (path.drop home.length) else none

/-- A directory as the prompt shows it: the home directory as a tilde. -/
def locationText (home cwd : Path) : String :=
  match below? home.segments cwd.segments with
  | some [] => "~"
  | some rest => "~/" ++ Text.joinWith "/" rest
  | none => cwd.render

def prompt (s : Shell σ ν) : String :=
  s.profile.user ++ "@" ++ s.profile.hostname ++ " [" ++ s.session.mode.name ++ "]:" ++
    locationText s.profile.home s.session.cwd ++ "$"

/-- What is shown when a session starts. -/
def boot : Display :=
  .ofLines
    [.system "BIOS CHECK ...................................... [OK]",
     .system "LOADING KERNEL .................................. [OK]",
     .system "MOUNTING VOLUMES ................................ [OK]",
     .system "NETWORK INTERFACE ............................... [ONLINE]",
     .success "Dev Terminal System v1.0",
     .plain "Type 'help' to see commands.",
     .plain "Type 'mode dev | crypto | network | tools | fs | fun' to switch.",
     .success "System ready.",
     .system "----------------------------------------"]

/-! ## Running lines -/

/-- A line taken apart: the name of the command and what comes after it. -/
structure Words where
  name : String
  rest : String
  deriving DecidableEq, Repr

/-- Takes a line without blanks around it apart. The name is in lower case. -/
def Words.ofLine (line : String) : Words :=
  let (first, rest) := Text.cutAtBlank line
  ⟨Text.lower first, Text.trimStart rest⟩

/-- Shows the output of a command and does what it asks of the shell. -/
def render (s : Shell σ ν) : Output → Shell σ ν × Display
  | .text text => (s, .ofLines ((Text.splitOn '\n' text).map Line.plain))
  | .lines lines => (s, .ofLines lines)
  | .nothing => (s, [])
  | .clear => (s, [.clear])
  | .exit farewell => ({ s with exitRequested := true }, [.write (.success farewell)])
  | .launch program =>
    ({ s with program := some program }, .ofLines (program.intro.map Line.system))

/-- Runs the action of a command and shows what it gives, or why it was refused. -/
def perform (s : Shell σ ν) (action : Action σ ν Output) : Step σ ν :=
  match action s.toMachine with
  | .ok output m => .ok (render { s with toMachine := m } output)
  | .error (.refused e) m => .ok ({ s with toMachine := m }, [.write (.error e.message)])
  | .error (.aborted a) _ => .error a

/-- The call of a command by a line. -/
def callOf (s : Shell σ ν) (now : Instant) (w : Words) : Call where
  args := Text.words w.rest
  rest := w.rest
  profile := s.profile
  clock := s.clock
  now := now
  registry := builtinInfos

/-- Runs a line that is not blank and has no blanks around it, after it has been recorded. -/
def execute (s : Shell σ ν) (now : Instant) (line : String) : Step σ ν :=
  let w := Words.ofLine line
  match builtins.resolve? w.name s.session.mode with
  | none => .ok (s, [.write (.error (Error.commandNotFound w.name).message)])
  | some c => s.perform (c.action.run (s.callOf now w))

/-- Runs one line. A blank one counts for nothing. -/
def dispatch (s : Shell σ ν) (now : Instant) (raw : String) : Step σ ν :=
  let line := Text.trim raw
  if line.isEmpty then .ok (s, [])
  else
    let recorded := { s with session := s.session.record line }
    let echo := DisplayEvent.write (.plain (s.prompt ++ " " ++ line))
    (recorded.execute now line).map fun (s, shown) => (s, echo :: shown)

/-- Queues a line. -/
def submit (s : Shell σ ν) (line : String) : Shell σ ν := { s with queue := s.queue ++ [line] }

/-- The number of queued lines. -/
def pending (s : Shell σ ν) : Nat := s.queue.length

/-- Takes the lines off the queue and runs them, one after the other. One that ends the session
drops those that are left. -/
def runQueue (now : Instant) : List String → Shell σ ν → Step σ ν
  | [], s => .ok (s, [])
  | line :: rest, s =>
    match dispatch { s with queue := rest } now line with
    | .error a => .error a
    | .ok (s, shown) =>
      if s.exitRequested then .ok ({ s with queue := [] }, shown)
      else (runQueue now rest s).map fun (s, more) => (s, shown ++ more)

/-- Runs the queued lines. -/
def processQueue (s : Shell σ ν) (now : Instant) : Step σ ν := runQueue now s.queue s

/-- Queues a line and runs the queue. -/
def runLine (s : Shell σ ν) (now : Instant) (line : String) : Step σ ν :=
  (s.submit line).processQueue now

/-- Takes note of the program to run, once. -/
def takeProgram (s : Shell σ ν) : Option Program × Shell σ ν :=
  (s.program, { s with program := none })

/-! ## Background -/

/-- Whether the price of an alert is known and has reached the target. -/
def firedAt? (alert : PriceAlert) : Except Error Float → Option Float
  | .ok price => if alert.isReached price then some price else none
  | .error _ => none

/-- Looks at the price of an alert whose time has come; an alert that fires is over. -/
def checkAlert (s : Shell σ ν) (alert : PriceAlert) : Shell σ ν × Display :=
  let (answer, network) := s.network.price alert.symbol
  let s := { s with network }
  match firedAt? alert answer with
  | none => (s, [])
  | some price =>
    ({ s with scheduler := s.scheduler.stopWatch.2 },
     [.write (.success ("ALERT: " ++ alert.symbol ++ " reached " ++ Decimal.dollars price ++
       " (target " ++ Decimal.dollars alert.target ++ ")"))])

/-- Does what is due: the timers that have run out, and the poll of the alert. -/
def tick (s : Shell σ ν) (now : Instant) : Step σ ν :=
  let (elapsed, scheduler) := s.scheduler.expireTimers now
  let done := elapsed.map fun seconds =>
    DisplayEvent.write (.success ("TIMER DONE: " ++ toString seconds ++ " seconds elapsed."))
  match scheduler.pollAlert now with
  | .error a => .error a
  | .ok (none, scheduler) => .ok ({ s with scheduler }, done)
  | .ok (some alert, scheduler) =>
    let (s, shown) := checkAlert { s with scheduler } alert
    .ok (s, done ++ shown)

end Shell

end DevConsole
