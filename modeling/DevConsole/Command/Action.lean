import DevConsole.Clock
import DevConsole.Command.Output
import DevConsole.Command.Registry
import DevConsole.Net.Client
import DevConsole.Scheduler
import DevConsole.Session

/-!
# Actions

An `Action` is what a command does to the `Machine` of the session. It gives a result or stops,
either because the command is refused, with an error to show, or because the program cannot go on;
what was changed before stays changed. Actions are built from operations on the parts of the
machine: `onStore`, `onNetwork`, `onRandom`, `onScheduler`, `onSession`, `onVolume` and
`onDirectory`.
-/

namespace DevConsole

open Files Net

/-- Everything that a command may change. -/
structure Machine (σ ν : Type) where
  session : Session
  volume : Volume
  store : Store σ
  scheduler : Scheduler
  random : Random
  network : Network ν

/-- What a command is called with. -/
structure Call where
  /-- The words after the name of the command. -/
  args : List String
  /-- The line after the name of the command, as it was typed. -/
  rest : String
  profile : Profile
  clock : Clock
  /-- The time of the call on the monotonic clock. -/
  now : Instant
  /-- The commands there are. -/
  registry : Registry Unit

/-- Why an action stops. -/
inductive Stop where
  | refused (e : Error)
  | aborted (a : Abort)
  deriving DecidableEq, Repr

abbrev Action (σ ν : Type) := EStateM Stop (Machine σ ν)

namespace Action

variable {σ ν α : Type}

def refuse (e : Error) : Action σ ν α := throw (.refused e)

/-- Refuses with a text that is shown as it is. -/
def refuseUsage (text : String) : Action σ ν α := refuse (.usage text)

def abort (a : Abort) : Action σ ν α := throw (.aborted a)

/-- The value of a computation, or its refusal. -/
def ofExcept : Except Error α → Action σ ν α
  | .ok a => pure a
  | .error e => refuse e

/-- The value of a computation that may not be able to go on. -/
def ofAbort : Except Abort α → Action σ ν α
  | .ok a => pure a
  | .error a => abort a

/-- The value, or a refusal with the text. -/
def required (a : Option α) (text : String) : Action σ ν α :=
  match a with
  | some a => pure a
  | none => refuseUsage text

/-! ## Operations on parts -/

def onSession (f : Session → Session) : Action σ ν Unit :=
  modify fun m => { m with session := f m.session }

def onStore (f : Store σ → Store σ) : Action σ ν Unit :=
  modify fun m => { m with store := f m.store }

def onScheduler (f : Scheduler → α × Scheduler) : Action σ ν α :=
  modifyGet fun m => let (a, scheduler) := f m.scheduler; (a, { m with scheduler })

def onRandom (f : Random → α × Random) : Action σ ν α :=
  modifyGet fun m => let (a, random) := f m.random; (a, { m with random })

def onNetwork (f : Network ν → α × Network ν) : Action σ ν α :=
  modifyGet fun m => let (a, network) := f m.network; (a, { m with network })

/-- Runs an operation on the volume and the store. -/
def onVolume (f : Operation σ α) : Action σ ν α := fun m =>
  match f (m.volume, m.store) with
  | .ok a (volume, store) => .ok a { m with volume, store }
  | .error e (volume, store) => .error (.refused (.files e)) { m with volume, store }

/-- Works on the working directory, with the tree at hand. -/
def onDirectory (f : Tree → EStateM FileError Path α) : Action σ ν α := fun m =>
  match f m.volume.tree m.session.cwd with
  | .ok a cwd => .ok a { m with session := { m.session with cwd } }
  | .error e cwd => .error (.refused (.files e)) { m with session := { m.session with cwd } }

/-- What reading the tree gives, or its refusal. -/
def readTree (f : Tree → Except FileError α) : Action σ ν α := do
  ofExcept ((f (← get).volume.tree).mapError .files)

/-! ## Queries -/

variable [Client ν]

def price (symbol : String) : Action σ ν (Except Error Float) := onNetwork (·.price symbol)

end Action

end DevConsole
