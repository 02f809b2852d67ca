import DevConsole.Config
import DevConsole.Files.Volume
import DevConsole.Game.Blackjack
import DevConsole.Mode
import DevConsole.Presentation

/-!
# Sessions

A `Profile` is what the configuration fixes for a session, a `Session` is what changes in it: the
mode, the working directory, the lines run so far with a cursor to recall them, the look, and the
round of blackjack in progress. `restore` starts one from what is stored.
-/

namespace DevConsole

open Files

/-- The fixed identity of a session. -/
structure Profile where
  user : String
  hostname : String
  home : Path
  defaultMode : Mode
  /-- Seconds between two looks at the price of an alert, at least one. -/
  alertInterval : Nat
  deriving DecidableEq, Repr

/-- What a configuration says. A mode that does not exist is the development mode. -/
def Profile.ofConfig (c : Config) : Profile where
  user := c.user
  hostname := c.hostname
  home := Path.parse c.home
  defaultMode := (Mode.ofName? c.defaultMode).getD .development
  alertInterval := max c.alertIntervalSecs 1

/-- Where the recalling of earlier lines stands. -/
inductive Cursor where
  | line (index : Nat)
  /-- On a fresh line. -/
  | pastEnd
  deriving DecidableEq, Repr

structure Session where
  mode : Mode
  cwd : Path
  /-- The lines run so far. -/
  history : List String := []
  cursor : Cursor := .pastEnd
  presentation : Presentation := {}
  /-- The round in progress. -/
  blackjack : Option Blackjack.Round := none
  deriving Repr

namespace Session

variable {σ : Type} [Backend σ]

/-- The state at the start: the stored mode or that of the profile, the home directory if there is
one, else the root, and the stored look. -/
def restore (s : Store σ) (tree : Tree) (profile : Profile) : Session where
  mode := ((s.get? Key.mode).bind Mode.ofName?).getD profile.defaultMode
  cwd := if tree.isDirectory profile.home then profile.home else Path.root
  presentation := Presentation.load s

/-- Switches the mode and stores it. -/
def setMode (session : Session) (mode : Mode) (s : Store σ) : Session × Store σ :=
  ({ session with mode }, s.set Key.mode mode.name)

/-- Adds a line; the cursor goes past the end. -/
def record (session : Session) (line : String) : Session :=
  { session with history := session.history ++ [line], cursor := .pastEnd }

/-- The line before the cursor, which moves there; the first line stays the first. Without any lines
there is none to go to. -/
def historyBack (session : Session) : Option String × Session :=
  if session.history.isEmpty then (none, session)
  else
    let index := match session.cursor with
      | .pastEnd => session.history.length - 1
      | .line i => i - 1
    (session.history[index]?, { session with cursor := .line index })

/-- The line after the cursor, which moves there; past the last line stands the empty one. -/
def historyForward (session : Session) : String × Session :=
  let past := ("", { session with cursor := .pastEnd })
  match session.cursor with
  | .pastEnd => past
  | .line i =>
    match session.history[i + 1]? with
    | some line => (line, { session with cursor := .line (i + 1) })
    | none => past

end Session

end DevConsole
