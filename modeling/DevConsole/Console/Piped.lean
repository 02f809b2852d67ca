import DevConsole.Console.Display
import DevConsole.Net.Table
import DevConsole.Shell.Basic
import DevConsole.Store.File

/-!
# Sessions without a terminal

A session whose lines come from a pipe. Each line is run and followed by a tick, without a prompt,
and the store is a file. The session ends with the input, at a line that is no text, or when a line
asks for it.
-/

namespace DevConsole

open Net

structure Piped where
  shell : Shell MountedStore Offline
  console : Console

namespace Piped

/-- The file that the configuration is read from when none is named. -/
def usualConfigFile : String := "devterm.toml"

/-- The variable of the environment that can name another one. -/
def configVariable : String := "DEVTERM_CONFIG"

/-- Starts a session, and gives what it writes at the start. -/
def start (config : Config) (disk : Disk) (clock : Clock) (random : Random) (colored : Bool) :
    String × Piped :=
  let store : Store MountedStore := ⟨⟨FileStore.load disk config.stateFile, disk⟩, []⟩
  let shell := Shell.start config store ⟨⟨⟩, []⟩ clock random
  let console : Console := ⟨shell.session.presentation.palette, false, colored, true⟩
  let (text, console) := console.render Shell.boot
  (text, ⟨shell, console⟩)

/-- The files after what has been done so far. -/
def disk (p : Piped) : Disk := p.shell.store.backend.disk

/-- The session under another reading of the clock. -/
def withClock (p : Piped) (clock : Clock) : Piped := { p with shell := { p.shell with clock } }

/-- The line shown in place of a program that needs a terminal. -/
def noTerminal : Display := [.write (.error "This program needs an interactive terminal.")]

/-- Runs a line and a tick after it. -/
def runLine (p : Piped) (now : Instant) (line : String) : Except Abort (String × Piped) := do
  let (shell, shown) ← p.shell.runLine now line
  let (shell, elapsed) ← shell.tick now
  let (program, shell) := shell.takeProgram
  let (text, console) :=
    p.console.render (shown ++ elapsed ++ if program.isSome then noTerminal else [])
  return (text, ⟨shell, console⟩)

/-! ## Whole sessions -/

/-- How a session ended. -/
inductive Ending where
  | finished
  | unreadable
  | aborted (a : Abort)
  deriving DecidableEq, Repr

/-- The exit code that tells the ending. -/
def Ending.code : Ending → Nat
  | .finished => 0
  | .unreadable => 1
  | .aborted _ => 101

/-- A line of octets as text. -/
def textOf? (octets : List UInt8) : Option String := String.fromUTF8? ⟨octets.toArray⟩

/-- A line without the carriage return that ends it. -/
def withoutReturn (octets : List UInt8) : List UInt8 :=
  if octets.getLast? = some 13 then octets.dropLast else octets

/-- The octets of a line as text. A carriage return counts to the end of a closed line. -/
def lineOf? (closed : Bool) (octets : List UInt8) : Option String :=
  textOf? (if closed then withoutReturn octets else octets)

/-- The lines of an input, `none` where one is no text. A line feed at the very end starts no line.
-/
def linesOf (octets : List UInt8) : List (Option String) :=
  match (octets.splitOn 10).reverse with
  | [] => []
  | last :: closed =>
    closed.reverse.map (lineOf? true) ++ if last.isEmpty then [] else [lineOf? false last]

/-- Runs lines up to the end of the session. -/
def runAll (now : Instant) : List (Option String) → Piped → String × Ending × Piped
  | [], p => ("", .finished, p)
  | none :: _, p => ("", .unreadable, p)
  | some line :: rest, p =>
    match p.runLine now line with
    | .error a => ("", .aborted a, p)
    | .ok (text, p) =>
      if p.shell.exitRequested then (text, .finished, p)
      else
        let (more, ending, p) := runAll now rest p
        (text ++ more, ending, p)

end Piped

end DevConsole
