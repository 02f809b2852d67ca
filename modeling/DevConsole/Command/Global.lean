import DevConsole.Calendar
import DevConsole.Command.Action
import DevConsole.Unicode.Case

/-!
# Commands of all modes

Help, the clock, the mode, the look of the session, and leaving it. `mode`, `font`, `color` and
`theme` store what they set; a theme brings its own text color, so that setting one drops the color
set before.
-/

namespace DevConsole

inductive Global where
  | help
  | clear
  | about
  | date
  | time
  | mode
  | fullscreen
  | font
  | color
  | theme
  | neofetch
  | exit
  deriving DecidableEq, Repr

namespace Global

def all : List Global :=
  [.help, .clear, .about, .date, .time, .mode, .fullscreen, .font, .color, .theme, .neofetch, .exit]

def info : Global → Info
  | .help => ⟨"help", "List commands for current mode", "help"⟩
  | .clear => ⟨"clear", "Clear terminal output", "clear"⟩
  | .about => ⟨"about", "System information", "about"⟩
  | .date => ⟨"date", "Show current date", "date"⟩
  | .time => ⟨"time", "Show current time", "time"⟩
  | .mode => ⟨"mode", "Switch mode (dev | crypto | network | tools | fs | fun)", "mode [name]"⟩
  | .fullscreen => ⟨"fullscreen", "Toggle fullscreen mode", "fullscreen"⟩
  | .font =>
    ⟨"font", "Change font (classic | retro | modern)", "font <classic | retro | modern>"⟩
  | .color =>
    ⟨"color", "Change text color (green | red | blue | pink | white)",
     "color <green | red | blue | pink | white>"⟩
  | .theme =>
    ⟨"theme", "Change theme (matrix | cyberpunk | hacker | retro | ocean | dracula)",
     "theme [name]"⟩
  | .neofetch => ⟨"neofetch", "Display system information", "neofetch"⟩
  | .exit => ⟨"exit", "Exit terminal", "exit"⟩

/-! ## Help -/

/-- The lines of a table of commands. -/
def listingLines (infos : List Info) : List Line :=
  infos.map fun i => .plain (Text.padRight 15 i.name ++ " " ++ i.description)

def helpLines (r : Registry Unit) (mode : Mode) : List Line :=
  .system "--- Global Commands ---" :: listingLines (Registry.listing r.globals) ++
    .system ("--- " ++ Unicode.upper mode.name ++ " Commands ---") ::
      listingLines (Registry.listing (r.ofMode mode))

/-! ## System information -/

def logo : List String :=
  ["   ______   ",
   "  / ____ \\  ",
   " | |    | | ",
   " | | >_ | | ",
   " | |____| | ",
   "  \\______/  ",
   "   _|__|_   ",
   "            "]

/-- A span of seconds in hours, minutes and seconds, without leading parts that are zero. -/
def uptimeText (seconds : Nat) : String :=
  let h := seconds / 3600
  let m := seconds % 3600 / 60
  let s := toString (seconds % 60) ++ "s"
  if 0 < h then toString h ++ "h " ++ toString m ++ "m " ++ s
  else if 0 < m then toString m ++ "m " ++ s
  else s

/-- The version that the system information names. -/
def version : String := "0.1.0"

def systemText (profile : Profile) (session : Session) (uptime : Nat) : String :=
  let header := profile.user ++ "@" ++ profile.hostname
  let facts :=
    [header, Text.repeated header.length '-', "OS: Pro Terminal System v1.0",
     "Shell: devterm " ++ version, "Mode: " ++ session.mode.name,
     "Uptime: " ++ uptimeText uptime, "Theme: " ++ session.presentation.theme.name,
     "Font: " ++ session.presentation.font.name]
  Text.joinWith "\n" ((logo.zip facts).map fun (picture, fact) => picture ++ "  " ++ fact)

/-! ## Actions -/

variable {σ ν : Type} [Backend σ]

/-- What the clock shows. -/
def readMoment (clock : Clock) : Action σ ν Moment := do
  let shown ← Action.ofExcept clock.read
  Action.ofAbort (Moment.ofUnix shown.unix)

/-- Changes the look. -/
def onPresentation (f : Presentation → Presentation) : Action σ ν Unit :=
  Action.onSession fun s => { s with presentation := f s.presentation }

def runMode (args : List String) : Action σ ν Output := do
  let m ← get
  match args with
  | [] =>
    return .text
      ("Current mode: " ++ m.session.mode.name ++ "\nAvailable modes: " ++ Mode.names)
  | name :: _ =>
    let mode ← Action.ofExcept (Mode.parse name)
    let (session, store) := m.session.setMode mode m.store
    set { m with session, store }
    return .lines [.system ("Switched to " ++ mode.name ++ " mode.")]

def runFullscreen : Action σ ν Output := do
  onPresentation fun p => { p with fullscreen := !p.fullscreen }
  let state := if (← get).session.presentation.fullscreen then "enabled" else "disabled"
  return .lines [.system ("Fullscreen " ++ state ++ ".")]

def runFont (args : List String) : Action σ ν Output := do
  let font ← Action.required (args.head?.bind Font.ofName?) "Usage: font <classic | retro | modern>"
  onPresentation fun p => { p with font }
  Action.onStore (·.set Key.font font.name)
  return .text ("Font switched to " ++ font.name ++ ".")

def runColor (args : List String) : Action σ ν Output := do
  let color ← Action.required (args.head?.bind TextColor.ofName?)
    "Usage: color <green | red | blue | pink | white>"
  onPresentation fun p => { p with color := some color }
  Action.onStore (·.set Key.color color.name)
  return .text ("Color switched to " ++ color.name ++ ".")

def runTheme (args : List String) : Action σ ν Output := do
  match args with
  | [] =>
    return .text
      ("Current theme: " ++ (← get).session.presentation.theme.name ++ "\nAvailable: " ++
        Theme.names)
  | name :: _ =>
    let theme ← Action.required (Theme.ofName? name) ("Invalid theme. Available: " ++ Theme.names)
    onPresentation fun p => { p with theme, color := none }
    Action.onStore (·.set Key.theme theme.name)
    Action.onStore (·.remove Key.color)
    return .text ("Theme switched to " ++ theme.name ++ ".")

def run (c : Global) (call : Call) : Action σ ν Output :=
  match c with
  | .help => do return .lines (helpLines call.registry (← get).session.mode)
  | .clear => return .clear
  | .about => return .text "Pro Terminal System v1.0\nBuilt for professional use cases."
  | .date => do return .text (← readMoment call.clock).date
  | .time => do return .text (← readMoment call.clock).time
  | .mode => runMode call.args
  | .fullscreen => runFullscreen
  | .font => runFont call.args
  | .color => runColor call.args
  | .theme => runTheme call.args
  | .neofetch => do
    let shown ← Action.ofExcept call.clock.read
    return .text (systemText call.profile (← get).session shown.uptime)
  | .exit => return .exit "Goodbye!"

end Global

end DevConsole
