import DevConsole.Store.Basic
import DevConsole.Text.Lines

/-!
# Fonts, colors and themes

The look of a session. Each setting has a name, under which it is stored and asked for; `ofName?`
finds the setting of a name. A text color stands in for the text color of the theme.
-/

namespace DevConsole

inductive Font where
  | classic
  | retro
  | modern
  deriving DecidableEq, Repr

namespace Font

def all : List Font := [.classic, .retro, .modern]

def name : Font → String
  | .classic => "classic"
  | .retro => "retro"
  | .modern => "modern"

def ofName? (name : String) : Option Font := all.find? (·.name == name)

end Font

inductive TextColor where
  | green
  | red
  | blue
  | pink
  | white
  deriving DecidableEq, Repr

namespace TextColor

def all : List TextColor := [.green, .red, .blue, .pink, .white]

def name : TextColor → String
  | .green => "green"
  | .red => "red"
  | .blue => "blue"
  | .pink => "pink"
  | .white => "white"

def hex : TextColor → String
  | .green => "#33ff33"
  | .red => "#ff3333"
  | .blue => "#33ccff"
  | .pink => "#ff33cc"
  | .white => "#ffffff"

def ofName? (name : String) : Option TextColor := all.find? (·.name == name)

end TextColor

/-- The colors of a theme, in hexadecimal. -/
structure Palette where
  background : String
  text : String
  secondary : String
  error : String
  prompt : String
  deriving DecidableEq, Repr

inductive Theme where
  | matrix
  | cyberpunk
  | hacker
  | retro
  | ocean
  | dracula
  deriving DecidableEq, Repr

namespace Theme

def all : List Theme := [.matrix, .cyberpunk, .hacker, .retro, .ocean, .dracula]

def name : Theme → String
  | .matrix => "matrix"
  | .cyberpunk => "cyberpunk"
  | .hacker => "hacker"
  | .retro => "retro"
  | .ocean => "ocean"
  | .dracula => "dracula"

def ofName? (name : String) : Option Theme := all.find? (·.name == name)

def palette : Theme → Palette
  | .matrix => ⟨"#0d0d0d", "#33ff33", "#cccccc", "#ff3333", "#00ccff"⟩
  | .cyberpunk => ⟨"#0a0a0a", "#ff00ff", "#00ffff", "#ff0066", "#00ffff"⟩
  | .hacker => ⟨"#000000", "#00ff00", "#00cc00", "#ff0000", "#00ff00"⟩
  | .retro => ⟨"#1a1a1a", "#ffb000", "#ff8800", "#ff0000", "#ffcc00"⟩
  | .ocean => ⟨"#001a33", "#00ccff", "#0099cc", "#ff6666", "#00ffff"⟩
  | .dracula => ⟨"#282a36", "#f8f8f2", "#6272a4", "#ff5555", "#50fa7b"⟩

/-- The names of the themes, with commas between them. -/
def names : String := Text.joinWith ", " (all.map name)

end Theme

/-- The look of a session. -/
structure Presentation where
  font : Font := .classic
  /-- A text color in place of that of the theme. -/
  color : Option TextColor := none
  theme : Theme := .matrix
  fullscreen : Bool := false
  deriving DecidableEq, Repr

namespace Presentation

/-- The stored look; names that no setting has are passed over. -/
def load {σ : Type} [Backend σ] (s : Store σ) : Presentation where
  font := ((s.get? Key.font).bind Font.ofName?).getD .classic
  color := (s.get? Key.color).bind TextColor.ofName?
  theme := ((s.get? Key.theme).bind Theme.ofName?).getD .matrix

/-- The colors in use. -/
def palette (p : Presentation) : Palette :=
  match p.color with
  | none => p.theme.palette
  | some color => { p.theme.palette with text := color.hex }

end Presentation

end DevConsole
