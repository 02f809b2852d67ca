import DevConsole.Command.Output
import DevConsole.Presentation
import DevConsole.Shell.Display
import DevConsole.Text.Integer
import DevConsole.Text.Octets

/-!
# The console

How lines and the prompt are written to a console, with escape sequences for colors and the place of
the cursor. In raw mode the cursor stands on the line of the prompt, so that a line of output wipes
it first; the prompt is drawn again only after something has changed.
-/

namespace DevConsole

/-- A color by its three channels. -/
structure Color where
  red : Nat
  green : Nat
  blue : Nat
  deriving DecidableEq, Repr

namespace Color

/-- A channel: a number in base sixteen in the two octets from the place `start` on. -/
def channel? (digits : List Char) (start : Nat) : Option Nat :=
  (Text.octetsAt? start 2 digits).bind (Text.readNatural? 16 Text.hexDigit? 255)

/-- A color in hexadecimal: a hash sign and six octets for the channels. -/
def ofHex? (text : String) : Option Color :=
  match text.toList with
  | '#' :: digits =>
    if (String.ofList digits).utf8ByteSize = 6 then
      (channel? digits 0).bind fun red => (channel? digits 2).bind fun green =>
        (channel? digits 4).map fun blue => ⟨red, green, blue⟩
    else none
  | _ => none

end Color

/-! ## Escape sequences -/

namespace Escape

def sequence (code : String) : String := "\x1b[" ++ code

/-- Goes to the first column. -/
def firstColumn : String := sequence "1G"
def clearLine : String := sequence "2K"
def clearAll : String := sequence "2J"

/-- Goes to the upper left corner. -/
def home : String := sequence "1;1H"

def foreground (c : Color) : String :=
  sequence ("38;2;" ++ toString c.red ++ ";" ++ toString c.green ++ ";" ++ toString c.blue ++ "m")

/-- Goes back to the usual colors. -/
def reset : String := sequence "0m"

/-- A text in a color, if there is one. -/
def colored (color : Option Color) (text : String) : String :=
  match color with
  | some c => foreground c ++ text ++ reset
  | none => text

end Escape

structure Console where
  palette : Palette
  /-- Whether the console shows characters and line ends just as they are written. -/
  raw : Bool
  colored : Bool
  /-- Whether the prompt has to be drawn again. -/
  dirty : Bool := true
  deriving DecidableEq, Repr

namespace Console

/-- Takes up other colors. -/
def setPalette (c : Console) (palette : Palette) : Console :=
  if c.palette = palette then c else { c with palette, dirty := true }

/-- A color of the palette, where the console shows colors. -/
def shown (c : Console) (hex : String) : Option Color :=
  if c.colored then Color.ofHex? hex else none

def colorOf (c : Console) : Option Style → Option Color
  | none => c.shown c.palette.text
  | some .system => c.shown c.palette.secondary
  | some .success => c.shown c.palette.prompt
  | some .error => c.shown c.palette.error

def lineEnd (c : Console) : String := if c.raw then "\r\n" else "\n"

/-- What is written for a line, and the console after it. -/
def write (c : Console) (line : Line) : String × Console :=
  let wipe := if c.raw then Escape.firstColumn ++ Escape.clearLine else ""
  (wipe ++ Escape.colored (c.colorOf line.style) line.text ++ c.lineEnd, { c with dirty := true })

def clear (c : Console) : String × Console :=
  (Escape.clearAll ++ Escape.home, { c with dirty := true })

/-- What is written for an event on the display. -/
def event (c : Console) : DisplayEvent → String × Console
  | .write line => c.write line
  | .clear => c.clear

/-- What is written for all that happens on a display. -/
def render (c : Console) : Display → String × Console
  | [] => ("", c)
  | e :: rest =>
    let (text, c) := c.event e
    let (more, c) := c.render rest
    (text ++ more, c)

/-- Draws the prompt and the editable line, if something has changed or `force` asks for it. -/
def drawPrompt (c : Console) (prompt input : String) (force : Bool) : String × Console :=
  if c.dirty || force then
    (Escape.firstColumn ++ Escape.clearLine ++ Escape.colored (c.shown c.palette.prompt) prompt ++
      " " ++ input, { c with dirty := false })
  else ("", c)

/-- Leaves the cursor on a fresh line. -/
def finish (c : Console) : String := c.lineEnd

end Console

end DevConsole
