import DevConsole.Text.Blank
import DevConsole.Text.Lines
import DevConsole.Unicode.Case

/-!
# Block letters and a cow

`banner` writes a text in letters of five rows, `cowsay` puts it into the mouth of a cow.
-/

namespace DevConsole.Banner

/-- The five rows of a character. -/
def glyph (c : Char) : List String :=
  match c with
  | 'A' => [" ## ", "#  #", "####", "#  #", "#  #"]
  | 'B' => ["### ", "#  #", "### ", "#  #", "### "]
  | 'C' => [" ###", "#   ", "#   ", "#   ", " ###"]
  | 'D' => ["### ", "#  #", "#  #", "#  #", "### "]
  | 'E' => ["####", "#   ", "### ", "#   ", "####"]
  | 'F' => ["####", "#   ", "### ", "#   ", "#   "]
  | 'G' => [" ###", "#   ", "# ##", "#  #", " ###"]
  | 'H' => ["#  #", "#  #", "####", "#  #", "#  #"]
  | 'I' => ["###", " # ", " # ", " # ", "###"]
  | 'J' => ["  ##", "   #", "   #", "#  #", " ## "]
  | 'K' => ["#  #", "# # ", "##  ", "# # ", "#  #"]
  | 'L' => ["#   ", "#   ", "#   ", "#   ", "####"]
  | 'M' => ["#   #", "## ##", "# # #", "#   #", "#   #"]
  | 'N' => ["#  #", "## #", "# ##", "#  #", "#  #"]
  | 'O' => [" ## ", "#  #", "#  #", "#  #", " ## "]
  | '0' => [" ## ", "#  #", "#  #", "#  #", " ## "]
  | 'P' => ["### ", "#  #", "### ", "#   ", "#   "]
  | 'Q' => [" ## ", "#  #", "#  #", "# ##", " ###"]
  | 'R' => ["### ", "#  #", "### ", "# # ", "#  #"]
  | 'S' => [" ###", "#   ", " ## ", "   #", "### "]
  | 'T' => ["#####", "  #  ", "  #  ", "  #  ", "  #  "]
  | 'U' => ["#  #", "#  #", "#  #", "#  #", " ## "]
  | 'V' => ["#   #", "#   #", " # # ", " # # ", "  #  "]
  | 'W' => ["#   #", "#   #", "# # #", "## ##", "#   #"]
  | 'X' => ["#   #", " # # ", "  #  ", " # # ", "#   #"]
  | 'Y' => ["#   #", " # # ", "  #  ", "  #  ", "  #  "]
  | 'Z' => ["####", "   #", "  # ", " #  ", "####"]
  | '1' => [" # ", "## ", " # ", " # ", "###"]
  | '2' => ["### ", "   #", " ## ", "#   ", "####"]
  | '3' => ["### ", "   #", " ## ", "   #", "### "]
  | '4' => ["#  #", "#  #", "####", "   #", "   #"]
  | '5' => ["####", "#   ", "### ", "   #", "### "]
  | '6' => [" ## ", "#   ", "### ", "#  #", " ## "]
  | '7' => ["####", "   #", "  # ", " #  ", " #  "]
  | '8' => [" ## ", "#  #", " ## ", "#  #", " ## "]
  | '9' => [" ## ", "#  #", " ###", "   #", " ## "]
  | '!' => ["#", "#", "#", " ", "#"]
  | ' ' => ["  ", "  ", "  ", "  ", "  "]
  | _ => ["   ", " ? ", "   ", "   ", "   "]

/-- One of the five rows of a text, with a blank after every letter. -/
def row (text : List Char) (index : Nat) : String :=
  Text.trimEnd (String.join (text.map fun c => (glyph c).getD index "" ++ " "))

/-- A text in block letters. -/
def banner (text : String) : String :=
  Text.joinWith "\n" ((List.range 5).map (row (Unicode.upper text).toList))

/-- The cow under its speech bubble. -/
def cow : String :=
  "        \\   ^__^\n" ++
  "         \\  (oo)\\_______\n" ++
  "            (__)\\       )\\/\\\n" ++
  "                ||----w |\n" ++
  "                ||     ||"

/-- A cow that says a text. -/
def cowsay (text : String) : String :=
  let width := text.length + 2
  " " ++ Text.repeated width '_' ++ "\n< " ++ text ++ " >\n " ++ Text.repeated width '-' ++ "\n" ++
    cow

end DevConsole.Banner
