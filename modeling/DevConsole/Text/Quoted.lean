import DevConsole.Text.Ascii
import DevConsole.Text.Lines
import DevConsole.Unicode.Property

/-!
# Texts shown in quotes

Where an error message shows a value, texts stand in double quotes: quotes, backslashes and the
common control characters are escaped, and everything else that leaves no mark of its own is written
by its number.
-/

namespace DevConsole.Text

/-- How a character stands between the quotes. -/
def quotedChar (c : Char) : List Char :=
  if c = '\x00' then ['\\', '0']
  else if c = '\t' then ['\\', 't']
  else if c = '\r' then ['\\', 'r']
  else if c = '\n' then ['\\', 'n']
  else if c = '"' then ['\\', '"']
  else if c = '\\' then ['\\', '\\']
  else if Unicode.isPrintable c then [c]
  else "\\u\x7b".toList ++ (hex c.toNat).toList ++ ['}']

def quoted (s : String) : String := String.ofList ('"' :: (s.toList.flatMap quotedChar ++ ['"']))

/-- A list of texts in quotes. -/
def quotedList (items : List String) : String := "[" ++ joinWith ", " (items.map quoted) ++ "]"

end DevConsole.Text
