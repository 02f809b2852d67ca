/-!
# Cutting and joining text

`splitOn` cuts at every occurrence of a character and keeps empty pieces. `lines` cuts at line
feeds as a reader of lines does: the last line feed ends a line and starts none, and a carriage
return before it belongs to the line end.
-/

namespace DevConsole.Text

/-- The pieces between the occurrences of `sep`; one more than there are occurrences. -/
def splitOn (sep : Char) (s : String) : List String :=
  (s.toList.splitOn sep).map String.ofList

/-- The pieces with `sep` between them. -/
def joinWith (sep : String) (pieces : List String) : String := sep.intercalate pieces

/-- Puts `text` on a column of at least `width` characters, flush left. -/
def padRight (width : Nat) (text : String) : String :=
  text ++ String.ofList (List.replicate (width - text.length) ' ')

/-- `count` copies of a character. -/
def repeated (count : Nat) (c : Char) : String := String.ofList (List.replicate count c)

/-- A line without the carriage return that ends it. -/
def withoutReturn (line : List Char) : List Char :=
  if line.getLast? = some '\r' then line.dropLast else line

/-- The lines of a text, without their line ends. -/
def lines (s : String) : List String :=
  match (s.toList.splitOn '\n').reverse with
  | [] => []
  | last :: closed =>
    (closed.reverse.map withoutReturn ++ if last.isEmpty then [] else [last]).map String.ofList

end DevConsole.Text
