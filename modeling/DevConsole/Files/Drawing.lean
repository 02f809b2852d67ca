import DevConsole.Files.Tree

/-!
# Drawing trees

A walk is drawn with one line for each entry: a column for every directory above it, a connector,
and the name. A column is left empty below the last entry of its directory.
-/

namespace DevConsole.Files

/-- The column of a directory above an entry. -/
def column (isLast : Bool) : String := if isLast then "    " else "│   "

/-- Draws the entries; `above` says of each directory on the way down to the entry drawn last, that
one included, whether it is the last of its siblings. -/
def drawFrom (above : List Bool) : List Visited → List String
  | [] => []
  | e :: rest =>
    let above := above.take e.depth
    let line := String.join (above.map column) ++ (if e.isLast then "└── " else "├── ") ++ e.name ++
      if e.isDirectory then "/" else ""
    line :: drawFrom (above ++ [e.isLast]) rest

/-- The lines of a walk. -/
def draw (walk : List Visited) : List String := drawFrom [] walk

end DevConsole.Files
