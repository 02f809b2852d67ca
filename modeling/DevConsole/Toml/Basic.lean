import DevConsole.Entries

/-!
# TOML documents

A `Value` is what stands under a key: a scalar, an array, or a table. Tables remember how they came
about, since that decides what may still be added: `addKey?` adds a key that is written with dots,
`openTable?` and `openElement?` are the headers of a table and of an array element.
-/

namespace DevConsole.Toml

/-- How a table came about. -/
inductive Origin where
  /-- Written out in braces; nothing can be added. -/
  | inline
  /-- Opened by a header of its own. -/
  | header
  /-- On the way to a table that a header opens. -/
  | implied
  /-- On the way to a key that is written with dots. -/
  | dotted
  deriving DecidableEq, Repr

inductive Value where
  | string (s : String)
  | integer (n : Int)
  | float (x : Float)
  | boolean (b : Bool)
  /-- A date, a time of day or both. -/
  | moment
  | array (items : List Value)
  | table (origin : Origin) (entries : List (String × Value))
  /-- The elements that the headers of an array opened. -/
  | tables (elements : List (List (String × Value)))
  deriving Repr

/-- The entries of a table. -/
abbrev Table := Entries Value

/-- Adds a value under the last of the names, making the tables on the way. The table that gets it
must be `ready`: the one of the current header, or one that only keys with dots have made. -/
def addKey? (v : Value) (ready : Bool) : List String → Table → Option Table
  | [], _ => none
  | [key], t => if !ready || t.contains key then none else some (t.insert key v)
  | name :: rest, t =>
    match t.find? name with
    | none => (addKey? v true rest []).map fun sub => t.insert name (.table .dotted sub)
    | some (.table origin sub) =>
      if origin = .dotted ∨ origin = .implied then
        (addKey? v (origin = .dotted) rest sub).map fun sub => t.insert name (.table origin sub)
      else none
    | some (.tables elements) =>
      (addKey? v false rest (elements.getLastD [])).map fun sub =>
        t.insert name (.tables (elements.dropLast ++ [sub]))
    | some _ => none

/-- Changes the table that names lead to; an array of tables leads to its last element. Missing
tables are made on the way. -/
def changeAt? (f : Table → Option Table) : List String → Table → Option Table
  | [], t => f t
  | name :: rest, t =>
    match t.find? name with
    | none => (changeAt? f rest []).map fun sub => t.insert name (.table .implied sub)
    | some (.table origin sub) =>
      if origin = .inline then none
      else (changeAt? f rest sub).map fun sub => t.insert name (.table origin sub)
    | some (.tables elements) =>
      (changeAt? f rest (elements.getLastD [])).map fun sub =>
        t.insert name (.tables (elements.dropLast ++ [sub]))
    | some _ => none

/-- Opens a table under a key that has none yet, or one that is only implied. -/
def openKey? (key : String) (t : Table) : Option Table :=
  match t.find? key with
  | none => some (t.insert key (.table .header []))
  | some (.table .implied sub) => some (t.insert key (.table .header sub))
  | some _ => none

/-- Adds an element to the array of tables under a key. -/
def openElementKey? (key : String) (t : Table) : Option Table :=
  match t.find? key with
  | none => some (t.insert key (.tables [[]]))
  | some (.tables elements) => some (t.insert key (.tables (elements ++ [[]])))
  | some _ => none

/-- The header of a table. -/
def openTable? (path : List String) (t : Table) : Option Table :=
  path.getLast?.bind fun key => changeAt? (openKey? key) path.dropLast t

/-- The header of an element of an array of tables. -/
def openElement? (path : List String) (t : Table) : Option Table :=
  path.getLast?.bind fun key => changeAt? (openElementKey? key) path.dropLast t

end DevConsole.Toml
