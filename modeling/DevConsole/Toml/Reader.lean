import DevConsole.Toml.Number

/-!
# Reading TOML

A document is a series of lines, each of which is blank, a key with its value, or a header. Arrays
and tables in braces are nested at most `maxDepth` deep, and a key has at most as many parts.
-/

namespace DevConsole.Toml

/-- The deepest nesting of arrays and tables in braces, and the greatest length of a key. -/
def maxDepth : Nat := 79

/-- A key of a length that is allowed. -/
def readPath (cs : List Char) : Read (List String) :=
  (readKey (cs.length + 1) cs).filter (·.1.length ≤ maxDepth)

mutual

/-- A value; arrays and tables may be nested `levels` deep. -/
def readValue : Nat → Nat → List Char → Read Value
  | 0, _, _ => none
  | fuel + 1, levels, cs =>
    match cs with
    | '[' :: rest => if levels = 0 then none else readItems fuel (levels - 1) rest
    | '{' :: rest =>
      if levels = 0 then none
      else
        match skipSpace rest with
        | '}' :: r => some (.table .inline [], r)
        | r => (readMembers fuel (levels - 1) r []).map fun (t, r) => (.table .inline t, r)
    | 't' :: 'r' :: 'u' :: 'e' :: r => some (.boolean true, r)
    | 'f' :: 'a' :: 'l' :: 's' :: 'e' :: r => some (.boolean false, r)
    | c :: _ =>
      if c = '"' ∨ c = '\'' then (readString cs).map fun (s, r) => (.string s, r)
      else if c = '+' ∨ c = '-' ∨ Text.isDigit c then readNumber cs
      else if c = 'i' ∨ c = 'n' then readFloat cs
      else none
    | [] => none

/-- The items of an array and its closing bracket. -/
def readItems : Nat → Nat → List Char → Read Value
  | 0, _, _ => none
  | fuel + 1, levels, cs =>
    match skipLines cs.length cs with
    | ']' :: r => some (.array [], r)
    | start =>
      match readValue fuel levels start with
      | none => none
      | some (v, r) =>
        match skipLines r.length r with
        | ']' :: r => some (.array [v], r)
        | ',' :: r =>
          match readItems fuel levels r with
          | some (.array vs, r) => some (.array (v :: vs), r)
          | _ => none
        | _ => none

/-- At least one member of a table in braces, and the closing brace. -/
def readMembers : Nat → Nat → List Char → Table → Read Table
  | 0, _, _, _ => none
  | fuel + 1, levels, cs, t =>
    match readPath cs with
    | some (path, '=' :: r) =>
      match readValue fuel levels (skipSpace r) with
      | none => none
      | some (v, r) =>
        match addKey? v true path t with
        | none => none
        | some t =>
          match skipSpace r with
          | '}' :: r => some (t, r)
          | ',' :: r => readMembers fuel levels r t
          | _ => none
    | _ => none

end

/-! ## Documents -/

/-- A document as far as it is read, and the path of the header in force. -/
structure Progress where
  table : Table := []
  header : List String := []

/-- A header, after its brackets have been opened. -/
def readHeader (opened : List Char) (close : List Char)
    (extend : List String → Table → Option Table) (p : Progress) : Read Progress :=
  (readPath opened).bind fun (path, r) =>
    if close.isPrefixOf r then
      (extend path p.table).map fun table => (⟨table, path⟩, r.drop close.length)
    else none

/-- A key with its value. -/
def readKeyValue (cs : List Char) (p : Progress) : Read Progress :=
  match readPath cs with
  | some (path, '=' :: r) =>
    (readValue (2 * r.length + 2) maxDepth (skipSpace r)).bind fun (v, r) =>
      (changeAt? (addKey? v true path) p.header p.table).map fun table => ({ p with table }, r)
  | _ => none

/-- What stands on a line besides blanks and a comment. -/
def readStatement (cs : List Char) (p : Progress) : Read Progress :=
  match cs with
  | '[' :: '[' :: rest => readHeader rest [']', ']'] openElement? p
  | '[' :: rest => readHeader rest [']'] openTable? p
  | c :: _ => if c = '\n' ∨ c = '\r' ∨ c = '#' then some (p, cs) else readKeyValue cs p
  | [] => some (p, [])

/-- The lines of a document. -/
def readStatements : Nat → List Char → Progress → Option Table
  | 0, _, _ => none
  | fuel + 1, cs, p =>
    match readStatement (skipSpace cs) p with
    | none => none
    | some (p, r) =>
      match skipComment (skipSpace r) with
      | [] => some p.table
      | r => (readNewline r).bind fun rest => readStatements fuel rest p

/-- The table that a text describes. A byte order mark at its start is passed over. -/
def read (text : String) : Option Table :=
  let cs := match text.toList with
    | '\ufeff' :: rest => rest
    | cs => cs
  readStatements (cs.length + 1) cs {}

end DevConsole.Toml
