import DevConsole.Json.Basic
import DevConsole.Decimal.Layout
import DevConsole.Text.Ascii

/-!
# Writing JSON

`compact` writes a value without blanks, `pretty` with every item and member on a line of its own,
two blanks deeper than what contains it. Both keep the order of the members.
-/

namespace DevConsole.Json

/-- How a character stands inside quotes. -/
def escaped (c : Char) : List Char :=
  if c = '"' then ['\\', '"']
  else if c = '\\' then ['\\', '\\']
  else if c = '\n' then ['\\', 'n']
  else if c = '\r' then ['\\', 'r']
  else if c = '\t' then ['\\', 't']
  else if c = '\x08' then ['\\', 'b']
  else if c = '\x0c' then ['\\', 'f']
  else if c.toNat < 32 then
    ['\\', 'u', '0', '0', Text.hexChar (c.toNat / 16), Text.hexChar (c.toNat % 16)]
  else [c]

/-- A text in quotes. -/
def quoted (s : String) : List Char := '"' :: (s.toList.flatMap escaped ++ ['"'])

def Number.text : Number → String
  | .natural n => toString n
  | .negative n => "-" ++ toString n
  | .decimal x => Decimal.jsonLayout.text x

/-- A value without inner structure. -/
def scalarText : Json → List Char
  | .bool true => "true".toList
  | .bool false => "false".toList
  | .number n => n.text.toList
  | .string s => quoted s
  | _ => "null".toList

mutual

def compactChars : Json → List Char
  | .array items => '[' :: compactItems items
  | .object members => '{' :: compactMembers members
  | v => scalarText v

/-- The items and the closing bracket. -/
def compactItems : List Json → List Char
  | [] => [']']
  | v :: vs =>
    compactChars v ++ match vs with
      | [] => [']']
      | w :: ws => ',' :: compactItems (w :: ws)

/-- The members and the closing brace. -/
def compactMembers : List (String × Json) → List Char
  | [] => ['}']
  | (name, v) :: rest =>
    quoted name ++ ':' :: (compactChars v ++ match rest with
      | [] => ['}']
      | m :: ms => ',' :: compactMembers (m :: ms))

end

/-- The value without blanks. -/
def compact (v : Json) : String := String.ofList (compactChars v)

/-- A line feed and the indentation of a nesting level. -/
def newLine (level : Nat) : List Char := '\n' :: List.replicate (2 * level) ' '

mutual

def prettyChars (level : Nat) : Json → List Char
  | .array [] => ['[', ']']
  | .array (v :: vs) => '[' :: prettyItems level (v :: vs)
  | .object [] => ['{', '}']
  | .object (m :: ms) => '{' :: prettyMembers level (m :: ms)
  | v => scalarText v

/-- The items, each on a new line, and the closing bracket on one too. -/
def prettyItems (level : Nat) : List Json → List Char
  | [] => newLine level ++ [']']
  | v :: vs =>
    newLine (level + 1) ++ prettyChars (level + 1) v ++ match vs with
      | [] => newLine level ++ [']']
      | w :: ws => ',' :: prettyItems level (w :: ws)

/-- The members, each on a new line, and the closing brace on one too. -/
def prettyMembers (level : Nat) : List (String × Json) → List Char
  | [] => newLine level ++ ['}']
  | (name, v) :: rest =>
    newLine (level + 1) ++ quoted name ++ ':' :: ' ' ::
      (prettyChars (level + 1) v ++ match rest with
        | [] => newLine level ++ ['}']
        | m :: ms => ',' :: prettyMembers level (m :: ms))

end

/-- The value on indented lines. -/
def pretty (v : Json) : String := String.ofList (prettyChars 0 v)

end DevConsole.Json
