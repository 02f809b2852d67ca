import DevConsole.Text.Integer

/-!
# Texts and keys in TOML

The four ways to write a string, comments, line ends, and keys. A reader gives what it read and the
text after it.
-/

namespace DevConsole.Toml

/-- What a reader of `α` gives. -/
abbrev Read (α : Type) := Option (α × List Char)

/-- A blank or a tab. -/
def isSpace (c : Char) : Bool := c == ' ' || c == '\t'

def skipSpace (cs : List Char) : List Char := cs.dropWhile isSpace

/-- A character that may stand in a comment or in quotes as it is. -/
def isPlain (c : Char) : Bool := c == '\t' || (' ' ≤ c && c != '\x7f')

/-- The text after a line end. -/
def readNewline : List Char → Option (List Char)
  | '\n' :: rest => some rest
  | '\r' :: '\n' :: rest => some rest
  | _ => none

/-- The text after a comment, which ends before a line end. -/
def skipComment : List Char → List Char
  | '#' :: rest => rest.dropWhile isPlain
  | cs => cs

/-- The text after blanks, comments and line ends. -/
def skipLines : Nat → List Char → List Char
  | 0, cs => cs
  | fuel + 1, cs =>
    let start := skipComment (skipSpace cs)
    match readNewline start with
    | some rest => skipLines fuel rest
    | none => start

/-- The text after blanks and line ends. A carriage return alone is none of them. -/
def skipBlankLines : List Char → List Char
  | '\r' :: '\n' :: rest => skipBlankLines rest
  | c :: rest => if isSpace c || c == '\n' then skipBlankLines rest else c :: rest
  | [] => []

/-! ## Strings -/

/-- A character given by its number. -/
def charOf? (n : Nat) : Option Char := if n.isValidChar then some (Char.ofNat n) else none

/-- An escape, after its backslash. -/
def readEscape : List Char → Read Char
  | 'u' :: rest => readNumber 4 rest
  | 'U' :: rest => readNumber 8 rest
  | 'b' :: rest => some ('\x08', rest)
  | 't' :: rest => some ('\t', rest)
  | 'n' :: rest => some ('\n', rest)
  | 'f' :: rest => some ('\x0c', rest)
  | 'r' :: rest => some ('\r', rest)
  | '"' :: rest => some ('"', rest)
  | '\\' :: rest => some ('\\', rest)
  | _ => none
where
  readNumber (count : Nat) (cs : List Char) : Read Char :=
    if cs.length < count then none
    else
      ((Text.digitsValue? 16 Text.hexDigit? (cs.take count)).bind charOf?).map fun c =>
        (c, cs.drop count)

/-- A string on one line, after its opening quote. Only between double quotes are there escapes. -/
def readLine (quote : Char) : Nat → List Char → Read (List Char)
  | 0, _ => none
  | _, [] => none
  | fuel + 1, c :: rest =>
    if c = quote then some ([], rest)
    else if c = '\\' ∧ quote = '"' then
      match readEscape rest with
      | none => none
      | some (e, rest) => (readLine quote fuel rest).map fun (cs, r) => (e :: cs, r)
    else if isPlain c then (readLine quote fuel rest).map fun (cs, r) => (c :: cs, r)
    else none

/-- The quotes that a run of quotes adds to a string on several lines: a run of three or more ends
the string, and may have up to two more that belong to it. -/
def closing? (run : Nat) : Option Nat := if 3 ≤ run ∧ run ≤ 5 then some (run - 3) else none

/-- A string on several lines, after its opening quotes. A backslash at the end of a line takes away
the line end and the blanks after it. -/
def readBlock (quote : Char) : Nat → List Char → Read (List Char)
  | 0, _ => none
  | _, [] => none
  | fuel + 1, c :: rest =>
    if c = quote then
      let run := (c :: rest).takeWhile (· = quote)
      let after := (c :: rest).dropWhile (· = quote)
      if run.length < 3 then (readBlock quote fuel after).map fun (cs, r) => (run ++ cs, r)
      else (closing? run.length).map fun extra => (List.replicate extra quote, after)
    else if c = '\\' ∧ quote = '"' then
      match readNewline (skipSpace rest) with
      | some next => readBlock quote fuel (skipBlankLines next)
      | none =>
        match readEscape rest with
        | none => none
        | some (e, rest) => (readBlock quote fuel rest).map fun (cs, r) => (e :: cs, r)
    else
      match readNewline (c :: rest) with
      | some next => (readBlock quote fuel next).map fun (cs, r) => ('\n' :: cs, r)
      | none =>
        if isPlain c then (readBlock quote fuel rest).map fun (cs, r) => (c :: cs, r) else none

/-- A string on one line. -/
def readShortString : List Char → Read String
  | '"' :: rest => (readLine '"' (rest.length + 1) rest).map fun (cs, r) => (String.ofList cs, r)
  | '\'' :: rest => (readLine '\'' (rest.length + 1) rest).map fun (cs, r) => (String.ofList cs, r)
  | _ => none

/-- A string on several lines, after its opening quotes; a line end right after them is dropped. -/
def readLongString (quote : Char) (cs : List Char) : Read String :=
  let start := (readNewline cs).getD cs
  (readBlock quote (start.length + 1) start).map fun (cs, r) => (String.ofList cs, r)

def readString : List Char → Read String
  | '"' :: '"' :: '"' :: rest => readLongString '"' rest
  | '\'' :: '\'' :: '\'' :: rest => readLongString '\'' rest
  | cs => readShortString cs

/-! ## Keys -/

def isBare (c : Char) : Bool :=
  ('a' ≤ c && c ≤ 'z') || ('A' ≤ c && c ≤ 'Z') || Text.isDigit c || c == '-' || c == '_'

/-- One part of a key. -/
def readPart (cs : List Char) : Read String :=
  match readShortString cs with
  | some found => some found
  | none =>
    let bare := cs.takeWhile isBare
    if bare.isEmpty then none else some (String.ofList bare, cs.dropWhile isBare)

/-- The parts of a key, with points between them, and the text after it and the blanks around it. -/
def readKey : Nat → List Char → Read (List String)
  | 0, _ => none
  | fuel + 1, cs =>
    match readPart (skipSpace cs) with
    | none => none
    | some (part, r) =>
      match skipSpace r with
      | '.' :: rest => (readKey fuel rest).map fun (parts, r) => (part :: parts, r)
      | r => some ([part], r)

end DevConsole.Toml
