import DevConsole.Regex.Basic
import DevConsole.Text.Blank
import DevConsole.Text.Integer
import DevConsole.Unicode.Case
import DevConsole.Unicode.PropertyName

/-!
# Character classes

The escapes, and the sets in brackets with ranges, named sets, nested sets and the operators `&&`,
`--` and `~~`. A set ignores case by holding all case variants of its members, before it is negated.
Without Unicode a set holds octets, and one with octets beyond ASCII is refused because a text is
not made of such octets.
-/

namespace DevConsole.Regex

open Unicode (Ranges)

/-- What the flags of a group switch. -/
structure Flags where
  ignoreCase : Bool := false
  /-- `^` and `$` hold at line ends too. -/
  lines : Bool := false
  /-- The point stands for line feeds too. -/
  dotAll : Bool := false
  unicode : Bool := true
  /-- Line ends may have a carriage return. -/
  returns : Bool := false
  /-- Blanks and comments in the pattern count for nothing. -/
  comments : Bool := false
  /-- A repetition takes as little as it can unless it is marked to take as much as it can. -/
  reluctant : Bool := false
  deriving DecidableEq, Repr

/-- Leaves out blanks and comments, which go from a number sign to the end of the line. -/
def skipComments (inComment : Bool) : List Char → List Char
  | [] => []
  | c :: cs =>
    if inComment then skipComments (c != '\n') cs
    else if c = '#' then skipComments true cs
    else if Text.isBlank c then skipComments false cs
    else c :: cs

/-- The characters at the front that pass a test, `most` of them at most, and the rest. Blanks and
comments before and between them are left out. -/
def spanComments (test : Char → Bool) (most : Nat) (inComment : Bool) :
    List Char → List Char × List Char
  | [] => ([], [])
  | c :: cs =>
    if most = 0 then ([], c :: cs)
    else if inComment then spanComments test most (c != '\n') cs
    else if c = '#' then spanComments test most true cs
    else if Text.isBlank c then spanComments test most false cs
    else if test c then
      let (front, rest) := spanComments test (most - 1) false cs
      (c :: front, rest)
    else ([], c :: cs)

namespace Flags

/-- The text without what counts for nothing at its front. -/
def skip (f : Flags) (cs : List Char) : List Char :=
  if f.comments then skipComments false cs else cs

/-- The characters at the front that pass a test, `most` of them at most, and the rest. -/
def span (f : Flags) (test : Char → Bool) (most : Nat) (cs : List Char) : List Char × List Char :=
  if f.comments then spanComments test most false cs
  else
    let front := (cs.take most).takeWhile test
    (front, cs.drop front.length)

/-- The set with the case variants of its members, if case is ignored. -/
def fold (f : Flags) (s : Ranges) : Ranges :=
  if !f.ignoreCase then s
  else if f.unicode then Unicode.withCaseVariants s
  else Unicode.withAsciiCaseVariants s

/-- The set, unless it holds octets beyond ASCII. -/
def checked (f : Flags) (s : Ranges) : Option Ranges :=
  if f.unicode || s.isAscii then some s else none

/-- The set as it is meant, negated if asked for. -/
def finish (f : Flags) (negated : Bool) (s : Ranges) : Option Ranges :=
  f.checked (if negated then (f.fold s).complement else f.fold s)

end Flags

/-- What an escape stands for. -/
inductive Escaped where
  /-- A character; `octet` says that it is written as an octet. -/
  | char (c : Char) (octet : Bool)
  | set (s : Ranges)
  | anchor (a : Anchor)

/-! ## Escapes -/

/-- A character given by its number, as `count` digits or any number of them in braces. -/
def readCharNumber (f : Flags) (count : Nat) (cs : List Char) : Option (Escaped × List Char) :=
  let value := fun (digits : List Char) =>
    (Text.digitsValue? 16 Text.hexDigit? digits).bind fun n =>
      if n.isValidChar then some (Char.ofNat n) else none
  match f.skip cs with
  | '{' :: inner =>
    match f.span (· != '}') inner.length inner with
    | (digits, '}' :: rest) => (value digits).map fun c => (.char c false, rest)
    | _ => none
  | cs =>
    let (digits, rest) := f.span (fun c => (Text.hexDigit? c).isSome) count cs
    if digits.length < count then none
    else (value digits).map fun c => (.char c (count == 2), rest)

/-- The text before a piece and the text after it, where the piece occurs. -/
def cutAt? (piece : List Char) : List Char → Option (List Char × List Char)
  | [] => none
  | c :: cs =>
    if piece.isPrefixOf (c :: cs) then some ([], (c :: cs).drop piece.length)
    else (cutAt? piece cs).map fun (before, after) => (c :: before, after)

/-- The set of a property given by its name, or by a name and a value, and whether it is negated. -/
def propertySet? (name : List Char) : Option (Ranges × Bool) :=
  let ofValue := fun (negated : Bool) ((property, value) : List Char × List Char) =>
    (Unicode.codesOf? .v16 (String.ofList property) (String.ofList value)).map (·, negated)
  match cutAt? ['!', '='] name, (cutAt? [':'] name).or (cutAt? ['='] name) with
  | some found, _ => ofValue true found
  | none, some found => ofValue false found
  | none, none => (Unicode.codes? .v16 (String.ofList name)).map (·, false)

/-- A property after its `p`: one letter, or a name in braces. -/
def readProperty (f : Flags) (negated : Bool) (cs : List Char) : Option (Escaped × List Char) :=
  let found := match f.skip cs with
    | '{' :: inner =>
      match f.span (· != '}') inner.length inner with
      | (name, '}' :: rest) => some (name, rest)
      | _ => none
    | c :: rest => if c = '\\' then none else some ([c], rest)
    | [] => none
  found.bind fun (name, rest) =>
    if !f.unicode then none
    else
      (propertySet? name).bind fun (s, unequal) =>
        (f.finish (negated != unequal) s).map fun s => (.set s, rest)

/-- A set that goes by a letter: digits, blanks or word characters. -/
def letterSet? (f : Flags) (c : Char) : Option Ranges :=
  let digits := if f.unicode then Unicode.digitCodes else [(48, 57)]
  let blanks := if f.unicode then Unicode.blankCodes else [(9, 13), (32, 32)]
  let words :=
    if f.unicode then Unicode.wordCodes else [(48, 57), (65, 90), (95, 95), (97, 122)]
  match c with
  | 'd' => some digits
  | 's' => some blanks
  | 'w' => some words
  | 'D' => f.checked digits.complement
  | 'S' => f.checked blanks.complement
  | 'W' => f.checked words.complement
  | _ => none

/-- The character that a letter after a backslash stands for. -/
def controlChar? (c : Char) : Option Char :=
  match c with
  | 'a' => some '\x07'
  | 'f' => some '\x0c'
  | 't' => some '\t'
  | 'n' => some '\n'
  | 'r' => some '\r'
  | 'v' => some '\x0b'
  | _ => none

/-- A character that stands for itself after a backslash. -/
def isEscapable (c : Char) : Bool := c.toNat < 128 && !c.isAlphanum && c != '<' && c != '>'

/-- The condition after a `b`. Where a brace follows, the character after it decides whether the
name of a condition stands in it. -/
def readBoundary (f : Flags) (cs : List Char) : Option (Anchor × List Char) :=
  let whole := some (Anchor.boundary f.unicode, cs)
  let isNameChar := fun (c : Char) => c.isAlpha || c == '-'
  match cs with
  | '{' :: inner =>
    match f.skip inner with
    | [] => none
    | c :: _ =>
      if !isNameChar c then whole
      else
        match f.span isNameChar inner.length inner with
        | (name, '}' :: rest) =>
          match String.ofList name with
          | "start" => some (.wordStart f.unicode, rest)
          | "end" => some (.wordEnd f.unicode, rest)
          | "start-half" => some (.afterNoWord f.unicode, rest)
          | "end-half" => some (.beforeNoWord f.unicode, rest)
          | _ => none
        | _ => none
  | _ => whole

/-- An escape after its backslash. -/
def readEscape (f : Flags) (cs : List Char) : Option (Escaped × List Char) :=
  let anchor := fun (a : Anchor) (rest : List Char) => some (Escaped.anchor a, rest)
  match cs with
  | [] => none
  | 'x' :: rest => readCharNumber f 2 rest
  | 'u' :: rest => readCharNumber f 4 rest
  | 'U' :: rest => readCharNumber f 8 rest
  | 'p' :: rest => readProperty f false rest
  | 'P' :: rest => readProperty f true rest
  | 'A' :: rest => anchor .textStart rest
  | 'z' :: rest => anchor .textEnd rest
  | 'b' :: rest => (readBoundary f rest).map fun (a, r) => (.anchor a, r)
  | 'B' :: rest => anchor (.noBoundary f.unicode) rest
  | '<' :: rest => anchor (.wordStart f.unicode) rest
  | '>' :: rest => anchor (.wordEnd f.unicode) rest
  | c :: rest =>
    match letterSet? f c, controlChar? c with
    | some s, _ => some (.set s, rest)
    | none, some d => some (.char d false, rest)
    | none, none => if isEscapable c then some (.char c false, rest) else none

/-! ## Sets in brackets -/

/-- The ASCII sets that go by a name. -/
def asciiSet? (name : String) : Option Ranges :=
  match name with
  | "alnum" => some [(48, 57), (65, 90), (97, 122)]
  | "alpha" => some [(65, 90), (97, 122)]
  | "ascii" => some [(0, 127)]
  | "blank" => some [(9, 9), (32, 32)]
  | "cntrl" => some [(0, 31), (127, 127)]
  | "digit" => some [(48, 57)]
  | "graph" => some [(33, 126)]
  | "lower" => some [(97, 122)]
  | "print" => some [(32, 126)]
  | "punct" => some [(33, 47), (58, 64), (91, 96), (123, 126)]
  | "space" => some [(9, 13), (32, 32)]
  | "upper" => some [(65, 90)]
  | "word" => some [(48, 57), (65, 90), (95, 95), (97, 122)]
  | "xdigit" => some [(48, 57), (65, 70), (97, 102)]
  | _ => none

/-- The name of an ASCII set after its bracket and colon, and whether the set is negated. -/
def readAscii (cs : List Char) : Option (Ranges × Bool × List Char) :=
  let (negated, start) := match cs with
    | '^' :: rest => (true, rest)
    | _ => (false, cs)
  let name := start.takeWhile (· != ':')
  match start.drop name.length with
  | ':' :: ']' :: rest => (asciiSet? (String.ofList name)).map fun s => (s, negated, rest)
  | _ => none

/-- One end of a range, or a set. -/
def readMember (f : Flags) (cs : List Char) : Option (Escaped × List Char) :=
  match cs with
  | [] => none
  | '\\' :: rest =>
    match readEscape f rest with
    | some (.anchor _, _) => none
    | found => found
  | c :: rest => some (.char c false, rest)

/-- The next character after blanks and the sign that starts a comment. -/
def peek (f : Flags) (cs : List Char) : Option Char :=
  if !f.comments then cs.head?
  else
    match cs.dropWhile Text.isBlank with
    | '#' :: rest => (rest.dropWhile Text.isBlank).head?
    | rest => rest.head?

/-- A range, or a member that starts none. A hyphen before a closing bracket or another hyphen
starts no range. -/
def readRange (f : Flags) (cs : List Char) : Option (Ranges × List Char) :=
  (readMember f cs).bind fun (first, r) =>
    let alone := fun (rest : List Char) =>
      match first with
      | .char c _ => (f.checked (.single c.toNat)).map (·, rest)
      | .set s => some (s, rest)
      | .anchor _ => none
    match f.skip r with
    | '-' :: rest =>
      if peek f rest = some ']' ∨ peek f rest = some '-' then alone ('-' :: rest)
      else
        match first, readMember f (f.skip rest) with
        | .char a _, some (.char b _, r) =>
          if a ≤ b then (f.checked [(a.toNat, b.toNat)]).map (·, r) else none
        | _, _ => none
    | rest => alone rest

/-- The operators between sets. -/
inductive SetOp where
  | intersection
  | difference
  | symmetricDifference

def SetOp.apply (op : SetOp) (s t : Ranges) : Ranges :=
  match op with
  | .intersection => s.inter t
  | .difference => s.diff t
  | .symmetricDifference => s.symmDiff t

/-- A set, and how deeply others are nested in it. -/
structure Nested where
  codes : Ranges
  depth : Nat

/-- Members side by side. -/
structure Members where
  codes : Ranges := []
  count : Nat := 0
  depth : Nat := 0

namespace Members

def add (m : Members) (s : Nested) : Members :=
  ⟨m.codes.union s.codes, m.count + 1, max m.depth s.depth⟩

/-- The set of the members. Several side by side are one level deeper than each of them. -/
def together (m : Members) : Nested := ⟨m.codes, if 2 ≤ m.count then m.depth + 1 else m.depth⟩

end Members

/-- What has been read of a set: the left side of an operator, if there was one, and the members
after it. -/
structure Partial where
  left : Option (Nested × SetOp) := none
  members : Members := {}

namespace Partial

def add (p : Partial) (s : Nested) : Partial := { p with members := p.members.add s }

/-- The set so far. -/
def value (f : Flags) (p : Partial) : Nested :=
  let right := p.members.together
  match p.left with
  | none => right
  | some (left, op) =>
    ⟨op.apply (f.fold left.codes) (f.fold right.codes), max left.depth right.depth + 1⟩

/-- Goes on to the right side of an operator. -/
def operator (f : Flags) (op : SetOp) (p : Partial) : Partial :=
  { left := some (p.value f, op) }

end Partial

/-- The start of a set after its bracket: a caret that negates it, and hyphens or a closing bracket
that count as members because they come first. -/
def readSetStart (f : Flags) (cs : List Char) : Bool × Partial × List Char :=
  let (negated, start) := match f.skip cs with
    | '^' :: rest => (true, rest)
    | rest => (false, rest)
  let member := fun (c : Char) => (⟨.single c.toNat, 0⟩ : Nested)
  match f.span (· == '-') start.length start with
  | ([], ']' :: rest) => (negated, ({} : Partial).add (member ']'), rest)
  | (hyphens, rest) => (negated, hyphens.foldl (fun p c => p.add (member c)) {}, rest)

mutual

/-- A set after its bracket. -/
def readSet (f : Flags) : Nat → List Char → Option (Nested × List Char)
  | 0, _ => none
  | fuel + 1, cs =>
    let (negated, p, rest) := readSetStart f cs
    (readMembers f fuel p rest).bind fun (p, rest) =>
      let found := p.value f
      (f.finish negated found.codes).map fun s => (⟨s, found.depth + 1⟩, rest)

/-- The members of a set up to its closing bracket. -/
def readMembers (f : Flags) : Nat → Partial → List Char → Option (Partial × List Char)
  | 0, _, _ => none
  | fuel + 1, p, cs =>
    match f.skip cs with
    | [] => none
    | ']' :: rest => some (p, rest)
    | '&' :: '&' :: rest => readMembers f fuel (p.operator f .intersection) rest
    | '-' :: '-' :: rest => readMembers f fuel (p.operator f .difference) rest
    | '~' :: '~' :: rest => readMembers f fuel (p.operator f .symmetricDifference) rest
    | '[' :: rest =>
      let named := match rest with
        | ':' :: inner => readAscii inner
        | _ => none
      match named with
      | some (s, negated, rest) =>
        (f.finish negated s).bind fun s => readMembers f fuel (p.add ⟨s, 0⟩) rest
      | none => (readSet f fuel rest).bind fun (s, rest) => readMembers f fuel (p.add s) rest
    | start =>
      (readRange f start).bind fun (s, rest) => readMembers f fuel (p.add ⟨s, 0⟩) rest

end

end DevConsole.Regex
