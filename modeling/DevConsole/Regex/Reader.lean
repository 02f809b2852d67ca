import DevConsole.Regex.Automaton
import DevConsole.Regex.Class

/-!
# Reading regular expressions

Alternatives are separated by bars, an operator of repetition belongs to what stands right before
it. Flags hold from where they are set to the end of their group. Look-around and references back to
a group do not exist; too deep a nesting and an expression that would take too much room are
refused.
-/

namespace DevConsole.Regex

/-- The deepest nesting of groups, repetitions and the like. -/
def maxNesting : Nat := 250

/-- What a reader carries along: the flags in force, the number of groups and their names so far. -/
structure Scope where
  flags : Flags := {}
  groups : Nat := 0
  names : List String := []

/-- A part of a sequence: an expression with the depth of its nesting, or a switch of flags, which
cannot be repeated. -/
inductive Item where
  | piece (r : Regex) (depth : Nat)
  | switch

namespace Item

def regex : Item → Regex
  | .piece r _ => r
  | .switch => .empty

def depth : Item → Nat
  | .piece _ depth => depth
  | .switch => 0

/-- The depth of some items side by side, one level deeper than each where there are several. -/
def jointDepth (items : List Item) : Nat :=
  let deepest := (items.map depth).foldl max 0
  if 2 ≤ items.length then deepest + 1 else deepest

/-- The sequence of some items. -/
def row (items : List Item) : Item := .piece (sequence (items.map regex)) (jointDepth items)

/-- The choice between some sequences, of which there is at least one. -/
def oneOf (items : List Item) : Item := .piece (choice (items.map regex)) (jointDepth items)

end Item

/-! ## Repetition -/

/-- A number of repetitions: digits that spell a number of 32 bits, with blanks around them. -/
def readCount (f : Flags) (cs : List Char) : Option (Nat × List Char) :=
  let start := (f.skip cs).dropWhile Text.isBlank
  let (digits, rest) := f.span Text.isDigit start.length start
  (Text.digitsValue? 10 Text.digit? digits).bind fun n =>
    if n < UInt32.size then some (n, f.skip (rest.dropWhile Text.isBlank)) else none

/-- The bounds of a repetition, after the opening brace. -/
def readBounds (f : Flags) (cs : List Char) : Option (Nat × Option Nat × List Char) :=
  (readCount f cs).bind fun (least, r) =>
    match r with
    | '}' :: rest => some (least, some least, rest)
    | ',' :: rest =>
      match f.skip rest with
      | '}' :: rest => some (least, none, rest)
      | rest =>
        (readCount f rest).bind fun (most, r) =>
          match r with
          | '}' :: rest => if least ≤ most then some (least, some most, rest) else none
          | _ => none
    | _ => none

/-- Whether a repetition takes as much as it can, and the text after the mark that decides it. -/
def readGreed (f : Flags) : List Char → Bool × List Char
  | '?' :: rest => (f.reluctant, rest)
  | cs => (!f.reluctant, cs)

/-- The bounds of a repetition, where one starts. -/
inductive Operator where
  | absent
  | broken
  | bounds (least : Nat) (most : Option Nat) (greedy : Bool) (rest : List Char)

def readOperator (f : Flags) (cs : List Char) : Operator :=
  let marked := fun (least : Nat) (most : Option Nat) (rest : List Char) =>
    let (greedy, rest) := readGreed f rest
    Operator.bounds least most greedy rest
  match cs with
  | '*' :: rest => marked 0 none rest
  | '+' :: rest => marked 1 none rest
  | '?' :: rest => marked 0 (some 1) rest
  | '{' :: rest =>
    match readBounds f rest with
    | some (least, most, rest) => marked least most (f.skip rest)
    | none => .broken
  | _ => .absent

/-! ## Flags and groups -/

/-- Switches one flag. -/
def Flags.switch (f : Flags) (on : Bool) (c : Char) : Option Flags :=
  match c with
  | 'i' => some { f with ignoreCase := on }
  | 'm' => some { f with lines := on }
  | 's' => some { f with dotAll := on }
  | 'u' => some { f with unicode := on }
  | 'R' => some { f with returns := on }
  | 'x' => some { f with comments := on }
  | 'U' => some { f with reluctant := on }
  | _ => none

/-- Flags up to a colon or closing bracket, each at most once; those after a hyphen are switched
off. -/
def readFlags (f : Flags) (on : Bool) (seen : List Char) :
    List Char → Option (Flags × List Char × List Char)
  | [] => none
  | c :: rest =>
    if c = ':' ∨ c = ')' then
      if seen.head? = some '-' then none else some (f, seen, c :: rest)
    else if c = '-' then if on then readFlags f false ('-' :: seen) rest else none
    else if seen.contains c then none
    else
      match f.switch on c with
      | none => none
      | some f => readFlags f on (c :: seen) rest

/-- A character of a group's name. -/
def isNameChar (first : Bool) (c : Char) : Bool :=
  c == '_' || Unicode.isLetter c ||
    (!first && (['.', '[', ']'].contains c || Unicode.isNumeral c))

/-- The name of a group and the text after the bracket that ends it. -/
def readName (names : List String) (cs : List Char) : Option (String × List Char) :=
  let name := cs.takeWhile (· != '>')
  let text := String.ofList name
  match name, cs.drop name.length with
  | c :: more, '>' :: rest =>
    if isNameChar true c && more.all (isNameChar false) && !names.contains text then
      some (text, rest)
    else none
  | _, _ => none

/-- The start of a group, after its bracket. -/
inductive GroupStart where
  /-- A switch of flags that holds up to the end of the group around it. -/
  | switch (flags : Flags) (rest : List Char)
  /-- A group with its scope, and its number if it has one. -/
  | group (scope : Scope) (number : Option Nat) (rest : List Char)

def readGroupStart (s : Scope) (cs : List Char) : Option GroupStart :=
  let number := s.groups + 1
  let named := fun (cs : List Char) =>
    (readName s.names cs).map fun (name, rest) =>
      GroupStart.group { s with groups := number, names := name :: s.names } (some number) rest
  match s.flags.skip cs with
  | '?' :: 'P' :: '<' :: rest => named rest
  | '?' :: '<' :: rest => named rest
  | '?' :: rest =>
    match readFlags s.flags true [] rest with
    | some (flags, _, ':' :: rest) => some (.group { s with flags } none rest)
    | some (flags, seen, ')' :: rest) => if seen.isEmpty then none else some (.switch flags rest)
    | _ => none
  | rest => some (.group { s with groups := number } (some number) rest)

/-- A group around an item. -/
def Item.grouped (number : Option Nat) (item : Item) : Item :=
  let r := match number with
    | some n => .group n item.regex
    | none => item.regex
  .piece r (item.depth + 1)

/-! ## Single characters -/

/-- A character on its own under the flags. An octet beyond ASCII is refused. -/
def literalOf (f : Flags) (c : Char) (octet : Bool) : Option Regex :=
  if !f.unicode && octet && decide (128 ≤ c.toNat) then none
  else some (ofSet f.unicode (f.fold (.single c.toNat)))

/-- What the point leaves out. -/
def pointGaps (f : Flags) : List Nat :=
  if f.dotAll then [] else if f.returns then [10, 13] else [10]

/-- The set that the point stands for. -/
def pointSet? (f : Flags) : Option Regex :=
  (f.finish true (.ofCodes (pointGaps f))).map (ofSet f.unicode)

/-- An item that is no group. -/
def readAtom (f : Flags) (cs : List Char) : Option (Item × List Char) :=
  let anchor := fun (a : Anchor) (rest : List Char) => some (Item.piece (.anchor a) 0, rest)
  match cs with
  | [] => none
  | '.' :: rest => (pointSet? f).map fun r => (.piece r 0, rest)
  | '^' :: rest => anchor (if f.lines then .lineStart f.returns else .textStart) rest
  | '$' :: rest => anchor (if f.lines then .lineEnd f.returns else .textEnd) rest
  | '[' :: rest =>
    (readSet f (rest.length + 1) rest).map fun (s, rest) =>
      (.piece (ofSet f.unicode s.codes) s.depth, rest)
  | '\\' :: rest =>
    (readEscape f rest).bind fun (escaped, rest) =>
      match escaped with
      | .char c octet => (literalOf f c octet).map fun r => (.piece r 0, rest)
      | .set s => some (.piece (ofSet f.unicode s) 0, rest)
      | .anchor a => anchor a rest
  | c :: rest => (literalOf f c false).map fun r => (.piece r 0, rest)

/-! ## Sequences and alternatives -/

mutual

/-- The alternatives up to a closing bracket or the end. -/
def readChoice : Nat → Scope → List Char → Option (Item × Scope × List Char)
  | 0, _, _ => none
  | fuel + 1, s, cs =>
    match readItems fuel s [] cs with
    | none => none
    | some (items, s, '|' :: rest) =>
      (readChoiceRest fuel s [.row items] rest).map fun (branches, s, r) =>
        (.oneOf branches, s, r)
    | some (items, s, rest) => some (.row items, s, rest)

/-- The alternatives after the first; `done` holds those before in reverse. -/
def readChoiceRest : Nat → Scope → List Item → List Char → Option (List Item × Scope × List Char)
  | 0, _, _, _ => none
  | fuel + 1, s, done, cs =>
    match readItems fuel s [] cs with
    | none => none
    | some (items, s, '|' :: rest) => readChoiceRest fuel s (.row items :: done) rest
    | some (items, s, rest) => some ((Item.row items :: done).reverse, s, rest)

/-- The items of a sequence; `done` holds those before in reverse. -/
def readItems : Nat → Scope → List Item → List Char → Option (List Item × Scope × List Char)
  | 0, _, _, _ => none
  | fuel + 1, s, done, cs =>
    match s.flags.skip cs with
    | [] => some (done.reverse, s, [])
    | '|' :: rest => some (done.reverse, s, '|' :: rest)
    | ')' :: rest => some (done.reverse, s, ')' :: rest)
    | '(' :: rest =>
      match readGroupStart s rest with
      | none => none
      | some (.switch flags rest) => readItems fuel { s with flags } (.switch :: done) rest
      | some (.group inner number rest) =>
        match readChoice fuel inner rest with
        | some (item, after, ')' :: rest) =>
          readItems fuel { after with flags := s.flags } (item.grouped number :: done) rest
        | _ => none
    | start =>
      match readOperator s.flags start with
      | .broken => none
      | .bounds least most greedy rest =>
        match done with
        | .piece r depth :: done =>
          readItems fuel s (.piece (repetition least most greedy r) (depth + 1) :: done) rest
        | _ => none
      | .absent =>
        match readAtom s.flags start with
        | none => none
        | some (item, rest) => readItems fuel s (item :: done) rest

end

/-- The expression that a pattern writes. -/
def parse (pattern : String) : Option Regex :=
  let cs := pattern.toList
  match readChoice (2 * cs.length + 3) {} cs with
  | some (item, _, []) =>
    if item.depth ≤ maxNesting && fits item.regex then some item.regex else none
  | _ => none

end DevConsole.Regex
