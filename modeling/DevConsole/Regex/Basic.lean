import DevConsole.Unicode.Ranges

/-!
# Regular expressions

The expressions, and how they are put together: sequences and choices are flat lists that lean to
the right, literals that follow each other are one, and a choice between single characters is a set.
Whether two expressions are equal, and how much room one takes, depends on that form.
-/

namespace DevConsole

open Unicode (Ranges)

/-- A condition on a place between two characters. -/
inductive Regex.Anchor where
  | textStart
  | textEnd
  /-- The start of the text or after a line end. -/
  | lineStart (returns : Bool)
  /-- The end of the text or before a line end. -/
  | lineEnd (returns : Bool)
  /-- A word starts or ends here; `unicode` says which characters words are made of. -/
  | boundary (unicode : Bool)
  | noBoundary (unicode : Bool)
  | wordStart (unicode : Bool)
  | wordEnd (unicode : Bool)
  /-- No word goes on before this place. -/
  | afterNoWord (unicode : Bool)
  /-- No word goes on after this place. -/
  | beforeNoWord (unicode : Bool)
  deriving DecidableEq, Repr

/-- A regular expression. -/
inductive Regex where
  | empty
  /-- These characters, of which there is at least one. -/
  | literal (cs : List Char)
  /-- One character of a set. A set of octets holds ASCII characters only. -/
  | set (unicode : Bool) (members : Ranges)
  | anchor (a : Regex.Anchor)
  /-- From `least` to `most` times in a row, without a limit where `most` is absent. -/
  | repeated (least : Nat) (most : Option Nat) (greedy : Bool) (r : Regex)
  /-- A group that can be told apart by its number. -/
  | group (number : Nat) (r : Regex)
  | seq (a b : Regex)
  | alt (a b : Regex)
  deriving DecidableEq, Repr

namespace Regex

/-! ## Measures -/

/-- The number of octets of a text. -/
def octets (cs : List Char) : Nat := cs.foldl (fun n c => n + c.utf8Size) 0

/-- The number of octets of a code point. -/
def octetsOfCode (n : Nat) : Nat :=
  if n < 0x80 then 1 else if n < 0x800 then 2 else if n < 0x10000 then 3 else 4

/-- The length of the shortest match in octets; nothing where there is no match. -/
def shortest : Regex → Option Nat
  | .empty => some 0
  | .literal cs => some (octets cs)
  | .set _ members => members.head?.map fun r => octetsOfCode r.1
  | .anchor _ => some 0
  | .repeated least _ _ r => r.shortest.map (· * least)
  | .group _ r => r.shortest
  | .seq a b => a.shortest.bind fun m => b.shortest.map (m + ·)
  | .alt a b => a.shortest.bind fun m => b.shortest.map (min m)

/-- The length of the longest match in octets; nothing where there is no match or no limit. -/
def longest : Regex → Option Nat
  | .empty => some 0
  | .literal cs => some (octets cs)
  | .set _ members => members.getLast?.map fun r => octetsOfCode r.2
  | .anchor _ => some 0
  | .repeated _ most _ r => most.bind fun n => r.longest.map (· * n)
  | .group _ r => r.longest
  | .seq a b => a.longest.bind fun m => b.longest.map (m + ·)
  | .alt a b => a.longest.bind fun m => b.longest.map (max m)

/-- Whether every match begins where the text does, as far as the form of the expression tells. -/
def beginsText : Regex → Bool
  | .anchor a => a == .textStart
  | .repeated least _ _ r => 0 < least && r.beginsText
  | .group _ r => r.beginsText
  | .seq a b => a.beginsText || (a.longest == some 0 && b.beginsText)
  | .alt a b => a.beginsText && b.beginsText
  | _ => false

/-- Whether every match ends where the text does, as far as the form of the expression tells. -/
def endsText : Regex → Bool
  | .anchor a => a == .textEnd
  | .repeated least _ _ r => 0 < least && r.endsText
  | .group _ r => r.endsText
  | .seq a b => b.endsText || (b.longest == some 0 && a.endsText)
  | .alt a b => a.endsText && b.endsText
  | _ => false

/-! ## Sets and repetition -/

/-- What matches nothing. -/
def never : Regex := .set false []

/-- A set, as a literal where it has one member only. -/
def ofSet (unicode : Bool) (members : Ranges) : Regex :=
  match members with
  | [] => never
  | [(first, last)] =>
    if first = last then .literal [Char.ofNat first] else .set unicode members
  | _ => .set unicode members

/-- A repetition. What matches the empty text only need not be repeated. -/
def repetition (least : Nat) (most : Option Nat) (greedy : Bool) (r : Regex) : Regex :=
  let (least, most) :=
    if r.longest = some 0 then (min least 1, some (min (most.getD 1) 1)) else (least, most)
  if most = some 0 then .empty
  else if least = 1 ∧ most = some 1 then r
  else .repeated least most greedy r

/-! ## Sequences -/

/-- The parts of a sequence. -/
def parts : Regex → List Regex
  | .seq a b => a :: b.parts
  | .empty => []
  | r => [r]

/-- Makes one literal of those that follow each other. -/
def joinLiterals : List Regex → List Regex
  | [] => []
  | .literal cs :: rest =>
    match joinLiterals rest with
    | .literal ds :: rest => .literal (cs ++ ds) :: rest
    | rest => .literal cs :: rest
  | r :: rest => r :: joinLiterals rest

/-- The sequence with these parts. -/
def ofParts : List Regex → Regex
  | [] => .empty
  | [r] => r
  | r :: rest => .seq r (ofParts rest)

/-- One expression after the other. -/
def sequence (rs : List Regex) : Regex := ofParts (joinLiterals (rs.flatMap parts))

/-! ## Choices -/

/-- The branches of a choice. -/
def branches : Regex → List Regex
  | .alt a b => a :: b.branches
  | r => [r]

/-- The choice between these branches. -/
def ofBranches : List Regex → Regex
  | [] => never
  | [r] => r
  | r :: rest => .alt r (ofBranches rest)

def onlyChar? : Regex → Option Nat
  | .literal [c] => some c.toNat
  | _ => none

def members? : Regex → Option Ranges
  | .set _ members => some members
  | _ => none

/-- The set of branches that are single characters each, or sets each. -/
def setOfBranches? (rs : List Regex) : Option Ranges :=
  ((rs.mapM onlyChar?).map Ranges.ofCodes).or
    ((rs.mapM members?).map fun sets => sets.foldl Ranges.union [])

/-- The choice between some branches, as a set if it can be one. -/
def flatChoice (rs : List Regex) : Regex :=
  match rs with
  | [r] => r
  | _ =>
    match setOfBranches? rs with
    | some members => ofSet true members
    | none => ofBranches rs

/-- What two lists have in common at the front. -/
def commonFront : List Regex → List Regex → List Regex
  | r :: rs, s :: ss => if r = s then r :: commonFront rs ss else []
  | _, _ => []

/-- The parts that all branches begin with, if all are sequences. -/
def sharedFront (rs : List Regex) : List Regex :=
  let isSeq := fun r => match r with
    | .seq _ _ => true
    | _ => false
  if rs.all isSeq then
    match rs.map parts with
    | [] => []
    | first :: rest => rest.foldl commonFront first
  else []

/-- The choice between some expressions. What all of them begin with stands before it. -/
def choice (rs : List Regex) : Regex :=
  let rs := rs.flatMap branches
  match rs with
  | [] => never
  | [r] => r
  | _ =>
    match setOfBranches? rs with
    | some members => ofSet true members
    | none =>
      match sharedFront rs with
      | [] => ofBranches rs
      | front =>
        let rest := rs.map fun r => ofParts (r.parts.drop front.length)
        sequence (front ++ [flatChoice (rest.flatMap branches)])

end Regex

end DevConsole
