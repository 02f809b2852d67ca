import DevConsole.Regex.Basic
import Std.Data.TreeMap

/-!
# The room of an automaton

An expression is refused if the automaton that would look for it takes too much room, be it the one
that reads the text forwards or the one that reads it backwards. Both read octets. `Tally` counts
their states without building them; only where a set is made do the numbers of states matter, since
equal parts of it are shared by way of a table that forgets what falls into an occupied slot.
-/

namespace DevConsole.Regex

open Unicode (Ranges)

/-- What the states of an automaton take up so far. -/
structure Tally where
  states : Nat := 0
  /-- The octets of the lists that belong to states. -/
  lists : Nat := 0
  deriving Repr

namespace Tally

/-- The octets that a state takes up, apart from its list. -/
def stateSize : Nat := 32

/-- The octets that a link to another state takes up in a list. -/
def linkSize : Nat := 4

/-- The octets that a range of octets takes up in a list, together with its link. -/
def edgeSize : Nat := 8

/-- The octets that all states may take up together. -/
def limit : Nat := 10 * 1024 * 1024

def size (t : Tally) : Nat := t.states * stateSize + t.lists

def exceeds (t : Tally) : Bool := limit < t.size

/-- One more state with a list of so many octets. -/
def state (list : Nat) (t : Tally) : Tally := ⟨t.states + 1, t.lists + list⟩

/-- Some more links in the lists of states that are there. -/
def links (count : Nat) (t : Tally) : Tally := { t with lists := t.lists + count * linkSize }

end Tally

/-- The automaton up to the end of some expression. -/
structure Part where
  tally : Tally
  /-- Its last state is a fork, in whose list the link to what follows takes up room. -/
  forks : Bool := false

namespace Part

/-- What is taken up once the part is linked to what follows. -/
def linked (p : Part) : Tally := if p.forks then p.tally.links 1 else p.tally

end Part

/-! ## Sets as octets -/

/-- A range of octets. -/
abbrev Span := Nat × Nat

/-- The octets of a code point. -/
def encoding (n : Nat) : List Nat := (String.utf8EncodeChar (Char.ofNat n)).map UInt8.toNat

/-- The sequences of ranges that hold the octets from one encoding to another, where both have the
length `count`. -/
def spans : Nat → List Nat → List Nat → List (List Span)
  | count + 1, a :: as, b :: bs =>
    if as = [] then [[(a, b)]]
    else if a = b then (spans count as bs).map ((a, a) :: ·)
    else
      let least := as.map fun _ => 0x80
      let most := as.map fun _ => 0xBF
      let left := if as = least then [] else (spans count as most).map ((a, a) :: ·)
      let right := if bs = most then [] else (spans count least bs).map ((b, b) :: ·)
      let lead := if as = least then a else a + 1
      let final := if bs = most then b else b - 1
      let middle := if lead ≤ final then [(lead, final) :: least.zip most] else []
      left ++ middle ++ right
  | _, _, _ => []

/-- The parts of a range whose encodings have one length. -/
def evenParts (r : Nat × Nat) : List (Nat × Nat) :=
  Ranges.inter [(0, 0x7F), (0x80, 0x7FF), (0x800, 0xD7FF), (0xE000, 0xFFFF), (0x10000, 0x10FFFF)]
    [r]

/-- The sequences of ranges of octets that a set is made of, in ascending order. -/
def sequences (members : Ranges) : List (List Span) :=
  (members.flatMap evenParts).flatMap fun r =>
    let low := encoding r.1
    spans low.length low (encoding r.2)

/-- The slot of a table that some numbers go to. -/
def slotOf (capacity : Nat) (ns : List Nat) : Nat :=
  (ns.foldl (fun h n => (h ^^^ UInt64.ofNat n) * 1099511628211)
    (14695981039346656037 : UInt64)).toNat % capacity

/-- What is taken up so far, and which state stands for which key. -/
structure Sharing where
  tally : Tally
  table : Std.TreeMap Nat (List Nat × Nat) := ∅

/-- The state for a key; a new one has a list of so many octets. -/
def Sharing.state (capacity list : Nat) (key : List Nat) (s : Sharing) : Nat × Sharing :=
  let slot := slotOf capacity key
  let made := (s.tally.states, ⟨s.tally.state list, s.table.insert slot (key, s.tally.states)⟩)
  match s.table[slot]? with
  | some (found, number) => if found = key then (number, s) else made
  | none => made

/-- The state from which some sequences lead to the state `target`. They are read from the front,
and those that begin alike go through one state. -/
def forwardState (target : Nat) : Nat → List (List Span) → Sharing → Nat × Sharing
  | 0, _, s => (target, s)
  | depth + 1, seqs, s =>
    let groups := seqs.splitBy fun a b => a.head? == b.head?
    let (key, s) := groups.foldl (fun (key, s) group =>
      let tails := group.map (·.drop 1)
      let (next, s) :=
        if tails.all (·.isEmpty) then (target, s) else forwardState target depth tails s
      match group.head?.bind (·.head?) with
      | some (first, last) => (key ++ [first, last, next], s)
      | none => (key, s)) ([], s)
    s.state 10000 (key.length / 3 * Tally.edgeSize) key

/-- A set that is read forwards. -/
def forwardSet (members : Ranges) (t : Tally) : Tally :=
  (forwardState t.states 4 (sequences members) ⟨t.state 0, ∅⟩).2.tally

/-- A sequence that is read from the end to the front, where it leads to the state `target`. -/
def backwardState (target : Nat) (spans : List Span) (s : Sharing) : Nat × Sharing :=
  spans.foldl (fun (next, s) span => s.state 1000 0 [next, span.1, span.2]) (target, s)

/-- A set that is read backwards: a fork, the state after the set, and the sequences. -/
def backwardSet (members : Ranges) (t : Tally) : Tally :=
  let target := t.states + 1
  ((sequences members).foldl (fun (s : Sharing) spans =>
    let s := (backwardState target spans s).2
    { s with tally := s.tally.links 1 }) ⟨(t.state 0).state 0, ∅⟩).tally

/-- A set. One of ASCII characters is a single state before the one at its end. -/
def setTally (backward : Bool) (members : Ranges) (t : Tally) : Tally :=
  if members.isAscii then (t.state 0).state (members.length * Tally.edgeSize)
  else if backward then backwardSet members t
  else forwardSet members t

/-! ## Literals side by side -/

/-- Sorts the texts that go on by their first octets, in the order in which these come up. -/
def byFirst (texts : List (List Nat)) : List (List (List Nat)) :=
  let firsts := (texts.filterMap (·.head?)).eraseDups
  firsts.map fun o => (texts.filter (·.head? == some o)).map (·.drop 1)

/-- Cuts a list of texts at the empty ones. One that comes before any other text counts once. -/
def cutAtEmpty (texts : List (List Nat)) : List (List (List Nat)) :=
  let rest := texts.dropWhile (·.isEmpty)
  (if rest.length < texts.length then [[]] else []) ++ rest.splitOnP (·.isEmpty)

/-- The states of a tree of texts below a state that has been reached; `depth` bounds their
length. -/
def treeTally : Nat → List (List Nat) → Tally → Tally
  | 0, _, t => t
  | depth + 1, texts, t =>
    let chunks := cutAtEmpty texts
    let (count, t) := chunks.foldl (fun ((count, t) : Nat × Tally) chunk =>
      let below := byFirst chunk
      let t := below.foldl (fun t texts =>
        if texts.all (·.isEmpty) then t else treeTally depth texts t) t
      match below.length with
      | 0 => (count, t)
      | 1 => (count + 1, t.state 0)
      | n => (count + 1, t.state (n * Tally.edgeSize))) (0, t)
    let ways := count + (chunks.length - 1)
    if ways = 1 then t else t.state (ways * Tally.linkSize)

/-- The literals of a choice, if it is one between literals only. -/
def literals? : Regex → Option (List (List Char))
  | .literal cs => some [cs]
  | .alt (.literal cs) b => (literals? b).map (cs :: ·)
  | _ => none

/-- A choice between literals. -/
def literalsTally (backward : Bool) (texts : List (List Char)) (t : Tally) : Tally :=
  let octets := texts.map fun cs =>
    let os := cs.flatMap fun c => encoding c.toNat
    if backward then os.reverse else os
  treeTally ((octets.map List.length).foldl max 0) octets (t.state 0)

/-! ## Expressions -/

/-- So many more copies after a part, as far as there is room. -/
def copies (step : Tally → Part) : Nat → Part → Part
  | 0, p => p
  | count + 1, p => if p.tally.exceeds then p else copies step count (step p.linked)

/-- So many copies. -/
def exactly (step : Tally → Part) (count : Nat) (t : Tally) : Part :=
  match count with
  | 0 => ⟨t.state 0, false⟩
  | count + 1 => copies step count (step t)

/-- So many more copies after a part, each behind a fork that may leave them out. -/
def optionalCopies (step : Tally → Part) : Nat → Part → Part
  | 0, p => p
  | count + 1, p =>
    if p.tally.exceeds then p
    else optionalCopies step count (step (p.linked.state (2 * Tally.linkSize)))

/-- A repetition; `consumes` says that no match of what is repeated is empty. -/
def repeatedPart (step : Tally → Part) (consumes : Bool) (least : Nat) (most : Option Nat)
    (t : Tally) : Part :=
  let fork := 2 * Tally.linkSize
  match least, most with
  | 0, some 1 => ⟨(step (t.state fork)).linked.state 0, false⟩
  | least, some most =>
    let front := exactly step least t
    if least = most then front
    else ⟨(optionalCopies step (most - least) ⟨front.tally.state 0, front.forks⟩).linked, false⟩
  | 0, none =>
    if consumes then ⟨(step (t.state Tally.linkSize)).linked, true⟩
    else ⟨(((step t).linked.state fork).state fork).state 0, false⟩
  | least + 1, none => ⟨(exactly step (least + 1) t).linked.state Tally.linkSize, true⟩

/-- Where an expression stands: on its own, or as a later branch of a choice. -/
inductive Role where
  | whole
  | secondBranch
  | laterBranch

/-- Ends a part. A branch is linked from the fork of the choice and to its end, and these two are
made after the second branch. -/
def Role.close (role : Role) (p : Part) : Part :=
  match role with
  | .whole => p
  | .secondBranch => ⟨((p.linked.state 0).state 0).links 1, false⟩
  | .laterBranch => ⟨p.linked.links 1, false⟩

/-- The automaton for an expression. -/
def part (backward : Bool) (role : Role) : Regex → Tally → Part
  | .empty, t => role.close ⟨t.state 0, false⟩
  | .literal cs, t => role.close ⟨{ t with states := t.states + octets cs }, false⟩
  | .set _ members, t => role.close ⟨setTally backward members t, false⟩
  | .anchor _, t => role.close ⟨t.state 0, false⟩
  | .repeated least most _ r, t =>
    role.close (repeatedPart (part backward .whole r) (0 < r.shortest.getD 0) least most t)
  | .group _ r, t =>
    if backward then role.close (part backward .whole r t)
    else role.close ⟨(part backward .whole r (t.state 0)).linked.state 0, false⟩
  | .seq a b, t =>
    role.close (if backward then part backward .whole a (part backward .whole b t).linked
      else part backward .whole b (part backward .whole a t).linked)
  | .alt a b, t =>
    match role, literals? (.alt a b) with
    | .whole, some texts => ⟨literalsTally backward texts t, false⟩
    | .whole, none =>
      part backward .secondBranch b ((part backward .whole a t).linked.links 1)
    | role, _ =>
      part backward .laterBranch b (role.close (part backward .whole a t)).tally

/-- The automaton that looks for an expression anywhere in a text, unless the expression is bound to
the end at which the reading starts. -/
def search (backward : Bool) (r : Regex) : Tally :=
  let bound := if backward then r.endsText else r.beginsText
  let start : Tally :=
    if bound then Tally.state 0 {}
    else (((Tally.state 0 {}).state 0).state Tally.edgeSize).links 2
  let r := if backward then r else .group 0 r
  (part backward .whole r start).linked.state 0

/-- Whether there is room for an expression. -/
def fits (r : Regex) : Bool := !((search false r).exceeds || (search true r).exceeds)

end DevConsole.Regex
