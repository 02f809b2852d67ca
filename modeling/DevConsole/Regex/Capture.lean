import DevConsole.Regex.Match

/-!
# Groups

Where an expression matches first in a text, and what its groups take there. `ways` lists the
matches that start at one place, the preferred ones first: a branch of a choice comes before those
after it, and a greedy repetition goes on wherever it can before it stops. What counts is the first
match at the leftmost place that has one.
-/

namespace DevConsole.Regex

/-- How far a match has come. -/
structure Cursor where
  before : Option Char
  rest : List Char
  /-- The texts of the groups that are closed, the last one first. -/
  groups : List (Nat × List Char) := []
  deriving DecidableEq, Repr

namespace Cursor

def place (c : Cursor) : Place := ⟨c.before, c.rest.head?⟩

/-- Goes across a character that passes a test. -/
def take? (test : Char → Bool) (c : Cursor) : Option Cursor :=
  match c.rest with
  | [] => none
  | d :: rest => if test d then some { c with before := some d, rest } else none

/-- Goes across these characters. -/
def takeAll? : List Char → Cursor → Option Cursor
  | [], c => some c
  | d :: ds, c => (c.take? (· == d)).bind (takeAll? ds)

/-- Closes a group that was opened at `start`. -/
def close (number : Nat) (start c : Cursor) : Cursor :=
  let text := start.rest.take (start.rest.length - c.rest.length)
  { c with groups := (number, text) :: c.groups }

end Cursor

/-- So many matches in a row. -/
def inRow (step : Cursor → List Cursor) : Nat → Cursor → List Cursor
  | 0, c => [c]
  | count + 1, c => (step c).flatMap (inRow step count)

/-- Up to so many matches in a row. After one that takes no character there is no other. -/
def upTo (step : Cursor → List Cursor) (greedy : Bool) : Nat → Cursor → List Cursor
  | 0, c => [c]
  | most + 1, c =>
    let further := (step c).flatMap fun d =>
      if d.rest.length < c.rest.length then upTo step greedy most d else [d]
    if greedy then further ++ [c] else c :: further

/-- The matches that start at a place, the preferred ones first. -/
def ways : Regex → Cursor → List Cursor
  | .empty, c => [c]
  | .literal cs, c => (c.takeAll? cs).toList
  | .set _ members, c => (c.take? fun d => members.contains d.toNat).toList
  | .anchor a, c => if a.holds c.place then [c] else []
  | .repeated least most greedy r, c =>
    (inRow r.ways least c).flatMap fun d =>
      match most with
      | some most => upTo r.ways greedy (most - least) d
      | none => upTo r.ways greedy d.rest.length d
  | .group number r, c => (r.ways c).map (c.close number)
  | .seq a b, c => (a.ways c).flatMap b.ways
  | .alt a b, c => a.ways c ++ b.ways c

/-- The match that counts in a text with the character `before` in front of it. -/
def firstFrom (r : Regex) (before : Option Char) : List Char → Option Cursor
  | [] => (r.ways ⟨before, [], []⟩).head?
  | c :: cs =>
    match (r.ways ⟨before, c :: cs, []⟩).head? with
    | some d => some d
    | none => firstFrom r (some c) cs

/-- The texts of the groups in the first match, by their numbers. -/
def captures? (r : Regex) (text : String) : Option (List (Nat × List Char)) :=
  (r.firstFrom none text.toList).map (·.groups)

end DevConsole.Regex
