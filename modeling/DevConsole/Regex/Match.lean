import DevConsole.Regex.Basic
import DevConsole.Unicode.Property

/-!
# Matching

Whether an expression matches somewhere in a text. At a place between two characters, the sets of an
expression carry marks where a match under way has just used them for the character before;
`advance` moves the marks across the next character. Since the marks stand for all matches under way
at once, the work for a character is bounded by the size of the expression, however its repetitions
are nested.
-/

namespace DevConsole.Regex

/-- A place in a text, by the characters around it. -/
structure Place where
  before : Option Char
  after : Option Char
  deriving DecidableEq, Repr

namespace Place

/-- Whether the character before is part of a word. -/
def followsWord (unicode : Bool) (p : Place) : Bool :=
  p.before.any fun c => if unicode then Unicode.isWord c else c.isAlphanum || c == '_'

/-- Whether the character after is part of a word. -/
def precedesWord (unicode : Bool) (p : Place) : Bool :=
  p.after.any fun c => if unicode then Unicode.isWord c else c.isAlphanum || c == '_'

end Place

/-- Whether a condition holds at a place. A carriage return and the line feed after it are one line
end, so that no line starts or ends between them. -/
def Anchor.holds (p : Place) : Anchor → Bool
  | .textStart => p.before.isNone
  | .textEnd => p.after.isNone
  | .lineStart returns =>
    p.before.all fun c => c == '\n' || (returns && c == '\r' && p.after != some '\n')
  | .lineEnd returns =>
    p.after.all fun c =>
      if returns then c == '\r' || (c == '\n' && p.before != some '\r') else c == '\n'
  | .boundary unicode => p.followsWord unicode != p.precedesWord unicode
  | .noBoundary unicode => p.followsWord unicode == p.precedesWord unicode
  | .wordStart unicode => !p.followsWord unicode && p.precedesWord unicode
  | .wordEnd unicode => p.followsWord unicode && !p.precedesWord unicode
  | .afterNoWord unicode => !p.followsWord unicode
  | .beforeNoWord unicode => !p.precedesWord unicode

/-- What is known of a marked expression at its place. -/
structure Status where
  /-- The empty text between the characters around the place is a match. -/
  skips : Bool
  /-- Some match under way may end at the place. -/
  ends : Bool
  /-- Some match is under way. -/
  live : Bool
  /-- Without marks, its status is the same at all places. -/
  steady : Bool
  deriving DecidableEq, Repr

/-- An expression at a place, with marks on its sets. Larger expressions keep their status. -/
inductive Marked where
  | empty
  | set (members : Unicode.Ranges) (here : Bool)
  | anchor (a : Anchor) (holds : Bool)
  | both (status : Status) (a b : Marked)
  | either (status : Status) (a b : Marked)
  | loop (status : Status) (a : Marked)
  deriving Repr

namespace Marked

def status : Marked → Status
  | .empty => ⟨true, false, false, true⟩
  | .set _ here => ⟨false, here, here, true⟩
  | .anchor _ holds => ⟨holds, false, false, false⟩
  | .both s _ _ => s
  | .either s _ _ => s
  | .loop s _ => s

/-- One expression after another. -/
def seq (a b : Marked) : Marked :=
  let s := a.status
  let t := b.status
  .both ⟨s.skips && t.skips, t.ends || (s.ends && t.skips), s.live || t.live,
    s.steady && t.steady⟩ a b

/-- One of two expressions. -/
def alt (a b : Marked) : Marked :=
  let s := a.status
  let t := b.status
  .either ⟨s.skips || t.skips, s.ends || t.ends, s.live || t.live, s.steady && t.steady⟩ a b

/-- An expression any number of times in a row. -/
def many (a : Marked) : Marked := .loop { a.status with skips := true } a

/-- So many copies of an expression in a row. They share their parts. -/
def power (count : Nat) (m : Marked) : Marked :=
  if count = 0 then .empty
  else if count = 1 then m
  else
    let half := power (count / 2) m
    if count % 2 = 0 then half.seq half else m.seq (half.seq half)
termination_by count

/-- An expression at a place, without marks. -/
def ofRegex (p : Place) : Regex → Marked
  | .empty => .empty
  | .literal cs => cs.foldr (fun c m => (Marked.set (.single c.toNat) false).seq m) .empty
  | .set _ members => .set members false
  | .anchor a => .anchor a (a.holds p)
  | .repeated least most _ r =>
    let m := ofRegex p r
    let rest := match most with
      | none => m.many
      | some most => power (most - least) (m.alt .empty)
    (power least m).seq rest
  | .group _ r => ofRegex p r
  | .seq a b => (ofRegex p a).seq (ofRegex p b)
  | .alt a b => (ofRegex p a).alt (ofRegex p b)

/-- Whether a match may end at the place, be it one that was under way or an empty one. -/
def accepts (m : Marked) : Bool := m.status.ends || m.status.skips

/-- Moves the marks across the character `c` to the place `p`. A new match starts before that
character if `enter` says so. -/
def advance (c : Char) (p : Place) (enter : Bool) : Marked → Marked
  | .empty => .empty
  | .set members _ => .set members (enter && members.contains c.toNat)
  | .anchor a _ => .anchor a (a.holds p)
  | .both s a b =>
    if enter || s.live || !s.steady then
      let reached := a.status.ends || (enter && a.status.skips)
      (a.advance c p enter).seq (b.advance c p reached)
    else .both s a b
  | .either s a b =>
    if enter || s.live || !s.steady then (a.advance c p enter).alt (b.advance c p enter)
    else .either s a b
  | .loop s a =>
    if enter || s.live || !s.steady then (a.advance c p (enter || a.status.ends)).many
    else .loop s a

/-- Whether a match ends in a text that starts at the place, where new ones start anywhere. -/
def endsIn : Marked → List Char → Bool
  | m, [] => m.accepts
  | m, c :: rest => m.accepts || endsIn (m.advance c ⟨some c, rest.head?⟩ true) rest

end Marked

/-- Whether the expression matches somewhere in a text. -/
def matchesIn (r : Regex) (text : String) : Bool :=
  let cs := text.toList
  (Marked.ofRegex ⟨none, cs.head?⟩ r).endsIn cs

end DevConsole.Regex
