/-!
# Sets of code points

A set is written as its first and last members in ascending order. Ranges that touch are joined, so
that a set has one form; the code points kept for surrogates belong to no set, and the two ranges
around them do not touch.
-/

namespace DevConsole.Unicode

/-- A set of code points, as its first and last members in ascending order. -/
abbrev Ranges := List (Nat × Nat)

/-- The greatest code point. -/
def lastCode : Nat := 0x10FFFF

/-- The code point after `n`. -/
def nextCode (n : Nat) : Nat := if n = 0xD7FF then 0xE000 else n + 1

/-- The code point before `n`. -/
def previousCode (n : Nat) : Nat := if n = 0xE000 then 0xD7FF else n - 1

namespace Ranges

def single (n : Nat) : Ranges := [(n, n)]

/-- Every code point. -/
def everything : Ranges := [(0, lastCode)]

def contains : Ranges → Nat → Bool
  | [], _ => false
  | (first, last) :: rest, n =>
    if n < first then false else if n ≤ last then true else contains rest n

/-- Joins the ranges that touch, from the range `first` to `last` on. -/
def joinFrom (first last : Nat) : Ranges → Ranges
  | [] => [(first, last)]
  | (a, b) :: rest =>
    if a ≤ last + 1 then joinFrom first (max last b) rest else (first, last) :: joinFrom a b rest

/-- The set of some ranges that start in ascending order. -/
def joined : Ranges → Ranges
  | [] => []
  | (first, last) :: rest => joinFrom first last rest

/-- Whether a range starts no later than another. -/
def startsBy (r s : Nat × Nat) : Bool := r.1 ≤ s.1

/-- Puts a range before the first one that starts after it; `more` merges the others with what is
left from there on. -/
def mergeRange (r : Nat × Nat) (more : Ranges → Ranges) : Ranges → Ranges
  | [] => r :: more []
  | next :: rest =>
    if startsBy r next then r :: more (next :: rest) else next :: mergeRange r more rest

/-- The ranges of two sets in the order of their starts. -/
def merge : Ranges → Ranges → Ranges
  | [], t => t
  | r :: s, t => mergeRange r (merge s) t

def union (s t : Ranges) : Ranges := joined (s.merge t)

/-- The set of these code points. -/
def ofCodes (ns : List Nat) : Ranges := joined ((ns.map fun n => (n, n)).mergeSort startsBy)

/-- What is missing from a set, from `start` on. -/
def complementFrom (start : Nat) : Ranges → Ranges
  | [] => if start ≤ lastCode then [(start, lastCode)] else []
  | (first, last) :: rest =>
    if start < first then (start, previousCode first) :: complementFrom (nextCode last) rest
    else complementFrom (nextCode last) rest

def complement (s : Ranges) : Ranges := complementFrom 0 s

def inter : Ranges → Ranges → Ranges
  | [], _ => []
  | _, [] => []
  | (a, b) :: s, (c, d) :: t =>
    let rest := if b ≤ d then inter s ((c, d) :: t) else inter ((a, b) :: s) t
    if max a c ≤ min b d then (max a c, min b d) :: rest else rest
termination_by s t => s.length + t.length

def diff (s t : Ranges) : Ranges := inter s t.complement

/-- What is in one of two sets only. -/
def symmDiff (s t : Ranges) : Ranges := (union s t).diff (inter s t)

/-- Whether every member is an ASCII character. -/
def isAscii (s : Ranges) : Bool := s.all (·.2 < 128)

/-- The set with these lengths of the runs outside and inside, from code point `start` on. -/
def ofRuns (start : Nat) : List Nat → Ranges
  | outside :: inside :: rest =>
    let first := start + outside
    let next := first + inside
    if inside = 0 then ofRuns next rest else (first, next - 1) :: ofRuns next rest
  | _ => []

end Ranges

end DevConsole.Unicode
