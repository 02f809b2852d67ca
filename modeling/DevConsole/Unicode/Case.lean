import DevConsole.Unicode.CaseRuns
import DevConsole.Unicode.Runs

/-!
# Letter case

`upper` writes a text in capital letters, by the full mapping that turns some letters into several.
An orbit holds the characters that differ in case only; `withCaseVariants` adds to a set all that
share an orbit with a member.
-/

namespace DevConsole.Unicode

/-- Some code points at equal distances, and what is added to each. -/
structure Shift where
  first : Nat
  count : Nat
  step : Nat
  offset : Int
  deriving Repr

namespace Shift

/-- The shifts that a list of numbers writes, four for each. -/
def ofNumbers : List Int → List Shift
  | first :: count :: step :: offset :: rest =>
    ⟨first.toNat, count.toNat, step.toNat, offset⟩ :: ofNumbers rest
  | _ => []

def covers (s : Shift) (n : Nat) : Bool :=
  s.first ≤ n && n < s.first + s.count * s.step && (n - s.first) % s.step == 0

/-- The code points and what they are taken to. -/
def moves (s : Shift) : List (Nat × Nat) :=
  (List.range s.count).map fun k =>
    let n := s.first + k * s.step
    (n, (n + s.offset).toNat)

/-- The code point that a list of shifts takes `n` to; one that none covers stays. -/
def apply (shifts : List Shift) (n : Nat) : Nat :=
  match shifts.find? (·.covers n) with
  | some s => (n + s.offset).toNat
  | none => n

end Shift

/-- The lists that a list of numbers writes, each after its key and its length; `fuel` bounds their
number. -/
def keyedLists : Nat → List Nat → List (Nat × List Nat)
  | fuel + 1, n :: count :: rest => (n, rest.take count) :: keyedLists fuel (rest.drop count)
  | _, _ => []

/-- The lists that a list of numbers writes, each after its length; `fuel` bounds their number. -/
def countedLists : Nat → List Nat → List (List Nat)
  | fuel + 1, count :: rest => rest.take count :: countedLists fuel (rest.drop count)
  | _, _ => []

/-! ## Capital letters -/

def capitals : List Shift := Shift.ofNumbers (integers capitalRuns)

def capitalSpellings : List (Nat × List Nat) :=
  let ns := numbers capitalExceptions
  keyedLists ns.length ns

/-- The capital form of a character. -/
def upperChar (c : Char) : List Char :=
  if c.toNat < 128 then [c.toUpper]
  else
    match capitalSpellings.find? (·.1 = c.toNat) with
    | some (_, spelling) => spelling.map Char.ofNat
    | none => [Char.ofNat (Shift.apply capitals c.toNat)]

def upper (s : String) : String := String.ofList (s.toList.flatMap upperChar)

/-! ## Orbits -/

/-- The characters that differ in case only, as far as there are several. -/
def orbits : List (List Nat) :=
  let larger := numbers caseOrbits
  (Shift.ofNumbers (integers casePairRuns)).flatMap (fun s => s.moves.map fun (a, b) => [a, b]) ++
    countedLists larger.length larger

/-- The orbits that a set meets. -/
def orbitsMet (s : Ranges) : List (List Nat) := orbits.filter (·.any s.contains)

/-- The set with all that differs from a member in case only. -/
def withCaseVariants (s : Ranges) : Ranges :=
  let met := orbitsMet s
  if met.isEmpty then s else s.union (.ofCodes met.flatten)

/-- The same within ASCII. -/
def withAsciiCaseVariants (s : Ranges) : Ranges :=
  let lower := s.inter [(97, 122)]
  let upper := s.inter [(65, 90)]
  (s.union (lower.map fun (a, b) => (a - 32, b - 32))).union
    (upper.map fun (a, b) => (a + 32, b + 32))

end DevConsole.Unicode
