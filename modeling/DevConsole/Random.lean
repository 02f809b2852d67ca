/-!
# The random source

A linear congruential generator with 64 bits of state. Each draw gives a value and the source after
it. The high bits of the state are the better ones, so that indices are taken from the upper half.
-/

namespace DevConsole

structure Random where
  state : UInt64
  deriving DecidableEq, Repr

namespace Random

/-- The state after one step is the value drawn. -/
def next64 (r : Random) : UInt64 × Random :=
  let state := r.state * 6364136223846793005 + 1442695040888963407
  (state, ⟨state⟩)

/-- The upper half of the next value. -/
def next32 (r : Random) : UInt32 × Random :=
  let (v, r) := r.next64
  ((v >>> 32).toUInt32, r)

/-- An index below a positive `n`. -/
def below (n : Nat) (r : Random) : Nat × Random :=
  let (v, r) := r.next32
  (v.toNat % n, r)

/-- The distance between two values, whichever is the greater; 64 bits always hold it. -/
def distance (a b : Int64) : UInt64 :=
  if a ≤ b then b.toUInt64 - a.toUInt64 else a.toUInt64 - b.toUInt64

/-- A value from `least` on, not farther from it than `greatest` is; for `least ≤ greatest` it lies
between them, both included. The sum wraps around in 64 bits; only the full range has a width that
64 bits cannot hold. -/
def inRange (least greatest : Int64) (r : Random) : Int64 × Random :=
  let distance := distance least greatest
  let (v, r) := r.next64
  if distance = 0xFFFFFFFFFFFFFFFF then (v.toInt64, r)
  else (least + ((v >>> 11) % (distance + 1)).toInt64, r)

/-- A value from zero up to, but not including, one. -/
def unit (r : Random) : Float × Random :=
  let (v, r) := r.next64
  ((v >>> 11).toFloat / (9007199254740992 : UInt64).toFloat, r)

/-- A member of a list; an empty one has none to give. -/
def choose? {α : Type} (items : List α) (r : Random) : Option α × Random :=
  if items.isEmpty then (none, r)
  else
    let (i, r) := r.below items.length
    (items[i]?, r)

/-- Exchanges every place from `last` down to the second with one at or before it. -/
def shuffleFrom {α : Type} : Nat → Array α → Random → Array α × Random
  | 0, items, r => (items, r)
  | last + 1, items, r =>
    let (i, r) := r.below (last + 2)
    shuffleFrom last (items.swapIfInBounds (last + 1) i) r

/-- The members in random order. -/
def shuffle {α : Type} (items : List α) (r : Random) : List α × Random :=
  let (shuffled, r) := shuffleFrom (items.length - 1) items.toArray r
  (shuffled.toList, r)

/-- `count` draws, one after the other. -/
def times {α : Type} (draw : Random → α × Random) : Nat → Random → List α × Random
  | 0, r => ([], r)
  | count + 1, r =>
    let (v, r) := draw r
    let (vs, r) := times draw count r
    (v :: vs, r)

end Random

end DevConsole
