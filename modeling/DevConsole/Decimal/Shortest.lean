import DevConsole.Decimal.Binary

/-!
# Shortest decimals

The reals that round to one `Float` form an interval, its ends included when the mantissa is even.
`shortest` looks for the coarsest decimal grid with a point in that interval, of two points it takes
the nearer, and `Tie` says which when both are equally near. Everything is done on `m · 2 ^ q` in
natural numbers.
-/

namespace DevConsole.Decimal

/-- A decimal value `digits · 10 ^ exponent`. -/
structure Scaled where
  digits : Nat
  exponent : Int
  deriving DecidableEq, Repr

/-- Which of two equally near neighbours is taken. -/
inductive Tie where
  /-- the one with the even last digit -/
  | toEven
  /-- the greater one -/
  | up
  deriving DecidableEq, Repr

/-- Four times the value and the two ends of its interval, over a common denominator. -/
structure Interval where
  low : Nat
  value : Nat
  high : Nat
  den : Nat
  /-- Whether the ends round to the value too. -/
  closed : Bool
  deriving Repr

/-- The interval of the reals that round to `m · 2 ^ q`. Below a power of two the neighbour is half
as far away, except at the least exponent. -/
def Interval.of (m : Nat) (q : Int) : Interval :=
  let below := if m = leadingWeight ∧ q ≠ -1074 then 1 else 2
  let up := if q < 0 then 1 else Nat.pow 2 q.toNat
  let den := if q < 0 then 4 * Nat.pow 2 (-q).toNat else 4
  ⟨(4 * m - below) * up, 4 * m * up, (4 * m + 2) * up, den, m % 2 = 0⟩

/-- The interval in units of `10 ^ exponent`. -/
def Interval.scale (i : Interval) (exponent : Int) : Interval :=
  if exponent < 0 then
    let p := Nat.pow 10 (-exponent).toNat
    { i with low := i.low * p, value := i.value * p, high := i.high * p }
  else { i with den := i.den * Nat.pow 10 exponent.toNat }

/-- Whether a grid point lies in the interval. -/
def Interval.contains (i : Interval) (point : Nat) : Bool :=
  let p := point * i.den
  if i.closed then i.low ≤ p && p ≤ i.high else i.low < p && p < i.high

/-- The grid point next to the value that lies in the interval, the nearer one of two. -/
def Interval.nearestPoint? (tie : Tie) (i : Interval) : Option Nat :=
  let floor := i.value / i.den
  let rest := 2 * (i.value % i.den)
  let above := floor + 1
  match decide (0 < floor) && i.contains floor, i.contains above with
  | false, false => none
  | true, false => some floor
  | false, true => some above
  | true, true =>
    if rest < i.den then some floor
    else if i.den < rest then some above
    else match tie with
      | .up => some above
      | .toEven => some (if floor % 2 = 0 then floor else above)

/-- Tries `count` grids, from the one of unit `10 ^ exponent` to ever finer ones. -/
def shortestFrom (tie : Tie) (i : Interval) : Nat → Int → Scaled
  | 0, exponent => ⟨0, exponent⟩
  | count + 1, exponent =>
    match (i.scale exponent).nearestPoint? tie with
    | some point => ⟨point, exponent⟩
    | none => shortestFrom tie i count (exponent - 1)

/-- An exponent of ten that no value `m · 2 ^ q` of this size exceeds. -/
def decimalMagnitude (m : Nat) (q : Int) : Int :=
  ((m.log2 : Int) + q + 1) * 30103 / 100000 + 1

/-- Drops the zeros at the end of the digits, at most `fuel` of them. -/
def Scaled.trimmed : Nat → Scaled → Scaled
  | 0, s => s
  | fuel + 1, s =>
    if s.digits % 10 = 0 ∧ 0 < s.digits then trimmed fuel ⟨s.digits / 10, s.exponent + 1⟩ else s

/-- The shortest decimal that rounds to `m · 2 ^ q`, for a positive `m`. -/
def shortest (tie : Tie) (m : Nat) (q : Int) : Scaled :=
  (shortestFrom tie (Interval.of m q) 24 (decimalMagnitude m q)).trimmed 24

end DevConsole.Decimal
