/-!
# Binary floating point, taken apart and put together

A finite `Float` is a sign and a magnitude `mantissa · 2 ^ exponent`. `Binary.ofFloat` reads it off
the bits, and `nearestBits` goes the other way for any quotient of natural numbers: it gives the
bits of the nearest `Float`, a tie going to the even mantissa and a quotient past the greatest
finite value to infinity.
-/

namespace DevConsole.Decimal

/-- What a `Float` stands for, its sign aside. -/
inductive Binary where
  | nan
  | infinity
  | finite (mantissa : Nat) (exponent : Int)
  deriving DecidableEq, Repr

/-- The weight of the sign bit. -/
def signWeight : Nat := 0x8000000000000000

/-- The weight of the bit that a mantissa starts with, and of the exponent's last bit. -/
def leadingWeight : Nat := 0x10000000000000

/-- The sign bit. -/
def isNegative (x : Float) : Bool := x.toBits.toNat / signWeight == 1

/-- The magnitude of a `Float`. A zero exponent field marks the values without the leading bit. -/
def Binary.ofFloat (x : Float) : Binary :=
  let bits := x.toBits.toNat
  let field : Nat := bits / leadingWeight % 2048
  let fraction : Nat := bits % leadingWeight
  if field = 2047 then (if fraction = 0 then .infinity else .nan)
  else if field = 0 then .finite fraction (-1074)
  else .finite (leadingWeight + fraction) ((field : Int) - 1075)

/-- The bits of infinity, sign aside. -/
def infinityBits : Nat := 2047 * leadingWeight

/-- `num / den` rounded to a natural number, a tie going to the even neighbour. -/
def roundHalfEven (num den : Nat) : Nat :=
  let q := num / den
  let r := num % den
  if 2 * r < den ∨ (2 * r = den ∧ q % 2 = 0) then q else q + 1

/-- `num / den` scaled by a power of two and rounded to even. -/
def roundScaled (num den : Nat) (exponent : Int) : Nat :=
  if exponent < 0 then roundHalfEven (num * Nat.pow 2 (-exponent).toNat) den
  else roundHalfEven num (den * Nat.pow 2 exponent.toNat)

/-- Whether `2 ^ exponent ≤ num / den`. -/
def reachesPower (num den : Nat) (exponent : Int) : Bool :=
  if exponent < 0 then den ≤ num * Nat.pow 2 (-exponent).toNat
  else den * Nat.pow 2 exponent.toNat ≤ num

/-- The bits of the `Float` nearest to `num / den`, for a positive `den`. -/
def nearestBits (num den : Nat) : Nat :=
  if num = 0 then 0
  else
    let guess : Int := (num.log2 : Int) - den.log2
    let magnitude := if reachesPower num den guess then guess else guess - 1
    let exponent := max (magnitude - 52) (-1074)
    let bits := (exponent + 1074).toNat * leadingWeight + roundScaled num den exponent
    min bits infinityBits

/-- The `Float` nearest to `num / den`, with a sign. -/
def nearest (negative : Bool) (num den : Nat) : Float :=
  Float.ofBits (UInt64.ofNat (nearestBits num den + if negative then signWeight else 0))

end DevConsole.Decimal
