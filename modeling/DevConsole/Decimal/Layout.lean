import DevConsole.Decimal.Shortest
import DevConsole.Text.Lines

/-!
# Decimal texts

How a `Float` is written: `plain` is the shortest digits at their places, `tagged` and `json` add
`.0` to whole values and change to an exponent for the very large and the very small ones, `fixed`
rounds to a given number of places. The differences between the first three are in the record
`Layout`.
-/

namespace DevConsole.Decimal

/-- The decisions of a way to write a shortest decimal. -/
structure Layout where
  tie : Tie
  /-- Whole values get `.0`. -/
  wholeMark : Bool
  /-- The exponents of the leading digit that are written at their place. -/
  positional : Int → Bool
  /-- What stands before an exponent that is not negative. -/
  plusSign : String

/-- Digits with a point `places` digits from their end, zeros filled in. -/
def pointText (digits : Nat) (places : Nat) : String :=
  let ds := Nat.toDigits 10 digits
  let padded := List.replicate (places + 1 - ds.length) '0' ++ ds
  let whole := padded.length - places
  String.ofList (padded.take whole) ++ "." ++ String.ofList (padded.drop whole)

/-- A shortest decimal at its place. -/
def Scaled.positionalText (s : Scaled) (wholeMark : Bool) : String :=
  if s.exponent < 0 then pointText s.digits (-s.exponent).toNat
  else
    String.ofList (Nat.toDigits 10 s.digits) ++ Text.repeated s.exponent.toNat '0' ++
      if wholeMark then ".0" else ""

/-- A shortest decimal as one digit, the others after a point, and an exponent. -/
def Scaled.exponentText (s : Scaled) (plusSign : String) : String :=
  let ds := Nat.toDigits 10 s.digits
  let exponent := s.exponent + (ds.length - 1 : Nat)
  let tail := if ds.length ≤ 1 then "" else "." ++ String.ofList (ds.drop 1)
  let sign := if exponent < 0 then "-" else plusSign
  String.ofList (ds.take 1) ++ tail ++ "e" ++ sign ++
    String.ofList (Nat.toDigits 10 exponent.natAbs)

/-- The exponent of ten of the leading digit. -/
def Scaled.leading (s : Scaled) : Int := s.exponent + ((Nat.toDigits 10 s.digits).length - 1 : Nat)

def Layout.magnitude (l : Layout) (m : Nat) (q : Int) : String :=
  if m = 0 then (if l.wholeMark then "0.0" else "0")
  else
    let s := shortest l.tie m q
    if l.positional s.leading then s.positionalText l.wholeMark else s.exponentText l.plusSign

/-- A `Float` in a layout. A negative zero keeps its sign, a value that is no number has none. -/
def Layout.text (l : Layout) (x : Float) : String :=
  let sign := if isNegative x then "-" else ""
  match Binary.ofFloat x with
  | .nan => "NaN"
  | .infinity => sign ++ "inf"
  | .finite m q => sign ++ l.magnitude m q

/-- Shortest digits, always at their places, and whole values without a point. -/
def plainLayout : Layout := ⟨.up, false, fun _ => true, ""⟩

/-- Shortest digits, with a point on whole values, and an exponent below 10⁻⁴ and from 10¹⁶ up. -/
def taggedLayout : Layout := ⟨.up, true, fun e => -4 ≤ e && e < 16, ""⟩

/-- Shortest digits, with a point on whole values, and a signed exponent below 10⁻⁵ and from 10¹⁶
up. -/
def jsonLayout : Layout := ⟨.toEven, true, fun e => -5 ≤ e && e < 16, "+"⟩

def plain (x : Float) : String := plainLayout.text x

def tagged (x : Float) : String := taggedLayout.text x

/-- A magnitude `m · 2 ^ q` with `places` digits after the point, a tie going to the even digit. -/
def fixedMagnitude (places m : Nat) (q : Int) : String :=
  let num := m * Nat.pow 10 places * if q < 0 then 1 else Nat.pow 2 q.toNat
  let den := if q < 0 then Nat.pow 2 (-q).toNat else 1
  let rounded := roundHalfEven num den
  if places = 0 then String.ofList (Nat.toDigits 10 rounded) else pointText rounded places

/-- A `Float` with `places` digits after the point. -/
def fixed (places : Nat) (x : Float) : String :=
  let sign := if isNegative x then "-" else ""
  match Binary.ofFloat x with
  | .nan => "NaN"
  | .infinity => sign ++ "inf"
  | .finite m q => sign ++ fixedMagnitude places m q

end DevConsole.Decimal
