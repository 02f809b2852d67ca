import DevConsole.Decimal.Binary
import DevConsole.Text.Integer

/-!
# Reading decimals

A decimal text is an optional sign, digits with at most one point and at least one digit, and
optionally an exponent; or a sign and one of the words `inf`, `infinity` and `nan` in any case. It
reads as the nearest `Float`.
-/

namespace DevConsole.Decimal

/-- The magnitude of an unsigned decimal `digits · 10 ^ exponent`. Exponents far outside the range
of `Float` are decided without computing the power. -/
def magnitudeBits (digits : Nat) (exponent : Int) : Nat :=
  let length : Int := (Nat.toDigits 10 digits).length
  if digits = 0 ∨ exponent + length < -400 then 0
  else if 400 < exponent + length then infinityBits
  else if exponent < 0 then nearestBits digits (Nat.pow 10 (-exponent).toNat)
  else nearestBits (digits * Nat.pow 10 exponent.toNat) 1

/-- The exponent after the letter `e`: an optional sign and at least one digit. -/
def readExponent? : List Char → Option Int
  | '-' :: cs => (Text.digitsValue? 10 Text.digit? cs).map fun n => -(n : Int)
  | '+' :: cs => (Text.digitsValue? 10 Text.digit? cs).map Int.ofNat
  | cs => (Text.digitsValue? 10 Text.digit? cs).map Int.ofNat

/-- The bits of an unsigned decimal. -/
def readUnsigned? (cs : List Char) : Option Nat :=
  let whole := cs.takeWhile Text.isDigit
  let afterWhole := cs.dropWhile Text.isDigit
  let (fraction, afterFraction) := match afterWhole with
    | '.' :: rest => (rest.takeWhile Text.isDigit, rest.dropWhile Text.isDigit)
    | _ => ([], afterWhole)
  if whole.isEmpty && fraction.isEmpty then none
  else
    let digits := (Text.valueOfDigits? 10 Text.digit? 0 (whole ++ fraction)).getD 0
    let scaled := fun (exponent : Int) => magnitudeBits digits (exponent - fraction.length)
    match afterFraction with
    | [] => some (scaled 0)
    | c :: rest => if Text.lowerChar c = 'e' then (readExponent? rest).map scaled else none

/-- The bits that a word stands for. -/
def readWord? (cs : List Char) : Option Nat :=
  match String.ofList (cs.map Text.lowerChar) with
  | "inf" | "infinity" => some infinityBits
  | "nan" => some (infinityBits + leadingWeight / 2)
  | _ => none

/-- The `Float` that a decimal text spells. -/
def read? (s : String) : Option Float :=
  let (negative, cs) := match s.toList with
    | '-' :: rest => (true, rest)
    | '+' :: rest => (false, rest)
    | cs => (false, cs)
  ((readUnsigned? cs).or (readWord? cs)).map fun bits =>
    Float.ofBits (UInt64.ofNat (bits + if negative then signWeight else 0))

end DevConsole.Decimal
