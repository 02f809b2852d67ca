import DevConsole.Text.Ascii

/-!
# Reading whole numbers

A whole number is a run of decimal digits, leading zeros allowed, with an optional plus sign, and
for a signed number alternatively a minus sign. A value outside the range asked for is refused,
never wrapped.
-/

namespace DevConsole.Text

/-- The number that the digits spell in base `base`; `none` at a character that is no digit. -/
def valueOfDigits? (base : Nat) (digit? : Char → Option Nat) (start : Nat) :
    List Char → Option Nat
  | [] => some start
  | c :: cs =>
    match digit? c with
    | none => none
    | some d => valueOfDigits? base digit? (start * base + d) cs

/-- At least one digit, and digits only. -/
def digitsValue? (base : Nat) (digit? : Char → Option Nat) (cs : List Char) : Option Nat :=
  if cs.isEmpty then none else valueOfDigits? base digit? 0 cs

/-- A natural number of at most `limit`, as an optional plus sign and digits. -/
def readNatural? (base : Nat) (digit? : Char → Option Nat) (limit : Nat) (cs : List Char) :
    Option Nat :=
  let digits := match cs with
    | '+' :: rest => rest
    | _ => cs
  (digitsValue? base digit? digits).filter (· ≤ limit)

/-- The greatest natural number of 64 bits. -/
def maxNatural64 : Nat := 0xFFFFFFFFFFFFFFFF

/-- The greatest integer of 64 bits with a sign. The least one is one further from zero. -/
def maxInteger64 : Nat := 0x7FFFFFFFFFFFFFFF

/-- A decimal natural number of 64 bits. -/
def natural64? (s : String) : Option Nat := readNatural? 10 digit? maxNatural64 s.toList

/-- A decimal integer of 64 bits with sign. -/
def integer64? (s : String) : Option Int :=
  match s.toList with
  | '-' :: rest =>
    (digitsValue? 10 digit? rest).bind fun n => if n ≤ maxInteger64 + 1 then some (-n) else none
  | cs => (readNatural? 10 digit? maxInteger64 cs).map Int.ofNat

end DevConsole.Text
