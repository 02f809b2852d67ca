import DevConsole.Decimal.Layout

/-!
# Amounts with grouped digits

An amount is written with commas between groups of three digits, without zeros at the end of its
decimals, and with a minus sign only where a digit other than zero is left.
-/

namespace DevConsole.Decimal

/-- The digits in groups of three, counted from the right. -/
def groupDigits : List Char → List Char
  | [] => []
  | c :: cs =>
    if cs.length % 3 = 0 ∧ cs ≠ [] then c :: ',' :: groupDigits cs else c :: groupDigits cs

/-- The digits without the zeros at their end. -/
def dropFinalZeros (cs : List Char) : List Char := (cs.reverse.dropWhile (· == '0')).reverse

/-- An amount from the fixed-point text of its magnitude. -/
def groupText (negative : Bool) (text : List Char) : List Char :=
  let whole := text.takeWhile (· != '.')
  let decimals := dropFinalZeros ((text.dropWhile (· != '.')).drop 1)
  let isZero := text.all fun c => c == '0' || c == '.'
  (if negative && !isZero then ['-'] else []) ++ groupDigits whole ++
    if decimals.isEmpty then [] else '.' :: decimals

/-- An amount with at most `places` decimals. -/
def grouped (places : Nat) (x : Float) : String :=
  String.ofList (groupText (x < 0) (fixed places x.abs).toList)

/-- An amount of dollars. -/
def dollars (x : Float) : String := "$" ++ grouped 2 x

end DevConsole.Decimal
