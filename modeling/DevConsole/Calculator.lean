import DevConsole.Decimal.Reader
import DevConsole.Text.Blank

/-!
# The calculator

`Calculator.evaluate?` reads a text as an arithmetic expression and gives its value, over any
`Arithmetic`. The grammar has four levels: a sum of products of operands with signs, and an operand
is a number or a sum in parentheses. All four operators take their left operands first. Parentheses
are nested at most `maxDepth` deep.
-/

namespace DevConsole.Calculator

/-- Numbers, as far as the calculator needs them. -/
structure Arithmetic (ν : Type) where
  /-- The number that a run of digits and points spells. -/
  read? : List Char → Option ν
  add : ν → ν → ν
  sub : ν → ν → ν
  mul : ν → ν → ν
  div : ν → ν → ν
  neg : ν → ν
  isFinite : ν → Bool

inductive Token (ν : Type) where
  | number (n : ν)
  | plus
  | minus
  | times
  | over
  | opening
  | closing
  deriving DecidableEq, Repr

variable {ν : Type}

/-! ## Tokens -/

/-- A character that numbers are made of. -/
def isNumeric (c : Char) : Bool := Text.isDigit c || c == '.'

/-- The token of a sign. -/
def sign? (c : Char) : Option (Token ν) :=
  match c with
  | '+' => some .plus
  | '-' => some .minus
  | '*' => some .times
  | '/' => some .over
  | '(' => some .opening
  | ')' => some .closing
  | _ => none

/-- The token of a finished run of digits and points, where there is a run, before other tokens. -/
def closeRun (a : Arithmetic ν) (run : List Char) (ts : List (Token ν)) : Option (List (Token ν)) :=
  if run.isEmpty then some ts else (a.read? run).map fun n => .number n :: ts

/-- The tokens of a text; `run` holds the digits and points read last. -/
def tokensFrom (a : Arithmetic ν) (run : List Char) : List Char → Option (List (Token ν))
  | [] => closeRun a run []
  | c :: cs =>
    if isNumeric c then tokensFrom a (run ++ [c]) cs
    else if Text.isBlank c then (tokensFrom a [] cs).bind (closeRun a run)
    else (sign? c).bind fun t => (tokensFrom a [] cs).bind fun ts => closeRun a run (t :: ts)

def tokens? (a : Arithmetic ν) (text : List Char) : Option (List (Token ν)) := tokensFrom a [] text

/-! ## Expressions -/

/-- Reads a value off the start of some tokens. -/
abbrev Reader (ν : Type) := List (Token ν) → Option (ν × List (Token ν))

/-- Goes on with a value as long as operators follow; every operator uses up a token. -/
def chainFrom (operator? : Token ν → Option (ν → ν → ν)) (operand : Reader ν) :
    Nat → ν → Reader ν
  | 0, left, ts => some (left, ts)
  | _ + 1, left, [] => some (left, [])
  | fuel + 1, left, t :: ts =>
    match operator? t with
    | none => some (left, t :: ts)
    | some f =>
      match operand ts with
      | none => none
      | some (right, rest) => chainFrom operator? operand fuel (f left right) rest

/-- Operands with operators between them, from left to right. -/
def chain (operator? : Token ν → Option (ν → ν → ν)) (operand : Reader ν) : Reader ν := fun ts =>
  match operand ts with
  | none => none
  | some (first, rest) => chainFrom operator? operand rest.length first rest

/-- A number, or an expression in parentheses. -/
def primary (inner : Reader ν) : Reader ν
  | .number n :: ts => some (n, ts)
  | .opening :: ts =>
    match inner ts with
    | some (v, .closing :: rest) => some (v, rest)
    | _ => none
  | _ => none

/-- An operand with any number of signs before it. -/
def unary (a : Arithmetic ν) (operand : Reader ν) : Reader ν
  | .minus :: ts => (unary a operand ts).map fun (v, rest) => (a.neg v, rest)
  | .plus :: ts => unary a operand ts
  | ts => operand ts

def productOperator? (a : Arithmetic ν) : Token ν → Option (ν → ν → ν)
  | .times => some a.mul
  | .over => some a.div
  | _ => none

def sumOperator? (a : Arithmetic ν) : Token ν → Option (ν → ν → ν)
  | .plus => some a.add
  | .minus => some a.sub
  | _ => none

/-- A sum whose parentheses are read by `inner`. -/
def sum (a : Arithmetic ν) (inner : Reader ν) : Reader ν :=
  chain (sumOperator? a) (chain (productOperator? a) (unary a (primary inner)))

/-- A sum with parentheses nested at most `levels` deep. -/
def sumTo (a : Arithmetic ν) : Nat → Reader ν
  | 0 => sum a fun _ => none
  | levels + 1 => sum a (sumTo a levels)

/-- The deepest nesting of parentheses. -/
def maxDepth : Nat := 64

/-- The value of a text that is a sum as a whole, if it is finite. -/
def evaluate? (a : Arithmetic ν) (text : List Char) : Option ν :=
  match (tokens? a text).bind (sumTo a maxDepth) with
  | some (v, []) => if a.isFinite v then some v else none
  | _ => none

/-- Floating point numbers. -/
def floats : Arithmetic Float where
  read? run := Decimal.read? (String.ofList run)
  add := (· + ·)
  sub := (· - ·)
  mul := (· * ·)
  div := (· / ·)
  neg x := -x
  isFinite := Float.isFinite

end DevConsole.Calculator
