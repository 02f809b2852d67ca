import DevConsole.Calculator

/-!
# The grammar of expressions

The phrases of the calculator as data: a sum is a chain of products, a product a chain of operands
with signs, an operand a number or a sum in parentheses. `SumTo ν levels` has room for `levels`
parentheses within each other. A `Meaning` says which tokens a phrase is made up of and what it is
worth. Chains are worth what their operators give from left to right (`Meaning.follow`).
-/

namespace DevConsole.Calculator

variable {ν ω α : Type}

/-! ## Phrases -/

/-- The operators of sums, which are also the signs of operands. -/
inductive AddOp where
  | plus
  | minus
  deriving DecidableEq, Repr

namespace AddOp

def token : AddOp → Token ν
  | plus => .plus
  | minus => .minus

/-- What the sign of an operand does. -/
def sign (a : Arithmetic ν) : AddOp → ν → ν
  | plus => id
  | minus => a.neg

end AddOp

/-- The operators of products. -/
inductive MulOp where
  | times
  | over
  deriving DecidableEq, Repr

/-- An operand, then any number of operators, each with an operand. -/
structure Chain (ω α : Type) where
  first : α
  rest : List (ω × α)

/-- An operand behind any number of signs. -/
structure Signed (α : Type) where
  signs : List AddOp
  operand : α

/-- A number, or an expression in parentheses. -/
inductive Primary (ν α : Type) where
  | number (n : ν)
  | parens (inner : α)

/-- A sum of products of operands with signs; what stands in parentheses is an `α`. -/
abbrev SumOf (ν α : Type) := Chain AddOp (Chain MulOp (Signed (Primary ν α)))

/-- A sum with parentheses nested at most `levels` deep. -/
def SumTo (ν : Type) : Nat → Type
  | 0 => SumOf ν Empty
  | levels + 1 => SumOf ν (SumTo ν levels)

/-! ## Meanings -/

/-- What the phrases of a kind are made up of, and what they are worth. -/
structure Meaning (ν α : Type) where
  tokens : α → List (Token ν)
  value : α → ν

/-- An operator as a token, and as what it does. -/
structure Operators (ν ω : Type) where
  token : ω → Token ν
  apply : ω → ν → ν → ν

namespace Meaning

/-- The tokens of operators with their operands. -/
def links (m : Meaning ν α) (o : Operators ν ω) (rest : List (ω × α)) : List (Token ν) :=
  rest.flatMap fun (op, x) => o.token op :: m.tokens x

/-- Goes on with a value, from left to right. -/
def follow (m : Meaning ν α) (o : Operators ν ω) (rest : List (ω × α)) (left : ν) : ν :=
  rest.foldl (fun left (op, x) => o.apply op left (m.value x)) left

/-- Operators take the value of all that stands before them as their left operands. -/
def chain (m : Meaning ν α) (o : Operators ν ω) : Meaning ν (Chain ω α) where
  tokens c := m.tokens c.first ++ m.links o c.rest
  value c := m.follow o c.rest (m.value c.first)

/-- The signs next to an operand come first. -/
def signed (m : Meaning ν α) (a : Arithmetic ν) : Meaning ν (Signed α) where
  tokens s := s.signs.map AddOp.token ++ m.tokens s.operand
  value s := s.signs.foldr (AddOp.sign a) (m.value s.operand)

def primary (m : Meaning ν α) : Meaning ν (Primary ν α) where
  tokens
    | .number n => [.number n]
    | .parens inner => .opening :: m.tokens inner ++ [.closing]
  value
    | .number n => n
    | .parens inner => m.value inner

end Meaning

def additive (a : Arithmetic ν) : Operators ν AddOp where
  token := AddOp.token
  apply | .plus => a.add | .minus => a.sub

def multiplicative (a : Arithmetic ν) : Operators ν MulOp where
  token | .times => .times | .over => .over
  apply | .times => a.mul | .over => a.div

namespace Meaning

def product (m : Meaning ν α) (a : Arithmetic ν) :
    Meaning ν (Chain MulOp (Signed (Primary ν α))) :=
  (m.primary.signed a).chain (multiplicative a)

def sum (m : Meaning ν α) (a : Arithmetic ν) : Meaning ν (SumOf ν α) :=
  (m.product a).chain (additive a)

def sumTo (a : Arithmetic ν) : (levels : Nat) → Meaning ν (SumTo ν levels)
  | 0 => sum ⟨Empty.elim, Empty.elim⟩ a
  | levels + 1 => (sumTo a levels).sum a

end Meaning

end DevConsole.Calculator
