import DevConsole.Json.Basic
import DevConsole.Decimal.Binary
import DevConsole.Text.Integer

/-!
# Reading JSON

`parse` reads a text by the grammar alone, `read` accepts what is sound and nested at most
`maxDepth` deep besides. A number without fraction and exponent that 64 bits hold stays whole. For
any other number the leading digits that fit into 64 bits are taken as a `Float` and multiplied or
divided by a power of ten, so that the last bit may differ from the nearest `Float`.
-/

namespace DevConsole.Json

/-- The blanks between the tokens. -/
def isSpace (c : Char) : Bool := c == ' ' || c == '\n' || c == '\t' || c == '\r'

def skipSpace (cs : List Char) : List Char := cs.dropWhile isSpace

/-! ## Strings -/

/-- A character of a string as it is written, or a code unit given by its number. -/
inductive Piece where
  | char (c : Char)
  | unit (n : Nat)
  deriving Repr

/-- The character that a letter after a backslash stands for. -/
def escape? (c : Char) : Option Char :=
  if c = '"' then some '"'
  else if c = '\\' then some '\\'
  else if c = '/' then some '/'
  else if c = 'b' then some '\x08'
  else if c = 'f' then some '\x0c'
  else if c = 'n' then some '\n'
  else if c = 'r' then some '\r'
  else if c = 't' then some '\t'
  else none

/-- The pieces up to the closing quote, and the text after it. -/
def readPieces : List Char → Option (List Piece × List Char)
  | [] => none
  | '"' :: rest => some ([], rest)
  | '\\' :: 'u' :: a :: b :: c :: d :: rest =>
    match Text.digitsValue? 16 Text.hexDigit? [a, b, c, d] with
    | none => none
    | some n => (readPieces rest).map fun (ps, r) => (.unit n :: ps, r)
  | '\\' :: c :: rest =>
    match escape? c with
    | none => none
    | some e => (readPieces rest).map fun (ps, r) => (.char e :: ps, r)
  | c :: rest =>
    if c.toNat < 32 ∨ c = '\\' then none
    else (readPieces rest).map fun (ps, r) => (.char c :: ps, r)

/-- The characters that the pieces spell. Code units of a surrogate pair must stand side by side. -/
def spell? : List Piece → Option (List Char)
  | [] => some []
  | .char c :: ps => (spell? ps).map (c :: ·)
  | .unit n :: ps =>
    if n < 0xD800 ∨ 0xE000 ≤ n then (spell? ps).map (Char.ofNat n :: ·)
    else match ps with
      | .unit m :: rest =>
        if n < 0xDC00 ∧ 0xDC00 ≤ m ∧ m < 0xE000 then
          (spell? rest).map (Char.ofNat (0x10000 + (n - 0xD800) * 0x400 + (m - 0xDC00)) :: ·)
        else none
      | _ => none

/-! ## Numbers -/

/-- A number as it is written. The exponent is its sign and its digits. -/
structure NumberText where
  negative : Bool
  whole : List Char
  fraction : Option (List Char)
  exponent : Option (Bool × List Char)
  deriving Repr

/-- At least one digit, and what follows the digits. -/
def readDigits (cs : List Char) : Option (List Char × List Char) :=
  let digits := cs.takeWhile Text.isDigit
  if digits.isEmpty then none else some (digits, cs.dropWhile Text.isDigit)

def readFraction (cs : List Char) : Option (Option (List Char) × List Char) :=
  match cs with
  | '.' :: rest => (readDigits rest).map fun (ds, r) => (some ds, r)
  | _ => some (none, cs)

def readExponent (cs : List Char) : Option (Option (Bool × List Char) × List Char) :=
  match cs with
  | c :: rest =>
    if c = 'e' ∨ c = 'E' then
      let (negative, digits) := match rest with
        | '-' :: r => (true, r)
        | '+' :: r => (false, r)
        | _ => (false, rest)
      (readDigits digits).map fun (ds, r) => (some (negative, ds), r)
    else some (none, cs)
  | [] => some (none, [])

/-- A number and the text after it. A zero starts no longer run of digits. -/
def readNumber (cs : List Char) : Option (NumberText × List Char) := do
  let (negative, unsigned) := match cs with
    | '-' :: rest => (true, rest)
    | _ => (false, cs)
  let (whole, r) ← readDigits unsigned
  if 1 < whole.length ∧ whole.head? = some '0' then none
  let (fraction, r) ← readFraction r
  let (exponent, r) ← readExponent r
  return (⟨negative, whole, fraction, exponent⟩, r)

/-- Takes up digits as long as the number stays within 64 bits; gives the number and how many digits
were taken. -/
def takeUp (start : Nat) : List Char → Nat × Nat
  | [] => (start, 0)
  | c :: cs =>
    let next := start * 10 + (Text.digit? c).getD 0
    if Text.maxNatural64 < next then (start, 0)
    else
      let (n, taken) := takeUp next cs
      (n, taken + 1)

/-- The power of ten as a `Float`, for exponents up to 308. -/
def powerOfTen (exponent : Nat) : Float := Decimal.nearest false (Nat.pow 10 exponent) 1

/-- Divides by a power of ten, at most 10³⁰⁸ at a time. -/
def divideByTens : Nat → Float → Nat → Float
  | 0, x, _ => x
  | fuel + 1, x, exponent =>
    if exponent ≤ 308 then x / powerOfTen exponent
    else if x == 0 then x
    else divideByTens fuel (x / powerOfTen 308) (exponent - 308)

/-- `significand · 10 ^ exponent` as a `Float`; `none` where it is infinite. -/
def scaleByTens? (significand : Nat) (exponent : Int) : Option Float :=
  let x := (UInt64.ofNat significand).toFloat
  if exponent < 0 then some (divideByTens 4 x (-exponent).toNat)
  else if x == 0 then some x
  else if 308 < exponent then none
  else
    let y := x * powerOfTen exponent.toNat
    if y.isInf then none else some y

/-- The value of a written number; `none` where it is too large. -/
def NumberText.value? (t : NumberText) : Option Number :=
  let (whole, taken) := takeUp 0 t.whole
  let dropped := t.whole.length - taken
  let signed := fun (x : Float) => Number.decimal (if t.negative then -x else x)
  if dropped = 0 ∧ t.fraction.isNone ∧ t.exponent.isNone then
    if !t.negative then some (.natural whole)
    else if 0 < whole ∧ whole ≤ Text.maxInteger64 + 1 then some (.negative whole)
    else some (signed (UInt64.ofNat whole).toFloat)
  else
    let (significand, places) := takeUp whole (t.fraction.getD [])
    let shift : Int := match t.exponent with
      | none => 0
      | some (negative, ds) =>
        let n : Nat := (Text.valueOfDigits? 10 Text.digit? 0 ds).getD 0
        if negative then -(n : Int) else n
    (scaleByTens? significand ((dropped : Int) - places + shift)).map signed

/-! ## Values -/

/-- A word of the grammar and the text after it. -/
def readWord (word : List Char) (value : Json) (cs : List Char) : Option (Json × List Char) :=
  if word.isPrefixOf cs then some (value, cs.drop word.length) else none

/-- The object of members some of whose names may have no spelling. -/
def objectOf (members : List (Option (List Char) × Json)) : Json :=
  match members.mapM fun m => m.1.map fun n => (String.ofList n, m.2) with
  | some named => .object named
  | none => .unreadable

mutual

/-- A value and the text after it. Each step of the recursion uses up one unit of fuel. -/
def readValue : Nat → List Char → Option (Json × List Char)
  | 0, _ => none
  | fuel + 1, cs =>
    match skipSpace cs with
    | '{' :: rest =>
      match skipSpace rest with
      | '}' :: r => some (.object [], r)
      | r => (readMembers fuel r).map fun (ms, r) => (objectOf ms, r)
    | '[' :: rest =>
      match skipSpace rest with
      | ']' :: r => some (.array [], r)
      | r => (readItems fuel r).map fun (vs, r) => (.array vs, r)
    | '"' :: rest =>
      (readPieces rest).map fun (ps, r) =>
        (match spell? ps with
         | some s => .string (String.ofList s)
         | none => .unreadable, r)
    | 't' :: rest => readWord "rue".toList (.bool true) rest
    | 'f' :: rest => readWord "alse".toList (.bool false) rest
    | 'n' :: rest => readWord "ull".toList .null rest
    | start =>
      (readNumber start).map fun (t, r) =>
        (match t.value? with
         | some n => .number n
         | none => .unreadable, r)

/-- At least one item, and the closing bracket. -/
def readItems : Nat → List Char → Option (List Json × List Char)
  | 0, _ => none
  | fuel + 1, cs =>
    match readValue fuel cs with
    | none => none
    | some (v, r) =>
      match skipSpace r with
      | ',' :: r => (readItems fuel r).map fun (vs, r) => (v :: vs, r)
      | ']' :: r => some ([v], r)
      | _ => none

/-- At least one member, and the closing brace. -/
def readMembers : Nat → List Char → Option (List (Option (List Char) × Json) × List Char)
  | 0, _ => none
  | fuel + 1, cs =>
    match skipSpace cs with
    | '"' :: rest =>
      match readPieces rest with
      | none => none
      | some (ps, r) =>
        match skipSpace r with
        | ':' :: r =>
          match readValue fuel r with
          | none => none
          | some (v, r) =>
            match skipSpace r with
            | ',' :: r => (readMembers fuel r).map fun (ms, r) => ((spell? ps, v) :: ms, r)
            | '}' :: r => some ([(spell? ps, v)], r)
            | _ => none
        | _ => none
    | _ => none

end

/-- The value of a text by the grammar alone. No step reads less than half a character. -/
def parse (text : String) : Option Json :=
  let cs := text.toList
  match readValue (2 * cs.length + 2) cs with
  | none => none
  | some (v, r) => if (skipSpace r).isEmpty then some v else none

/-- The value of a text. -/
def read (text : String) : Option Json :=
  (parse text).filter fun v => v.sound && v.depth ≤ maxDepth

end DevConsole.Json
