/-!
# Base64

`encode` writes the octets of a text in groups of three as four symbols, the last group padded with
`=`. `decode?` reads that form back, blanks between the symbols and a missing padding allowed: the
padding stands at the end and fills the last group, and the octets must be those of a text.
-/

namespace DevConsole.Base64

def alphabet : List Char :=
  "ABCDEFGHIJKLMNOPQRSTUVWXYZabcdefghijklmnopqrstuvwxyz0123456789+/".toList

/-- The symbol of a number below 64. -/
def symbol (n : Nat) : Char := alphabet.getD n '='

/-- The number of a symbol. -/
def value? (c : Char) : Option Nat := alphabet.idxOf? c

/-! ## Encoding -/

def encodeOctets : List UInt8 → List Char
  | [] => []
  | [a] =>
    let n := a.toNat * 16
    [symbol (n / 64), symbol (n % 64), '=', '=']
  | [a, b] =>
    let n := (a.toNat * 0x100 + b.toNat) * 4
    [symbol (n / 0x1000), symbol (n / 64 % 64), symbol (n % 64), '=']
  | a :: b :: c :: rest =>
    let n := (a.toNat * 0x100 + b.toNat) * 0x100 + c.toNat
    symbol (n / 0x40000) :: symbol (n / 0x1000 % 64) :: symbol (n / 64 % 64) :: symbol (n % 64) ::
      encodeOctets rest

def encode (s : String) : String := String.ofList (encodeOctets s.toUTF8.toList)

/-! ## Decoding -/

/-- The blanks that may stand between symbols. -/
def isSpace (c : Char) : Bool := c == ' ' || c == '\t' || c == '\n' || c == '\x0c' || c == '\r'

/-- The complete octets in a run of groups of six bits; bits left over are dropped. -/
def octets : List Nat → List UInt8
  | a :: b :: c :: d :: rest =>
    let n := ((a * 64 + b) * 64 + c) * 64 + d
    UInt8.ofNat (n / 0x10000) :: UInt8.ofNat (n / 0x100) :: UInt8.ofNat n :: octets rest
  | [a, b, c] =>
    let n := ((a * 64 + b) * 64 + c) / 4
    [UInt8.ofNat (n / 0x100), UInt8.ofNat n]
  | [a, b] => [UInt8.ofNat ((a * 64 + b) / 16)]
  | _ => []

/-- The text that octets are the UTF-8 form of. -/
def textOf? (os : List UInt8) : Option String := String.fromUTF8? ⟨os.toArray⟩

/-- The symbols before the padding, where the padding is in order. -/
def body? (symbols : List Char) : Option (List Char) :=
  let body := symbols.takeWhile (· != '=')
  let padding := symbols.dropWhile (· != '=')
  if padding.all (· == '=') ∧ padding.length ≤ 2 ∧ body.length % 4 ≠ 1 ∧
      (padding.isEmpty ∨ symbols.length % 4 = 0) then some body
  else none

def decode? (s : String) : Option String :=
  (body? (s.toList.filter (!isSpace ·))).bind fun body =>
    (body.mapM value?).bind fun values => textOf? (octets values)

end DevConsole.Base64
