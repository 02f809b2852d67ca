import DevConsole.Text.Ascii
import DevConsole.Text.Lines

/-!
# Toy digests and ciphers

`digest` stretches a 32-bit hash of the UTF-16 units of a text to sixty-four hexadecimal digits; it
only looks like a cryptographic one. `rotate` turns ASCII letters on by some places.
-/

namespace DevConsole.Text

/-- The UTF-16 units of a character. -/
def units16 (c : Char) : List Nat :=
  let n := c.toNat
  if n < 0x10000 then [n]
  else [0xD800 + (n - 0x10000) / 0x400, 0xDC00 + (n - 0x10000) % 0x400]

/-- The hash of a run of units, with 31 as its factor. -/
def hash32 (units : List Nat) : Int32 :=
  units.foldl (fun h unit => h * 31 + Int32.ofNat unit) 0

/-- The digest of the empty text. -/
def emptyDigest : String := "e3b0c44298fc1c149afbf4c8996fb92427ae41e4649b934ca495991b7852b855"

def digest (s : String) : String :=
  if s.isEmpty then emptyDigest
  else
    let digits := Nat.toDigits 16 (hash32 (s.toList.flatMap units16)).toInt.natAbs
    String.ofList ((List.replicate 8 digits).flatten.take 64)

/-- Turns a letter on by some places, within its case. -/
def rotateChar (places : Nat) (c : Char) : Char :=
  let turned := fun (first : Char) =>
    Char.ofNat ((c.toNat - first.toNat + places) % 26 + first.toNat)
  if 'a' ≤ c ∧ c ≤ 'z' then turned 'a'
  else if 'A' ≤ c ∧ c ≤ 'Z' then turned 'A'
  else c

def rotate (places : Nat) (s : String) : String := String.ofList (s.toList.map (rotateChar places))

end DevConsole.Text
