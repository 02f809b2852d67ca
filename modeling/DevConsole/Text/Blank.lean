/-!
# Blank characters

`isBlank` is the Unicode property White_Space. Trimming, cutting a line into words and finding the
first word all go by it, so a no-break space or an ideographic space separates words too.
-/

namespace DevConsole.Text

/-- The characters of the property White_Space. -/
def isBlank (c : Char) : Bool :=
  let n := c.toNat
  (9 ≤ n && n ≤ 13) || n == 32 || n == 0x85 || n == 0xA0 || n == 0x1680 ||
    (0x2000 ≤ n && n ≤ 0x200A) || n == 0x2028 || n == 0x2029 || n == 0x202F || n == 0x205F ||
    n == 0x3000

/-! ## Trimming -/

def trimStartChars (cs : List Char) : List Char := cs.dropWhile isBlank

def trimEndChars (cs : List Char) : List Char := (cs.reverse.dropWhile isBlank).reverse

def trimChars (cs : List Char) : List Char := trimEndChars (trimStartChars cs)

/-- The text without the blanks before it. -/
def trimStart (s : String) : String := String.ofList (trimStartChars s.toList)

/-- The text without the blanks after it. -/
def trimEnd (s : String) : String := String.ofList (trimEndChars s.toList)

/-- The text without the blanks around it. -/
def trim (s : String) : String := String.ofList (trimChars s.toList)

/-! ## Words -/

/-- The longest runs of characters that are not blank, in order. -/
def words (s : String) : List String :=
  ((s.toList.splitOnP isBlank).filter (!·.isEmpty)).map String.ofList

/-- The text up to its first blank, and the text after that blank. -/
def cutAtBlank (s : String) : String × String :=
  let cs := s.toList
  (String.ofList (cs.takeWhile (!isBlank ·)), String.ofList ((cs.dropWhile (!isBlank ·)).drop 1))

/-- The first word, or the empty text where there is none. -/
def firstWord (s : String) : String := (words s).headD ""

end DevConsole.Text
