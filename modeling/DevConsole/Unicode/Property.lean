import DevConsole.Unicode.AgeRuns
import DevConsole.Unicode.CategoryRuns
import DevConsole.Unicode.PropertyRuns
import DevConsole.Unicode.Runs
import DevConsole.Unicode.ScriptRuns

/-!
# Character properties

The general category, the script and the age of characters, and the binary properties. Many of these
are made out of others by the rules of the standard. A property belongs to an edition of the
standard: how a text is shown goes by a later one than what a regular expression knows.
-/

namespace DevConsole.Unicode

/-- An edition of the standard. -/
inductive Edition where
  | v16
  | v17
  deriving DecidableEq, Repr

def ageRanges : List Labelled := labelled ageRuns

/-- What the last edition has added. -/
def newcomers : Ranges := codesOf ageRanges (· == "B")

namespace Edition

/-- The code points that an edition does not know yet. -/
def unknown : Edition → Ranges
  | .v16 => newcomers
  | .v17 => []

/-- The members that an edition knows. -/
def known (e : Edition) (s : Ranges) : Ranges := s.diff e.unknown

end Edition

/-! ## Partitions -/

def categoryRanges : List Labelled := labelled categoryRuns

/-- The characters of some general categories, which go by their abbreviations. -/
def ofCategories (e : Edition) (names : List String) : Ranges :=
  let s := e.known (codesOf categoryRanges names.contains)
  if names.contains "Cn" then s.union e.unknown else s

def scriptRanges : List Labelled := labelled scriptRuns

/-- The characters of a script, which goes by its abbreviation. -/
def ofScript (e : Edition) (name : String) : Ranges :=
  e.known (codesOf scriptRanges (· == name))

/-- The words of four letters that a text is made of. -/
def fours : List Char → List String
  | a :: b :: c :: d :: rest => String.ofList [a, b, c, d] :: fours rest
  | _ => []

/-- Ranges with the scripts that use them. -/
def sharedRanges : List String → List ((Nat × Nat) × List String)
  | first :: count :: scripts :: rest =>
    match first.toNat?, count.toNat? with
    | some first, some count =>
      ((first, first + count - 1), fours scripts.toList) :: sharedRanges rest
    | _, _ => sharedRanges rest
  | _ => []

/-- The characters that a script uses, also those which it shares with others. -/
def ofScriptExtensions (e : Edition) (name : String) : Ranges :=
  let shared := sharedRanges (words scriptExtensions)
  let used := Ranges.joined ((shared.filter (·.2.contains name)).map (·.1))
  (ofScript e name).diff (Ranges.joined (shared.map (·.1))) |>.union (e.known used)

/-- The characters of an edition, given by its place in the list of ages, and those before it. -/
def ofAge (place : Nat) : Ranges :=
  let letters := ageLetters.toList.take (place + 1)
  (codesOf ageRanges fun label => label.toList.all letters.contains).diff [(0xD800, 0xDFFF)]

/-! ## Binary properties -/

/-- A property that is listed with its runs. -/
def ListedProperty.codes (e : Edition) (p : ListedProperty) : Ranges := e.known (.ofText p.runs)

/-- The listed property of this name. -/
def listed (e : Edition) (name : String) : Ranges :=
  ((listedProperties.find? (·.name = name)).map (·.codes e)).getD []

def uppercase (e : Edition) : Ranges :=
  (ofCategories e ["Lu"]).union (listed e "Other_Uppercase")

def lowercase (e : Edition) : Ranges :=
  (ofCategories e ["Ll"]).union (listed e "Other_Lowercase")

/-- Letters with case. -/
def cased (e : Edition) : Ranges :=
  ((uppercase e).union (lowercase e)).union (ofCategories e ["Lt"])

def alphabetic (e : Edition) : Ranges :=
  ((cased e).union (ofCategories e ["Lm", "Lo", "Nl"])).union (listed e "Other_Alphabetic")

def math (e : Edition) : Ranges := (ofCategories e ["Sm"]).union (listed e "Other_Math")

/-- What has no width of its own and belongs to the character before it. -/
def graphemeExtend (e : Edition) : Ranges :=
  (ofCategories e ["Me", "Mn"]).union (listed e "Other_Grapheme_Extend")

def graphemeBase (e : Edition) : Ranges :=
  ((ofCategories e ["Cc", "Cf", "Cs", "Co", "Cn", "Zl", "Zp"]).union (graphemeExtend e)).complement

/-- What is not shown where a font does not know it. -/
def defaultIgnorable (e : Edition) : Ranges :=
  let wide := (ofCategories e ["Cf"]).union ((listed e "Variation_Selector").union
    (listed e "Other_Default_Ignorable_Code_Point"))
  ((wide.diff (listed e "White_Space")).diff (listed e "Prepended_Concatenation_Mark")).diff
    [(0xFFF9, 0xFFFB), (0x13430, 0x13440)]

/-- What case rules look through; marks within words are among it. -/
def caseIgnorable (e : Edition) : Ranges :=
  (ofCategories e ["Mn", "Me", "Cf", "Lm", "Sk"]).union
    (.ofCodes [0x27, 0x2E, 0x3A, 0xB7, 0x387, 0x55F, 0x5F4, 0x2018, 0x2019, 0x2024, 0x2027, 0xFE13,
      0xFE52, 0xFE55, 0xFF07, 0xFF0E, 0xFF1A])

/-- What names never hold. -/
def patternCodes (e : Edition) : Ranges :=
  (listed e "Pattern_Syntax").union (listed e "Pattern_White_Space")

def idStart (e : Edition) : Ranges :=
  ((ofCategories e ["Lu", "Ll", "Lt", "Lm", "Lo", "Nl"]).union (listed e "Other_ID_Start")).diff
    (patternCodes e)

def idContinue (e : Edition) : Ranges :=
  ((idStart e).union ((ofCategories e ["Mn", "Mc", "Nd", "Pc"]).union
    (listed e "Other_ID_Continue"))).diff (patternCodes e)

/-- Letters that would be no part of a name any more once they are put into a common form. -/
def unstable : Ranges :=
  .ofCodes ([0x37A, 0x309B, 0x309C] ++ (List.range 6).map (0xFC5E + ·) ++ [0xFDFA, 0xFDFB] ++
    (List.range 8).map fun n => 0xFE70 + 2 * n)

def xidStart (e : Edition) : Ranges :=
  ((idStart e).diff unstable).diff (.ofCodes [0xE33, 0xEB3, 0xFF9E, 0xFF9F])

def xidContinue (e : Edition) : Ranges := (idContinue e).diff unstable

/-- What some case mapping changes. -/
def changesWhenMapped (e : Edition) : Ranges :=
  ((listed e "Changes_When_Lowercased").union (listed e "Changes_When_Uppercased")).union
    (listed e "Changes_When_Titlecased")

/-! ## What the console goes by -/

/-- What is written by its number where texts are shown in quotes: what has a category that leaves
no mark, what is not shown, and what extends the character before it, voicing marks that stand alone
excepted. -/
def unprinted : Ranges :=
  ((ofCategories .v17 ["Cc", "Cf", "Cs", "Co", "Cn", "Zl", "Zp", "Zs"]).union
    (defaultIgnorable .v17)).union ((graphemeExtend .v17).diff (ofCategories .v17 ["Lm"]))

/-- Whether a character is written as it is where texts are shown in quotes. -/
def isPrintable (c : Char) : Bool := c == ' ' || !unprinted.contains c.toNat

def letters : Ranges := alphabetic .v17

def isLetter (c : Char) : Bool := letters.contains c.toNat

def numerals : Ranges := ofCategories .v17 ["Nd", "Nl", "No"]

/-- A digit or another sign for a number. -/
def isNumeral (c : Char) : Bool := numerals.contains c.toNat

/-- The decimal digits of all scripts. -/
def digitCodes : Ranges := ofCategories .v16 ["Nd"]

def blankCodes : Ranges := .ofText whiteSpaceRuns

/-- The characters of words: letters, marks, digits, connectors and joiners. -/
def wordCodes : Ranges :=
  ((alphabetic .v16).union (ofCategories .v16 ["Mn", "Mc", "Me", "Nd", "Pc"])).union
    (listed .v16 "Join_Control")

def isWord (c : Char) : Bool := wordCodes.contains c.toNat

end DevConsole.Unicode
