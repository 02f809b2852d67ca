import DevConsole.Text.Ascii
import DevConsole.Unicode.BreakRuns
import DevConsole.Unicode.Property

/-!
# Properties by name

The look-up of a set of characters by the name of a property, or by a property and one of its
values, as regular expressions write them. Names are compared without case, blanks, hyphens and
underscores, and may begin with `is`. A name alone is that of a binary property, a general category
or a script, in this order.
-/

namespace DevConsole.Unicode

/-! ## Names -/

/-- Leaves out what the comparison of names does not look at. -/
def plainName (cs : List Char) : List Char :=
  (cs.filter fun c => c != ' ' && c != '_' && c != '-' && decide (c.toNat < 128)).map Text.lowerChar

/-- A name as it is compared. Only at its very start does `is` not count; the name that would be
left with the one letter `c` keeps it. -/
def loose (name : String) : String :=
  match name.toList with
  | i :: s :: rest =>
    if Text.lowerChar i = 'i' ∧ Text.lowerChar s = 's' then
      let plain := plainName rest
      if plain = ['c'] then "isc" else String.ofList plain
    else String.ofList (plainName (i :: s :: rest))
  | cs => String.ofList (plainName cs)

/-- Pairs of an abbreviation and a long name. -/
def pairs : List String → List (String × String)
  | short :: long :: rest => (short, long) :: pairs rest
  | _ => []

/-- The pair of which one name is the one looked for. -/
def named? (names : List (String × String)) (plain : String) : Option (String × String) :=
  names.find? fun p =>
    String.ofList (plainName p.1.toList) = plain ∨ String.ofList (plainName p.2.toList) = plain

/-! ## General categories and scripts -/

/-- The names of the general categories, and the abbreviations that each stands for. -/
def categoryNames : List (List String × List String) :=
  [(["c", "other"], ["Cc", "Cf", "Co", "Cn"]),
   (["cc", "control", "cntrl"], ["Cc"]),
   (["cf", "format"], ["Cf"]),
   (["cn", "unassigned"], ["Cn"]),
   (["co", "privateuse"], ["Co"]),
   (["l", "letter"], ["Lu", "Ll", "Lt", "Lm", "Lo"]),
   (["lc", "casedletter"], ["Lu", "Ll", "Lt"]),
   (["ll", "lowercaseletter"], ["Ll"]),
   (["lm", "modifierletter"], ["Lm"]),
   (["lo", "otherletter"], ["Lo"]),
   (["lt", "titlecaseletter"], ["Lt"]),
   (["lu", "uppercaseletter"], ["Lu"]),
   (["m", "mark", "combiningmark"], ["Mn", "Mc", "Me"]),
   (["mc", "spacingmark"], ["Mc"]),
   (["me", "enclosingmark"], ["Me"]),
   (["mn", "nonspacingmark"], ["Mn"]),
   (["n", "number"], ["Nd", "Nl", "No"]),
   (["nd", "decimalnumber", "digit"], ["Nd"]),
   (["nl", "letternumber"], ["Nl"]),
   (["no", "othernumber"], ["No"]),
   (["p", "punctuation", "punct"], ["Pc", "Pd", "Ps", "Pe", "Pi", "Pf", "Po"]),
   (["pc", "connectorpunctuation"], ["Pc"]),
   (["pd", "dashpunctuation"], ["Pd"]),
   (["pe", "closepunctuation"], ["Pe"]),
   (["pf", "finalpunctuation"], ["Pf"]),
   (["pi", "initialpunctuation"], ["Pi"]),
   (["po", "otherpunctuation"], ["Po"]),
   (["ps", "openpunctuation"], ["Ps"]),
   (["s", "symbol"], ["Sm", "Sc", "Sk", "So"]),
   (["sc", "currencysymbol"], ["Sc"]),
   (["sk", "modifiersymbol"], ["Sk"]),
   (["sm", "mathsymbol"], ["Sm"]),
   (["so", "othersymbol"], ["So"]),
   (["z", "separator"], ["Zs", "Zl", "Zp"]),
   (["zl", "lineseparator"], ["Zl"]),
   (["zp", "paragraphseparator"], ["Zp"]),
   (["zs", "spaceseparator"], ["Zs"])]

/-- The characters of a general category, or of a group of them. -/
def categoryCodes? (e : Edition) (plain : String) : Option Ranges :=
  match plain with
  | "any" => some .everything
  | "assigned" => some (ofCategories e ["Cn"]).complement
  | "ascii" => some [(0, 127)]
  | _ => (categoryNames.find? (·.1.contains plain)).map fun entry => ofCategories e entry.2

/-- The scripts that only a later edition has. -/
def newScripts : List String := ["Berf", "Sidt", "Tayo", "Tols"]

/-- The abbreviation of the script of this name. -/
def scriptName? (e : Edition) (plain : String) : Option String :=
  match plain with
  | "qaac" => some "Copt"
  | "qaai" => some "Zinh"
  | _ =>
    ((named? (pairs (words scriptNames)) plain).map (·.1)).filter fun script =>
      e = .v17 || !newScripts.contains script

/-! ## Binary properties -/

/-- The properties that are made out of others. -/
def derivedNames : List (String × String) :=
  [("Alpha", "Alphabetic"), ("CI", "Case_Ignorable"), ("Cased", "Cased"),
   ("CWCM", "Changes_When_Casemapped"), ("DI", "Default_Ignorable_Code_Point"),
   ("Gr_Base", "Grapheme_Base"), ("Gr_Ext", "Grapheme_Extend"), ("IDC", "ID_Continue"),
   ("IDS", "ID_Start"), ("Lower", "Lowercase"), ("Math", "Math"), ("Upper", "Uppercase"),
   ("XIDC", "XID_Continue"), ("XIDS", "XID_Start"), ("Space", "White_Space")]

def derivedCodes (e : Edition) (name : String) : Ranges :=
  match name with
  | "Alphabetic" => alphabetic e
  | "Case_Ignorable" => caseIgnorable e
  | "Cased" => cased e
  | "Changes_When_Casemapped" => changesWhenMapped e
  | "Default_Ignorable_Code_Point" => defaultIgnorable e
  | "Grapheme_Base" => graphemeBase e
  | "Grapheme_Extend" => graphemeExtend e
  | "ID_Continue" => idContinue e
  | "ID_Start" => idStart e
  | "Lowercase" => lowercase e
  | "Math" => math e
  | "Uppercase" => uppercase e
  | "XID_Continue" => xidContinue e
  | "XID_Start" => xidStart e
  | _ => listed e name

/-- The characters of the binary property of this name. -/
def binaryCodes? (e : Edition) (plain : String) : Option Ranges :=
  match named? derivedNames plain with
  | some (_, name) => some (derivedCodes e name)
  | none =>
    (listedProperties.find? fun p => (named? [(p.short, p.name)] plain).isSome).map (·.codes e)

/-! ## Look-ups -/

/-- The set that a name alone stands for. -/
def codes? (e : Edition) (name : String) : Option Ranges :=
  let plain := loose name
  ((binaryCodes? e plain).or (categoryCodes? e plain)).or
    ((scriptName? e plain).map (ofScript e))

/-- The class of this name in a partition for breaks. -/
def breakCodes? (e : Edition) (names runs plain : String) : Option Ranges :=
  (named? (pairs (words names)) plain).map fun p =>
    (e.known (codesOf (labelled runs) (· == p.2))).diff [(0xD800, 0xDFFF)]

/-- The place of an edition in the list of ages: `3.2` goes by `V3_2` too. -/
def agePlace? (plain : String) : Option Nat :=
  (words ageNames).findIdx? fun name =>
    name = plain ∨ String.ofList ('v' :: name.toList.filter (· ≠ '.')) = plain

/-- The set that a property and one of its values stand for. An edition knows no later ones. -/
def codesOf? (e : Edition) (property value : String) : Option Ranges :=
  let plain := loose value
  match loose property with
  | "gc" | "generalcategory" => categoryCodes? e plain
  | "sc" | "script" => (scriptName? e plain).map (ofScript e)
  | "scx" | "scriptextensions" => (scriptName? e plain).map (ofScriptExtensions e)
  | "age" =>
    (agePlace? plain).bind fun place =>
      if e = .v16 ∧ (words ageNames).length ≤ place + 1 then none else some (ofAge place)
  | "gcb" | "graphemeclusterbreak" => breakCodes? e graphemeBreakNames graphemeBreakRuns plain
  | "wb" | "wordbreak" => breakCodes? e wordBreakNames wordBreakRuns plain
  | "sb" | "sentencebreak" => breakCodes? e sentenceBreakNames sentenceBreakRuns plain
  | _ => none

end DevConsole.Unicode
