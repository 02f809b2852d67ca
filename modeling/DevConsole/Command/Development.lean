import DevConsole.Calculator
import DevConsole.Command.Action
import DevConsole.Regex.Match
import DevConsole.Regex.Reader
import DevConsole.Text.Base64
import DevConsole.Text.Digest

/-!
# Commands of the development mode

Sums, currencies, JSON, identifiers, digests, Base64, regular expressions and a rotation cipher.
None of them changes anything but the random source, and only two ask the network or draw from that
source.
-/

namespace DevConsole

open Net

inductive Development where
  | calc
  | convert
  | json
  | uuid
  | hash
  | encode
  | decode
  | regex
  | encrypt
  | decrypt
  deriving DecidableEq, Repr

namespace Development

def all : List Development :=
  [.calc, .convert, .json, .uuid, .hash, .encode, .decode, .regex, .encrypt, .decrypt]

def info : Development → Info
  | .calc => ⟨"calc", "Calculate math expression (e.g., calc 2+2)", "calc <expression>"⟩
  | .convert =>
    ⟨"convert", "Convert currency (e.g., convert 100 USD EUR)", "convert <amount> <from> <to>"⟩
  | .json => ⟨"json", "Format JSON string", "json [format] <text>"⟩
  | .uuid => ⟨"uuid", "Generate UUID", "uuid"⟩
  | .hash => ⟨"hash", "Simulate SHA-256 hash", "hash <text>"⟩
  | .encode => ⟨"encode", "Base64 encode", "encode <text>"⟩
  | .decode => ⟨"decode", "Base64 decode", "decode <base64>"⟩
  | .regex => ⟨"regex", "Test regex (e.g., regex pattern string)", "regex <pattern> <string>"⟩
  | .encrypt => ⟨"encrypt", "Encrypt text (Caesar cipher)", "encrypt <text>"⟩
  | .decrypt => ⟨"decrypt", "Decrypt text (Caesar cipher)", "decrypt <text>"⟩

/-- The words of a call with single blanks between them. -/
def sentence (args : List String) : String := Text.joinWith " " args

/-! ## Values -/

/-- A character that may stand in an expression. -/
def inExpression (c : Char) : Bool :=
  Text.isDigit c || Text.isBlank c || ['+', '-', '*', '/', '(', ')', '.'].contains c

/-- The value of an expression as it is shown. -/
def calculate (args : List String) : Except Error String :=
  let text := args.flatMap String.toList
  if !text.all inExpression then .error (.usage "Error: Invalid characters in expression")
  else
    match Calculator.evaluate? Calculator.floats text with
    | some v => .ok (Decimal.plain v)
    | none => .error (.usage "Error: Invalid expression")

/-- The JSON value that the words spell, on indented lines. -/
def formatJson (args : List String) : Except Error String :=
  let words := match args with
    | "format" :: rest => rest
    | _ => args
  match Json.read (sentence words) with
  | some v => .ok v.canonical.pretty
  | none => .error (.usage "Error: Invalid JSON string")

/-- Whether the pattern, the first word, matches in the others. -/
def testPattern (args : List String) : Except Error String :=
  match args with
  | pattern :: word :: words =>
    match Regex.parse pattern with
    | some r =>
      .ok ("Match: " ++ if r.matchesIn (sentence (word :: words)) then "true" else "false")
    | none => .error (.usage "Invalid Regex")
  | _ => .error (.usage "Usage: regex <pattern> <string>")

def decodeBase64 (args : List String) : Except Error String :=
  match Base64.decode? (sentence args) with
  | some s => .ok s
  | none => .error (.usage "Error: Invalid Base64 string")

/-- Marks sixteen octets as a random identifier of the common layout. -/
def markIdentifier (octets : List Nat) : List Nat :=
  (octets.modify 6 fun b => b % 16 + 0x40).modify 8 fun b => b % 64 + 0x80

/-- The groups of digits that an identifier is written in. -/
def identifierText (octets : List Nat) : String :=
  let digits := (markIdentifier octets).flatMap fun b => (Text.hexPadded 2 b).toList
  let piece := fun (start count : Nat) => String.ofList ((digits.drop start).take count)
  Text.joinWith "-" [piece 0 8, piece 8 4, piece 12 4, piece 16 4, piece 20 12]

/-- An octet, from the upper end of a draw. -/
def drawOctet (r : Random) : Nat × Random :=
  let (v, r) := r.next32
  (v.toNat / 0x1000000, r)

/-- How far the cipher turns letters on. -/
def cipherPlaces : Nat := 3

/-! ## Actions -/

variable {σ ν : Type} [Client ν]

def convertUsage : String := "Usage: convert <amount> <from> <to> (e.g., convert 100 USD EUR)"

/-- What a conversion shows, given the answer about the rate. -/
def convertLines (amount : Float) (source target : String) (rate : Except Error Float) :
    List Line :=
  let shown := Decimal.plain amount
  [.system ("Converting " ++ shown ++ " " ++ source ++ " to " ++ target ++ "..."),
   match rate with
   | .ok rate =>
     .plain (shown ++ " " ++ Unicode.upper source ++ " = " ++ Decimal.fixed 2 (amount * rate) ++
       " " ++ Unicode.upper target ++ " (Rate: " ++ Decimal.plain rate ++ ")")
   | .error _ => .error "Error: Could not fetch exchange rate."]

def runConvert (args : List String) : Action σ ν Output := do
  match args with
  | amount :: source :: target :: _ =>
    let amount ← Action.required (Decimal.read? amount) convertUsage
    let rate ← Action.onNetwork (·.rate source target)
    return .lines (convertLines amount source target rate)
  | _ => Action.refuseUsage convertUsage

def run (c : Development) (call : Call) : Action σ ν Output :=
  match c with
  | .calc => Output.text <$> Action.ofExcept (calculate call.args)
  | .convert => runConvert call.args
  | .json => Output.text <$> Action.ofExcept (formatJson call.args)
  | .uuid => do
    let octets ← Action.onRandom (Random.times drawOctet 16)
    return .text (identifierText octets)
  | .hash => return .text (Text.digest (sentence call.args))
  | .encode => return .text (Base64.encode (sentence call.args))
  | .decode => Output.text <$> Action.ofExcept (decodeBase64 call.args)
  | .regex => Output.text <$> Action.ofExcept (testPattern call.args)
  | .encrypt => return .text (Text.rotate cipherPlaces (sentence call.args))
  | .decrypt => return .text (Text.rotate (26 - cipherPlaces) (sentence call.args))

end Development

end DevConsole
