import DevConsole.Calendar
import DevConsole.Decimal.Reader
import DevConsole.Toml.Basic
import DevConsole.Toml.Text

/-!
# Numbers and dates in TOML

Digits may have single underscores between them. A decimal whole number starts with no zero unless
it is one, and must fit into 64 bits with sign. A date that has been started must be completed.
-/

namespace DevConsole.Toml

/-! ## Digits -/

/-- The digits that go on a number, without the underscores before them. -/
def moreDigits (isDigit : Char → Bool) : List Char → Read (List Char)
  | '_' :: c :: rest =>
    if isDigit c then (moreDigits isDigit rest).map fun (ds, r) => (c :: ds, r) else none
  | ['_'] => none
  | c :: rest =>
    if isDigit c then (moreDigits isDigit rest).map fun (ds, r) => (c :: ds, r)
    else some ([], c :: rest)
  | [] => some ([], [])

/-- Digits with single underscores between them, without the underscores. -/
def readDigits (isDigit : Char → Bool) : List Char → Read (List Char)
  | c :: rest =>
    if isDigit c then (moreDigits isDigit rest).map fun (ds, r) => (c :: ds, r) else none
  | [] => none

/-- An optional sign: whether it is a minus. -/
def readSign : List Char → Bool × List Char
  | '-' :: rest => (true, rest)
  | '+' :: rest => (false, rest)
  | cs => (false, cs)

/-- The digits of a decimal whole number. A leading zero stands alone. -/
def readWhole (cs : List Char) : Read (List Char) :=
  match cs with
  | '0' :: rest => some (['0'], rest)
  | _ => readDigits Text.isDigit cs

/-! ## Whole numbers -/

/-- A number in another base, after the zero and the letter that announce it. -/
def readBase (base : Nat) (isDigit : Char → Bool) (cs : List Char) : Read Value :=
  (readDigits isDigit cs).bind fun (ds, r) =>
    (Text.digitsValue? base Text.hexDigit? ds).bind fun n =>
      if n ≤ Text.maxInteger64 then some (.integer n, r) else none

def readInteger (cs : List Char) : Read Value :=
  match cs with
  | '0' :: 'x' :: rest => readBase 16 (fun c => (Text.hexDigit? c).isSome) rest
  | '0' :: 'o' :: rest => readBase 8 (fun c => '0' ≤ c && c ≤ '7') rest
  | '0' :: 'b' :: rest => readBase 2 (fun c => c == '0' || c == '1') rest
  | _ =>
    let (negative, unsigned) := readSign cs
    (readWhole unsigned).bind fun (ds, r) =>
      (Text.digitsValue? 10 Text.digit? ds).bind fun (n : Nat) =>
        let limit := if negative then Text.maxInteger64 + 1 else Text.maxInteger64
        if n ≤ limit then some (.integer (if negative then -(n : Int) else n), r) else none

/-! ## Floats -/

/-- An exponent as it is written, empty where there is none. -/
def readExponent : List Char → Read (List Char)
  | c :: rest =>
    if c = 'e' ∨ c = 'E' then
      let (negative, digits) := readSign rest
      (readDigits Text.isDigit digits).map fun (ds, r) =>
        ('e' :: ((if negative then ['-'] else []) ++ ds), r)
    else some ([], c :: rest)
  | [] => some ([], [])

def readFraction : List Char → Read (List Char)
  | '.' :: rest => (readDigits Text.isDigit rest).map fun (ds, r) => ('.' :: ds, r)
  | cs => some ([], cs)

/-- A number with a fraction or an exponent, or one of the words for no number and infinity. -/
def readFloat (cs : List Char) : Option (Value × List Char) :=
  let (negative, unsigned) := readSign cs
  let sign := if negative then ['-'] else []
  let word := unsigned.take 3
  if word = "inf".toList ∨ word = "nan".toList then
    (Decimal.read? (String.ofList (sign ++ word))).map fun x => (.float x, unsigned.drop 3)
  else do
    let (whole, r) ← readWhole unsigned
    let (fraction, r) ← readFraction r
    let (exponent, r) ← readExponent r
    if fraction.isEmpty && exponent.isEmpty then none
    let x ← Decimal.read? (String.ofList (sign ++ whole ++ fraction ++ exponent))
    if x.isInf && !negative then none
    return (.float x, r)

/-! ## Dates and times -/

/-- A number of exactly `count` digits, from `least` to `greatest`. -/
def readField (count least greatest : Nat) (cs : List Char) : Read Nat :=
  let ds := cs.take count
  if ds.length < count then none
  else
    (Text.digitsValue? 10 Text.digit? ds).bind fun n =>
      if least ≤ n ∧ n ≤ greatest then some (n, cs.drop count) else none

/-- The text after a given character. -/
def readChar (c : Char) : List Char → Option (List Char)
  | d :: rest => if d = c then some rest else none
  | [] => none

/-- The text after the digits of a fraction of a second, where there is one. -/
def skipFraction : List Char → List Char
  | '.' :: rest =>
    if (rest.takeWhile Text.isDigit).isEmpty then '.' :: rest else rest.dropWhile Text.isDigit
  | cs => cs

/-- What reading a date or a time comes to. -/
inductive Dated where
  | absent
  | broken
  | read (rest : List Char)

/-- A time of day. After the hour and its colon the rest must follow. -/
def readTime (cs : List Char) : Dated :=
  match (readField 2 0 23 cs).bind fun (_, r) => readChar ':' r with
  | none => .absent
  | some r =>
    let seconds := (readField 2 0 59 r).bind fun (_, r) => (readChar ':' r).bind (readField 2 0 60)
    match seconds with
    | some (_, r) => .read (skipFraction r)
    | none => .broken

/-- An optional distance from the time of the prime meridian. -/
def readOffset : List Char → Dated
  | 'Z' :: rest => .read rest
  | 'z' :: rest => .read rest
  | c :: rest =>
    if c = '+' ∨ c = '-' then
      let minutes := (readField 2 0 23 rest).bind fun (_, r) =>
        (readChar ':' r).bind (readField 2 0 59)
      match minutes with
      | some (_, r) => .read r
      | none => .broken
    else .read (c :: rest)
  | [] => .read []

/-- The optional time of day after a date. -/
def readTimeAfterDate : List Char → Dated
  | c :: rest =>
    if c = 'T' ∨ c = 't' ∨ c = ' ' then
      match readTime rest with
      | .absent => .read (c :: rest)
      | .broken => .broken
      | .read r => readOffset r
    else .read (c :: rest)
  | [] => .read []

/-- A date with an optional time, or a time alone. -/
def readMoment (cs : List Char) : Dated :=
  match (readField 4 0 9999 cs).bind fun (year, r) => (readChar '-' r).map fun r => (year, r) with
  | none => readTime cs
  | some (year, r) =>
    let day := (readField 2 1 12 r).bind fun (month, r) => (readChar '-' r).bind fun r =>
      readField 2 1 ((Calendar.monthLengths year).getD (month - 1) 31) r
    match day with
    | some (_, r) => readTimeAfterDate r
    | none => .broken

/-- A date, a float or a whole number. -/
def readNumber (cs : List Char) : Read Value :=
  match readMoment cs with
  | .read r => some (.moment, r)
  | .broken => none
  | .absent => (readFloat cs).or (readInteger cs)

end DevConsole.Toml
