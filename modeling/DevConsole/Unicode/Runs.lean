import DevConsole.Text.Integer
import DevConsole.Text.Lines
import DevConsole.Unicode.Ranges

/-!
# Properties written as runs

A property of code points is written as the lengths of its runs. `Labelled` is a range of a
partition with its label; the numbers and labels are read from texts.
-/

namespace DevConsole.Unicode

/-- The words of a text, which stand between blanks. -/
def words (text : String) : List String := Text.splitOn ' ' text

/-- The decimal numbers of a text, which stand between blanks. -/
def numbers (text : String) : List Nat :=
  (words text).filterMap fun piece => Text.digitsValue? 10 Text.digit? piece.toList

/-- The integers of a text, which stand between blanks. -/
def integers (text : String) : List Int := (words text).filterMap Text.integer64?

/-- The set whose runs a text writes. -/
def Ranges.ofText (text : String) : Ranges := .ofRuns 0 (numbers text)

/-! ## Partitions -/

/-- A range and its label. -/
structure Labelled where
  label : String
  first : Nat
  last : Nat
  deriving Repr

/-- Cuts a text into labels and the numbers after them; `label` and `count` are those being read. -/
def labelledFrom (start : Nat) (label : List Char) (count : Nat) : List Char → List Labelled
  | [] => [⟨String.ofList label.reverse, start, start + count - 1⟩]
  | c :: cs =>
    match Text.digit? c with
    | some d => labelledFrom start label (count * 10 + d) cs
    | none =>
      if count = 0 then labelledFrom start (c :: label) 0 cs
      else
        ⟨String.ofList label.reverse, start, start + count - 1⟩ ::
          labelledFrom (start + count) [c] 0 cs

/-- The partition that a text of labels and numbers writes. -/
def labelled (text : String) : List Labelled := labelledFrom 0 [] 0 text.toList

/-- The code points whose label passes a test. -/
def codesOf (ls : List Labelled) (test : String → Bool) : Ranges :=
  Ranges.joined ((ls.filter fun l => test l.label).map fun l => (l.first, l.last))

end DevConsole.Unicode
