/-!
# Places in octets

A character takes one to four octets of a text. A place in a text can be given by the octets before
it; not every such place lies between two characters.
-/

namespace DevConsole.Text

/-- The characters that make up the first `count` octets, and those behind them. There are none if
the text has fewer octets, or if the place lies within a character. -/
def cutAtOctet? : Nat → List Char → Option (List Char × List Char)
  | 0, cs => some ([], cs)
  | _ + 1, [] => none
  | count + 1, c :: cs =>
    if c.utf8Size ≤ count + 1 then
      (cutAtOctet? (count + 1 - c.utf8Size) cs).map fun cut => (c :: cut.1, cut.2)
    else none

/-- The characters that make up `count` octets from the place `start` on. -/
def octetsAt? (start count : Nat) (cs : List Char) : Option (List Char) :=
  (cutAtOctet? start cs).bind fun cut => (cutAtOctet? count cut.2).map Prod.fst

end DevConsole.Text
