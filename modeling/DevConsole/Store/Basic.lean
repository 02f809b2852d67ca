import DevConsole.Error
import DevConsole.Json.Reader
import DevConsole.Json.Printer

/-!
# The string store

Session state survives a restart in a store of texts under names. `Backend` is what keeps them, and
it may fail. `Store` is the handle that the program holds: a failed read finds nothing, a failed
write is passed over, and every write asked for is logged, failed ones included.
-/

namespace DevConsole

/-- Something that keeps texts under names. A failed write may change it all the same. -/
class Backend (σ : Type) where
  get : σ → String → Except Error (Option String)
  set : σ → String → String → Except Error Unit × σ
  remove : σ → String → Except Error Unit × σ

/-- A write asked of a store. -/
inductive Write where
  | set (key value : String)
  | remove (key : String)
  deriving DecidableEq, Repr

/-- The name that a write goes to. -/
def Write.key : Write → String
  | .set key _ => key
  | .remove key => key

/-- A backend, with the writes asked of it so far, in order. -/
structure Store (σ : Type) where
  backend : σ
  log : List Write := []

namespace Store

variable {σ : Type} [Backend σ]

/-- The text under a name; a failed read finds none. -/
def get? (s : Store σ) (key : String) : Option String :=
  match Backend.get s.backend key with
  | .ok found => found
  | .error _ => none

def set (s : Store σ) (key value : String) : Store σ :=
  ⟨(Backend.set s.backend key value).2, s.log ++ [.set key value]⟩

def remove (s : Store σ) (key : String) : Store σ :=
  ⟨(Backend.remove s.backend key).2, s.log ++ [.remove key]⟩

/-- The JSON value under a name, decoded; a malformed one counts as absent. -/
def getJson? {α : Type} (s : Store σ) (decode : String → Option α) (key : String) : Option α :=
  (s.get? key).bind decode

def setJson (s : Store σ) (key : String) (value : Json) : Store σ := s.set key value.compact

end Store

/-! ## The names in use -/

namespace Key

def fs : String := "fs"
def mode : String := "mode"
def font : String := "font"
def color : String := "color"
def theme : String := "theme"
def notes : String := "notes"
def tasks : String := "tasks"
def blackjackBalance : String := "blackjack-balance"

end Key

end DevConsole
