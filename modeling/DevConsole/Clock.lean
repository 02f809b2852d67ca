import DevConsole.Error

/-!
# The wall clock

What a clock shows at one moment. A broken clock cannot be read.
-/

namespace DevConsole

structure Clock where
  /-- Seconds since the start of 1970. -/
  unix : Nat := 0
  /-- Seconds since the session started. -/
  uptime : Nat := 0
  broken : Bool := false
  deriving DecidableEq, Repr

namespace Clock

/-- Why a broken clock shows nothing. -/
def fault : Error := .store "clock stopped"

def read (c : Clock) : Except Error Clock := if c.broken then .error fault else .ok c

end Clock

end DevConsole
