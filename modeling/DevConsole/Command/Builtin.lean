import DevConsole.Command.Development
import DevConsole.Command.Filing
import DevConsole.Command.Global
import DevConsole.Command.Market
import DevConsole.Command.Network
import DevConsole.Command.Novelty
import DevConsole.Command.Utilities

/-!
# The built-in commands

`builtins` is the registry of all commands that there are: those of all modes, and a family for
every mode.
-/

namespace DevConsole

open Net

inductive Builtin where
  | global (c : Global)
  | development (c : Development)
  | market (c : Market)
  | networking (c : Networking)
  | utility (c : Utility)
  | filing (c : Filing)
  | novelty (c : Novelty)
  deriving DecidableEq, Repr

namespace Builtin

def info : Builtin → Info
  | .global c => c.info
  | .development c => c.info
  | .market c => c.info
  | .networking c => c.info
  | .utility c => c.info
  | .filing c => c.info
  | .novelty c => c.info

def run {σ ν : Type} [Backend σ] [Client ν] : Builtin → Call → Action σ ν Output
  | .global c => c.run
  | .development c => c.run
  | .market c => c.run
  | .networking c => c.run
  | .utility c => c.run
  | .filing c => c.run
  | .novelty c => c.run

/-- The commands of a mode. -/
def ofMode : Mode → List Builtin
  | .development => Development.all.map development
  | .marketData => Market.all.map market
  | .network => Networking.all.map networking
  | .utilities => Utility.all.map utility
  | .filesystem => Filing.all.map filing
  | .novelty => Novelty.all.map novelty

def registered (c : Builtin) : Registered Builtin := ⟨c.info, c⟩

end Builtin

/-- The registry of the built-in commands. -/
def builtins : Registry Builtin :=
  let globals : Registry Builtin :=
    Global.all.foldl (fun r c => r.registerGlobal (Builtin.global c).registered) {}
  Mode.all.foldl
    (fun r mode => (Builtin.ofMode mode).foldl (fun r c => r.register mode c.registered) r) globals

end DevConsole
