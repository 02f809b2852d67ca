import DevConsole.Proofs.Command.Effect
import DevConsole.Proofs.Store.Calls

/-!
# The footprint of commands

A `Facet` is a part of the machine, apart from the store, that some commands may change, and
`Facet.changers` is the table of these commands. An effect changes at most one facet (`same_apply`),
and only commands of the table have such an effect (`Does.mem_changers`).

`Builtin.Writes` is the table of what commands write to the store, keys and texts; the writes of
every effect are in it (`Does.writes`).
-/

namespace DevConsole

open Files Net Blackjack

variable {σ ν : Type} [Backend σ] {m : Machine σ ν} {call : Call} {c : Builtin} {e : Effect}

/-- A part of the machine that is not the store. -/
inductive Facet where
  | files
  | cwd
  | timers
  | alert
  /-- The round of blackjack in progress. -/
  | round
  | mode
  | look
  deriving DecidableEq, Repr

namespace Facet

/-- The two machines agree on the facet. -/
def Same (m m' : Machine σ ν) : Facet → Prop
  | .files => m'.volume = m.volume
  | .cwd => m'.session.cwd = m.session.cwd
  | .timers => m'.scheduler.timers = m.scheduler.timers
  | .alert => m'.scheduler.watch = m.scheduler.watch
  | .round => m'.session.blackjack = m.session.blackjack
  | .mode => m'.session.mode = m.session.mode
  | .look => m'.session.presentation = m.session.presentation

/-- The commands that may change a facet. -/
def changers : Facet → List Builtin
  | .files =>
    [.filing .mkdir, .filing .touch, .filing .rm, .filing .echo, .utility .exporting]
  | .cwd => [.filing .cd]
  | .timers => [.utility .timer]
  | .alert => [.market .alert]
  | .round => [.novelty .blackjack]
  | .mode => [.global .mode]
  | .look => [.global .fullscreen, .global .font, .global .color, .global .theme]

end Facet

namespace Effect

/-- The facet that an effect changes. -/
def facet? : Effect → Option Facet
  | .nothing | .notes _ | .tasks _ => none
  | .files _ => some .files
  | .move _ => some .cwd
  | .timers _ => some .timers
  | .watch _ => some .alert
  | .blackjack _ _ => some .round
  | .mode _ => some .mode
  | .fullscreen | .font _ | .color _ | .theme _ => some .look

/-- An effect leaves every other facet alone. -/
theorem same_apply (e : Effect) (m : Machine σ ν) {p : Facet} (h : e.facet? ≠ some p) :
    p.Same m (e.apply m) := by
  cases e <;> cases p <;> first | rfl | exact absurd rfl h

/-- What an effect writes, in order. -/
def writes (m : Machine σ ν) : Effect → List Write
  | .files t => if m.volume.attached then [.set Key.fs t.toDocument.render] else []
  | .notes entries => [.set Key.notes (Utility.encodeNotes entries).compact]
  | .tasks entries => [.set Key.tasks (Task.encodeList entries).compact]
  | .blackjack _ (some balance) => [.set Key.blackjackBalance (toString balance)]
  | .mode chosen => [.set Key.mode chosen.name]
  | .font f => [.set Key.font f.name]
  | .color c => [.set Key.color c.name]
  | .theme t => [.set Key.theme t.name, .remove Key.color]
  | .nothing | .move _ | .timers _ | .watch _ | .blackjack _ none | .fullscreen => []

theorem store_apply (e : Effect) (m : Machine σ ν) :
    (e.apply m).store = m.store.calls (e.writes m) := by
  cases e with
  | files t =>
    simp only [apply, writes, Volume.commit, Volume.save]
    split <;> rfl
  | blackjack round balance => cases balance <;> rfl
  | _ => rfl

end Effect

namespace Builtin

/-- What a command may write when it is called with `args`. -/
inductive Writes (args : List String) : Builtin → List Write → Prop
  | nothing {c : Builtin} : Writes args c []
  | files {c : Builtin} {text : String} : c ∈ Facet.files.changers →
      Writes args c [.set Key.fs text]
  | notes {text : String} : Writes args (.utility .note) [.set Key.notes text]
  | tasks {text : String} : Writes args (.utility .task) [.set Key.tasks text]
  | balance {text : String} : Writes args (.novelty .blackjack) [.set Key.blackjackBalance text]
  | mode {mode : Mode} : args.head?.bind Mode.ofName? = some mode →
      Writes args (.global .mode) [.set Key.mode mode.name]
  | font {font : Font} : args.head?.bind Font.ofName? = some font →
      Writes args (.global .font) [.set Key.font font.name]
  | color {color : TextColor} : args.head?.bind TextColor.ofName? = some color →
      Writes args (.global .color) [.set Key.color color.name]
  | theme {theme : Theme} : args.head?.bind Theme.ofName? = some theme →
      Writes args (.global .theme) [.set Key.theme theme.name, .remove Key.color]

/-- The names in the store that one command alone writes to. -/
def owners : List (String × Builtin) :=
  [(Key.notes, .utility .note), (Key.tasks, .utility .task),
   (Key.blackjackBalance, .novelty .blackjack), (Key.mode, .global .mode),
   (Key.font, .global .font), (Key.theme, .global .theme)]

omit [Backend σ] in
/-- A write under a name that one command owns is a write of this command. -/
theorem Writes.eq_owner {args : List String} {ws : List Write} {w : Write} {owner : Builtin}
    (h : c.Writes args ws) (hw : w ∈ ws) (hown : (w.key, owner) ∈ owners) : c = owner := by
  have single : ∀ {key text : String}, w ∈ [Write.set key text] → w.key = key :=
    fun hmem => congrArg Write.key (List.mem_singleton.mp hmem)
  -- the command of a write is the one that the table has for its name
  have lookup : ∀ (key : String) {c' : Builtin}, w.key = key →
      (∀ p ∈ owners, p.1 = key → c' = p.2) → c' = owner := fun _ _ hkey hall => hall _ hown hkey
  cases h with
  | nothing => cases hw
  | files =>
    have hfree : ∀ p ∈ owners, p.1 ≠ Key.fs := by decide
    exact absurd (single hw) (hfree _ hown)
  | theme =>
    simp only [List.mem_cons, List.not_mem_nil, or_false] at hw
    rcases hw with rfl | rfl
    · exact lookup Key.theme rfl (by decide)
    · exact lookup Key.color rfl (by decide)
  | _ => exact lookup _ (single hw) (by decide)

variable [Client ν]

/-- A facet is changed only by the commands of the table. -/
theorem Does.mem_changers (h : c.Does call m e) {p : Facet} (hp : e.facet? = some p) :
    c ∈ p.changers := by
  cases h <;> cases hp <;> decide

theorem head?_bind {α : Type} {args : List String} {f : String → Option α} {name : String}
    {rest : List String} {x : α} (hargs : args = name :: rest) (hx : f name = some x) :
    args.head?.bind f = some x := by
  rw [hargs]
  exact hx

/-- The mode that a command sets is the one it is given. -/
theorem Does.mode_given {mode : Mode} (h : c.Does call m (.mode mode)) :
    call.args.head?.bind Mode.ofName? = some mode := by
  cases h with
  | mode hargs hmode => exact head?_bind hargs hmode

/-- The writes of an effect are those of the table. -/
theorem Does.writes (h : c.Does call m e) : c.Writes call.args (e.writes m) := by
  have files : ∀ {c : Builtin} {t : Tree}, c ∈ Facet.files.changers →
      c.Writes call.args ((Effect.files t).writes m) := fun hc => by
    simp only [Effect.writes]
    split
    · exact .files hc
    · exact .nothing
  cases h with
  | mode hargs hmode => exact .mode (head?_bind hargs hmode)
  | font hfont => exact .font hfont
  | color hcolor => exact .color hcolor
  | theme hargs htheme => exact .theme (head?_bind hargs htheme)
  | addNote | clearNotes => exact .notes
  | addTask | finishTask | clearTasks => exact .tasks
  | exportList | mkdir | touch | rm | redirect => exact files (by decide)
  | deal | stand => exact .balance
  | _ => exact .nothing

end Builtin
end DevConsole
