import DevConsole.Command.Builtin
import DevConsole.Proofs.Command.Outcome

/-!
# What commands do

An `Effect` is what a command does to the session, the timers and what is stored; what it draws from
the random source and asks of the network is left out. `Builtin.Does` says which effects a command
may have, and when, one constructor for every branch of its action that is not refused. That the
actions have these effects and no others is shown in `Proofs.Command.Handlers`.

`FromTree` says where an error of the file tree can come from.
-/

namespace DevConsole

open Files Net Blackjack

/-- What a command does, as the parts it gives new values. -/
inductive Effect where
  | nothing
  /-- Puts a changed tree in place and saves it. -/
  | files (tree : Tree)
  | move (target : Path)
  | notes (notes : List String)
  | tasks (tasks : List Task)
  | timers (timers : List Timer)
  | watch (watch : Option Watch)
  /-- Sets the round in progress, and the balance where one is given. -/
  | blackjack (round : Option Round) (balance : Option Nat)
  | mode (mode : Mode)
  | fullscreen
  | font (font : Font)
  | color (color : TextColor)
  | theme (theme : Theme)

namespace Effect

variable {σ ν : Type} [Backend σ]

/-- The machine after an effect. -/
def apply (e : Effect) (m : Machine σ ν) : Machine σ ν :=
  match e with
  | .nothing => m
  | .files t =>
    { m with volume := (m.volume.commit t m.store).1, store := (m.volume.commit t m.store).2 }
  | .move target => { m with session := { m.session with cwd := target } }
  | .notes entries => { m with store := m.store.setJson Key.notes (Utility.encodeNotes entries) }
  | .tasks entries => { m with store := m.store.setJson Key.tasks (Task.encodeList entries) }
  | .timers pending => { m with scheduler := { m.scheduler with timers := pending } }
  | .watch w => { m with scheduler := { m.scheduler with watch := w } }
  | .blackjack round balance =>
    { m with
      session := { m.session with blackjack := round }
      store := match balance with
        | none => m.store
        | some n => m.store.set Key.blackjackBalance (toString n) }
  | .mode chosen =>
    { m with
      session := { m.session with mode := chosen }
      store := m.store.set Key.mode chosen.name }
  | .fullscreen =>
    let look := m.session.presentation
    { m with session := { m.session with
        presentation := { look with fullscreen := !look.fullscreen } } }
  | .font f =>
    { m with
      session := { m.session with presentation := { m.session.presentation with font := f } }
      store := m.store.set Key.font f.name }
  | .color c =>
    { m with
      session := { m.session with
        presentation := { m.session.presentation with color := some c } }
      store := m.store.set Key.color c.name }
  | .theme t =>
    { m with
      session := { m.session with
        presentation := { m.session.presentation with theme := t, color := none } }
      store := (m.store.set Key.theme t.name).remove Key.color }

end Effect

namespace Builtin

/-- Whether a command never has an effect. -/
def isQuiet : Builtin → Bool
  | .global .mode | .global .fullscreen | .global .font | .global .color | .global .theme
  | .market .alert | .utility .note | .utility .task | .utility .timer | .utility .exporting
  | .filing .cd | .filing .mkdir | .filing .touch | .filing .echo | .filing .rm
  | .novelty .blackjack => false
  | _ => true

variable {σ ν : Type} [Backend σ] [Client ν]

/-- The effect that a command has when it is called on `m` and not refused. -/
inductive Does (call : Call) (m : Machine σ ν) : Builtin → Effect → Prop
  | quiet {c : Builtin} : c.isQuiet = true → Does call m c .nothing
  -- the commands of all modes
  | showMode : call.args = [] → Does call m (.global .mode) .nothing
  | mode {name : String} {rest : List String} {mode : Mode} :
      call.args = name :: rest → Mode.ofName? name = some mode →
      Does call m (.global .mode) (.mode mode)
  | fullscreen : Does call m (.global .fullscreen) .fullscreen
  | font {font : Font} : call.args.head?.bind Font.ofName? = some font →
      Does call m (.global .font) (.font font)
  | color {color : TextColor} : call.args.head?.bind TextColor.ofName? = some color →
      Does call m (.global .color) (.color color)
  | showTheme : call.args = [] → Does call m (.global .theme) .nothing
  | theme {name : String} {rest : List String} {theme : Theme} :
      call.args = name :: rest → Theme.ofName? name = some theme →
      Does call m (.global .theme) (.theme theme)
  -- the price alert
  | showAlert {watched : PriceAlert} : call.args = [] → m.scheduler.alert? = some watched →
      Does call m (.market .alert) .nothing
  | stopAlert : call.args = ["stop"] → Does call m (.market .alert) (.watch none)
  | noPrice {symbol target : String} {rest : List String} {e : Error} :
      call.args = symbol :: target :: rest →
      (m.network.price (Unicode.upper symbol)).1 = .error e →
      Does call m (.market .alert) .nothing
  | watch {symbol target : String} {rest : List String} {goal current : Float} {next : Instant} :
      call.args = symbol :: target :: rest → Market.readTarget? target = some goal →
      (m.network.price (Unicode.upper symbol)).1 = .ok current →
      Scheduler.pollAfter call.now (Instant.second * call.profile.alertInterval) = .ok next →
      Does call m (.market .alert) (.watch (some
        ⟨.new (Unicode.upper symbol) goal current,
          Instant.second * call.profile.alertInterval, next⟩))
  -- notes and tasks
  | addNote {word : String} {words : List String} : call.args = "add" :: word :: words →
      Does call m (.utility .note)
        (.notes (Utility.storedNotes m.store ++ [Text.joinWith " " (word :: words)]))
  | listNotes {rest : List String} : call.args = "list" :: rest →
      Does call m (.utility .note) .nothing
  | clearNotes {rest : List String} : call.args = "clear" :: rest →
      Does call m (.utility .note) (.notes [])
  | addTask {word : String} {words : List String} : call.args = "add" :: word :: words →
      Does call m (.utility .task)
        (.tasks (Utility.storedTasks m.store ++ [⟨Text.joinWith " " (word :: words), false⟩]))
  | finishTask {number : String} {rest : List String} {tasks : List Task} :
      call.args = "done" :: number :: rest →
      (Text.natural64? number).bind (Task.finish? (Utility.storedTasks m.store)) = some tasks →
      Does call m (.utility .task) (.tasks tasks)
  | listTasks {rest : List String} : call.args = "list" :: rest →
      Does call m (.utility .task) .nothing
  | clearTasks {rest : List String} : call.args = "clear" :: rest →
      Does call m (.utility .task) (.tasks [])
  -- timers
  | cancelTimers {rest : List String} : call.args = "cancel" :: rest →
      Does call m (.utility .timer) (.timers [])
  | setTimer {text : String} {rest : List String} {seconds : Nat} {due : Instant} :
      call.args = text :: rest → Text.natural64? text = some seconds →
      call.now.add? (Instant.second * seconds) = some due →
      Does call m (.utility .timer) (.timers (m.scheduler.timers ++ [⟨due, seconds⟩]))
  -- files
  | exportList {key file : String} {tree : Tree} :
      (key, file) ∈ [(Key.notes, "notes.json"), (Key.tasks, "tasks.json")] →
      m.volume.tree.change ⟨m.session.cwd, file, .writeFile ((m.store.get? key).getD "[]")⟩ =
        .ok tree →
      Does call m (.utility .exporting) (.files tree)
  | cd {target : Path} :
      m.volume.tree.changeDirectory m.session.cwd (call.args.headD call.profile.home.render) =
        .ok target →
      Does call m (.filing .cd) (.move target)
  | mkdir {name : String} {tree : Tree} : call.args.head? = some name →
      m.volume.tree.change ⟨m.session.cwd, name, .makeDirectory⟩ = .ok tree →
      Does call m (.filing .mkdir) (.files tree)
  | touch {name : String} {tree : Tree} : call.args.head? = some name →
      m.volume.tree.change ⟨m.session.cwd, name, .createFile⟩ = .ok tree →
      Does call m (.filing .touch) (.files tree)
  | rm {name : String} {tree : Tree} : call.args.head? = some name →
      m.volume.tree.change ⟨m.session.cwd, name, .remove⟩ = .ok tree →
      Does call m (.filing .rm) (.files tree)
  | plainEcho : Redirect.parse? call.rest = none → Does call m (.filing .echo) .nothing
  | redirect {r : Redirect} {tree : Tree} : Redirect.parse? call.rest = some r →
      m.volume.tree.change ⟨m.session.cwd, r.name, .writeFile r.content⟩ = .ok tree →
      Does call m (.filing .echo) (.files tree)
  -- blackjack
  | balance : call.args.head?.getD "balance" = "balance" →
      Does call m (.novelty .blackjack) .nothing
  | deal {bet : Nat} : (call.args.head?.bind Text.natural64?) = some bet → 0 < bet →
      m.session.blackjack = none → bet ≤ Novelty.loadBalance m.store →
      Does call m (.novelty .blackjack)
        (.blackjack (some (Round.deal bet m.random).1) (some (Novelty.loadBalance m.store - bet)))
  | hit {round round' : Round} {card : Card} : call.args.head? = some "hit" →
      m.session.blackjack = some round → round.hit = some (card, round') →
      Does call m (.novelty .blackjack)
        (.blackjack (if round'.isBust then none else some round') none)
  | stand {round : Round} {payout balance : Nat} : call.args.head? = some "stand" →
      m.session.blackjack = some round →
      round.playDealer.settle.payout round.bet = .ok payout →
      amount (Novelty.loadBalance m.store + payout) = .ok balance →
      Does call m (.novelty .blackjack) (.blackjack none (some balance))

/-- The command has one of its effects; besides, it may have drawn random numbers and asked the
network. -/
def Acts (c : Builtin) (call : Call) (m m' : Machine σ ν) : Prop :=
  ∃ e, c.Does call m e ∧ m' = { e.apply m with random := m'.random, network := m'.network }

end Builtin

/-- The path that `export` names is built after the file is written, from a name that the writing
has checked: it is always there. -/
theorem Utility.meets_exportList_iff {σ ν : Type} [Backend σ] {m : Machine σ ν}
    {A : Output → Machine σ ν → Prop} {R : Error → Machine σ ν → Prop} (key file label : String) :
    (exportList key file label).Meets m A R ↔
      (∀ tree,
        m.volume.tree.change ⟨m.session.cwd, file, .writeFile ((m.store.get? key).getD "[]")⟩ =
          .ok tree →
        A (.text (label ++ " exported to " ++
          (⟨m.session.cwd.segments ++ [file]⟩ : Path).render ++ "."))
          ((Effect.files tree).apply m)) ∧
      ∀ e,
        m.volume.tree.change ⟨m.session.cwd, file, .writeFile ((m.store.get? key).getD "[]")⟩ =
          .error e → R (.files e) m := by
  simp only [exportList, Action.meets_bind, Action.meets_get, Action.meets_writeFile,
    Action.meets_ofExcept, Action.meets_pure]
  refine and_congr_left' (forall₂_congr fun tree htree => ?_)
  have hjoin : ∀ p : Path, p.join file = .ok ⟨p.segments ++ [file]⟩ := fun p => by
    simp [Path.join, Path.checkName, Tree.validName_of_change htree, Except.map]
  simp only [hjoin, Except.mapError, Except.ok.injEq, forall_eq', reduceCtorEq, false_implies,
    implies_true, and_true]
  rfl

/-- Where an error of the file tree comes from: a change in the working directory, or a path that is
read off a text there. -/
inductive FromTree {σ ν : Type} (m : Machine σ ν) : FileError → Prop
  | change {name : String} {edit : Edit} {e : FileError} :
      m.volume.tree.change ⟨m.session.cwd, name, edit⟩ = .error e → FromTree m e
  | directory {p : Path} {e : FileError} :
      p = m.session.cwd ∨ (∃ text, p = Path.resolve text m.session.cwd) →
      m.volume.tree.directoryAt p = .error e → FromTree m e
  | content {text : String} {e : FileError} :
      m.volume.tree.read (Path.resolve text m.session.cwd) = .error e → FromTree m e

/-- A refusal changes nothing, and an error of the file tree comes from there. -/
def Declined {σ ν : Type} (m : Machine σ ν) (e : Error) (m' : Machine σ ν) : Prop :=
  m' = m ∧ ∀ f, e = .files f → FromTree m f

end DevConsole
