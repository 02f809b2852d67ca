import DevConsole.Proofs.Command.Effect
import DevConsole.Proofs.Command.Statistics

/-!
# The actions of the commands

Every command that is not refused has one of the effects that `Builtin.Does` lists, and a refusal
leaves the machine as it was: this is what `Builtin.Performs` says of the action of a command
(`Builtin.meets_run`). There is one lemma for every command with an effect. The actions of the
others draw random numbers and ask the network at most (`Action.AsksOnly`); they are taken together,
family by family.
-/

namespace DevConsole

open Files Net Blackjack

variable {σ ν : Type} {call : Call} {m m' : Machine σ ν}

/-- A refusal with an error that is none of the file tree. -/
theorem declined_of_ne {e : Error} (h : ∀ f, e ≠ .files f) : Declined m e m :=
  ⟨rfl, fun f he => absurd he (h f)⟩

theorem declined_usage (text : String) : Declined m (.usage text) m :=
  declined_of_ne fun _ h => by cases h

theorem declined_files {f : FileError} (h : FromTree m f) : Declined m (.files f) m :=
  ⟨rfl, fun _ he => by cases he; exact h⟩

theorem declined_change {name : String} (edit : Edit) {e : FileError}
    (h : m.volume.tree.change ⟨m.session.cwd, name, edit⟩ = .error e) :
    Declined m (.files e) m :=
  declined_files (.change h)

theorem error_of_map {ε α β : Type} {f : α → β} {r : Except ε α} {e : ε}
    (h : r.map f = .error e) : r = .error e := by
  cases r with
  | error e' => cases h; rfl
  | ok x => cases h

/-- Numbers may have been drawn and the network asked, nothing else has changed. -/
def Asks (m m' : Machine σ ν) : Prop :=
  m' = { m with random := m'.random, network := m'.network }

theorem asks_random (random : Random) : Asks m { m with random } := rfl

theorem asks_network (network : Network ν) : Asks m { m with network } := rfl

theorem Asks.trans {m'' : Machine σ ν} (h : Asks m m') (h' : Asks m' m'') : Asks m m'' := by
  rw [Asks] at h h' ⊢
  rw [h', h]

/-- The action does no more than ask. -/
abbrev Action.AsksOnly {α : Type} (a : Action σ ν α) (m : Machine σ ν) : Prop :=
  a.Meets m (fun _ m' => Asks m m') (Declined m)

/-- The action is one the command may take when it is called on `m`. -/
abbrev Builtin.Performs [Backend σ] [Client ν] (c : Builtin) (call : Call) (m : Machine σ ν)
    (a : Action σ ν Output) : Prop :=
  a.Meets m (fun _ m' => c.Acts call m m') (Declined m)

/-- The errors of the computation are texts for the user. -/
def FailsAsUsage {α : Type} (r : Except Error α) : Prop :=
  ∀ e, r = .error e → ∃ text, e = .usage text

theorem FailsAsUsage.meets {α : Type} {r : Except Error α} {f : α → Output} (h : FailsAsUsage r) :
    (f <$> Action.ofExcept r : Action σ ν Output).AsksOnly m := by
  refine (Action.meets_map f _).mpr ((Action.meets_ofExcept r).mpr ⟨fun _ _ => rfl, fun e he => ?_⟩)
  obtain ⟨text, rfl⟩ := h e he
  exact declined_usage text

namespace Builtin

variable [Backend σ] [Client ν]

theorem Does.acts {c : Builtin} {e : Effect} (h : c.Does call m e) : c.Acts call m (e.apply m) :=
  ⟨e, h, rfl⟩

theorem acts_of_isQuiet {c : Builtin} (hc : c.isQuiet = true) (h : Asks m m') : c.Acts call m m' :=
  ⟨.nothing, .quiet hc, h⟩

end Builtin

/-- A quiet command may ask. -/
theorem Action.Meets.acts [Backend σ] [Client ν] {c : Builtin} {a : Action σ ν Output}
    (h : a.AsksOnly m) (hc : c.isQuiet = true) : c.Performs call m a :=
  h.mono (fun _ _ h => Builtin.acts_of_isQuiet hc h) fun _ _ h => h

/-! ## The commands of all modes -/

namespace Global

theorem meets_readClock (clock : Clock) : (Action.ofExcept clock.read).AsksOnly m := by
  refine (Action.meets_ofExcept _).mpr ⟨fun _ _ => rfl, fun e h => ?_⟩
  unfold Clock.read at h
  split at h <;> cases h
  exact declined_of_ne fun _ h => by cases h

theorem meets_readMoment [Backend σ] (clock : Clock) : (readMoment clock).AsksOnly m := by
  refine (Action.meets_bind ..).mpr
    ((meets_readClock clock).mono (fun _ _ h => ?_) fun _ _ h => h)
  exact (Action.meets_ofAbort _).mpr fun _ _ => h

variable [Backend σ] [Client ν]

theorem meets_runMode : (Builtin.global .mode).Performs call m (runMode call.args) := by
  simp only [runMode, Action.meets_bind, Action.meets_get]
  split
  · rename_i hargs
    exact (Builtin.Does.showMode hargs).acts
  · rename_i name rest hargs
    simp only [Action.meets_bind, Action.meets_ofExcept, Action.meets_set, Action.meets_pure]
    unfold Mode.parse
    constructor
    · intro mode h
      split at h <;> cases h
      rename_i hmode
      exact (Builtin.Does.mode hargs hmode).acts
    · intro e h
      split at h <;> cases h
      exact declined_of_ne fun _ h => by cases h

theorem meets_runFullscreen : (Builtin.global .fullscreen).Performs call m runFullscreen := by
  simp only [runFullscreen, onPresentation, Action.meets_bind, Action.meets_onSession,
    Action.meets_get, Action.meets_pure]
  exact Builtin.Does.fullscreen.acts

theorem meets_runFont : (Builtin.global .font).Performs call m (runFont call.args) := by
  simp only [runFont, onPresentation, Action.meets_bind, Action.meets_required,
    Action.meets_onSession, Action.meets_onStore, Action.meets_pure]
  exact ⟨fun font h => (Builtin.Does.font h).acts, fun _ => declined_usage _⟩

theorem meets_runColor : (Builtin.global .color).Performs call m (runColor call.args) := by
  simp only [runColor, onPresentation, Action.meets_bind, Action.meets_required,
    Action.meets_onSession, Action.meets_onStore, Action.meets_pure]
  exact ⟨fun color h => (Builtin.Does.color h).acts, fun _ => declined_usage _⟩

theorem meets_runTheme : (Builtin.global .theme).Performs call m (runTheme call.args) := by
  unfold runTheme
  split
  · rename_i hargs
    simp only [Action.meets_bind, Action.meets_get, Action.meets_pure]
    exact (Builtin.Does.showTheme hargs).acts
  · rename_i name rest hargs
    simp only [onPresentation, Action.meets_bind, Action.meets_required, Action.meets_onSession,
      Action.meets_onStore, Action.meets_pure]
    exact ⟨fun theme h => (Builtin.Does.theme hargs h).acts, fun _ => declined_usage _⟩

theorem meets_run (c : Global) : (Builtin.global c).Performs call m (c.run call) := by
  match c with
  | .mode => exact meets_runMode
  | .fullscreen => exact meets_runFullscreen
  | .font => exact meets_runFont
  | .color => exact meets_runColor
  | .theme => exact meets_runTheme
  | .help | .clear | .about | .exit => exact Builtin.acts_of_isQuiet rfl rfl
  | .date | .time =>
    exact ((Action.meets_bind ..).mpr (meets_readMoment call.clock)).acts rfl
  | .neofetch => exact ((Action.meets_bind ..).mpr (meets_readClock call.clock)).acts rfl

end Global

/-! ## Development -/

namespace Development

theorem calculate_fails (args : List String) : FailsAsUsage (calculate args) := by
  intro e h
  unfold calculate at h
  grind

theorem formatJson_fails (args : List String) : FailsAsUsage (formatJson args) := by
  intro e h
  unfold formatJson at h
  grind

theorem testPattern_fails (args : List String) : FailsAsUsage (testPattern args) := by
  intro e h
  unfold testPattern at h
  grind

theorem decodeBase64_fails (args : List String) : FailsAsUsage (decodeBase64 args) := by
  intro e h
  unfold decodeBase64 at h
  grind

variable [Client ν]

theorem meets_runConvert (args : List String) : (runConvert args).AsksOnly m := by
  unfold runConvert
  split
  · simp only [Action.meets_bind, Action.meets_required, Action.meets_onNetwork,
      Action.meets_pure]
    exact ⟨fun _ _ => rfl, fun _ => declined_usage _⟩
  · exact declined_usage _

theorem meets_run_asks (c : Development) : (c.run call).AsksOnly m := by
  match c with
  | .calc => exact (calculate_fails _).meets
  | .json => exact (formatJson_fails _).meets
  | .regex => exact (testPattern_fails _).meets
  | .decode => exact (decodeBase64_fails _).meets
  | .convert => exact meets_runConvert _
  | .uuid | .hash | .encode | .encrypt | .decrypt => exact rfl

theorem meets_run [Backend σ] (c : Development) :
    (Builtin.development c).Performs call m (c.run call) :=
  (meets_run_asks c).acts rfl

end Development

/-! ## Market -/

namespace Market

theorem returnOn_fails (args : List String) : FailsAsUsage (returnOn args) := by
  intro e h
  unfold returnOn at h
  grind

variable [Client ν]

theorem meets_runPrice (args : List String) : (runPrice args).AsksOnly m := rfl

theorem meets_runSimulate : (runSimulate : Action σ ν Output).AsksOnly m := by
  simp only [runSimulate, Action.meets_bind, Action.meets_price]
  split <;> rfl

theorem meets_runSpread (args : List String) : (runSpread args).AsksOnly m := by
  simp only [runSpread, Action.meets_bind, Action.meets_price]
  split <;> rfl

theorem meets_valueOf {R : Error → Machine σ ν → Prop} (symbol : String) (amount : Float) :
    (valueOf symbol amount).Meets m (fun _ m' => Asks m m') R := by
  simp only [valueOf, Action.meets_bind, Action.meets_price]
  split <;> rfl

theorem meets_runPortfolio : (runPortfolio : Action σ ν Output).AsksOnly m := by
  refine (Action.meets_bind ..).mpr (Action.meets_mapM (I := Asks m) (fun holding _ hm => ?_) _ rfl)
  exact (meets_valueOf holding.1 holding.2).mono (fun _ _ h => hm.trans h) fun _ _ h => h

theorem meets_runAlert [Backend σ] : (Builtin.market .alert).Performs call m (runAlert call) := by
  unfold runAlert
  split
  · rename_i hargs
    simp only [Action.meets_bind, Action.meets_get]
    split
    · rename_i hwatch
      exact (Builtin.Does.showAlert hargs hwatch).acts
    · exact declined_usage _
  · rename_i hargs
    simp only [Action.meets_bind, Action.meets_onScheduler]
    split <;> exact (Builtin.Does.stopAlert hargs).acts
  · exact declined_usage _
  · rename_i symbol target rest _ hargs
    simp only [Action.meets_bind, Action.meets_required]
    refine ⟨fun goal hgoal => ?_, fun _ => declined_usage _⟩
    simp only [setAlert, Action.meets_bind, Action.meets_price]
    split
    · rename_i hprice
      exact ⟨.nothing, .noPrice hargs hprice, rfl⟩
    · rename_i current hprice
      simp only [Action.meets_bind, Action.meets_get, Action.meets_ofAbort, Action.meets_set,
        Action.meets_pure]
      intro scheduler hstart
      unfold Scheduler.startWatch at hstart
      cases hnext : Scheduler.pollAfter call.now (Instant.second * call.profile.alertInterval) with
      | error a => rw [hnext] at hstart; cases hstart
      | ok next =>
        rw [hnext] at hstart
        cases hstart
        exact ⟨_, .watch hargs hgoal hprice hnext, rfl⟩

theorem meets_run [Backend σ] (c : Market) : (Builtin.market c).Performs call m (c.run call) := by
  match c with
  | .alert => exact meets_runAlert
  | .price => exact (meets_runPrice _).acts rfl
  | .roi =>
    have h : (Market.roi.run call).AsksOnly m :=
      (returnOn_fails call.args).meets
    exact h.acts rfl
  | .simulate => exact meets_runSimulate.acts rfl
  | .funding => exact Builtin.acts_of_isQuiet rfl rfl
  | .spread => exact (meets_runSpread _).acts rfl
  | .portfolio => exact meets_runPortfolio.acts rfl

end Market

/-! ## Networking -/

namespace Networking

variable [Client ν]

theorem meets_runPing (args : List String) : (runPing args).AsksOnly m := by
  simp only [runPing, Action.meets_bind]
  refine Action.meets_mapM (I := Asks m) (fun _ _ hm => ?_) _ rfl
  exact (Action.meets_onNetwork _).mpr (Asks.trans hm rfl)

theorem meets_runWhois (args : List String) : (runWhois args).AsksOnly m := by
  simp only [runWhois, Action.meets_bind, Action.meets_required]
  exact ⟨fun _ _ => rfl, fun _ => declined_usage _⟩

theorem meets_runCurl (args : List String) : (runCurl args).AsksOnly m := by
  simp only [runCurl, Action.meets_bind, Action.meets_required]
  exact ⟨fun _ _ => rfl, fun _ => declined_usage _⟩

theorem meets_run [Backend σ] (c : Networking) :
    (Builtin.networking c).Performs call m (c.run call) := by
  match c with
  | .ping => exact (meets_runPing _).acts rfl
  | .whois => exact (meets_runWhois _).acts rfl
  | .curl => exact (meets_runCurl _).acts rfl
  | .trace | .scan | .check => exact Builtin.acts_of_isQuiet rfl rfl

end Networking

/-! ## Utilities -/

namespace Utility

theorem meets_runPassword (args : List String) : (runPassword args).AsksOnly m := by
  unfold runPassword
  dsimp only
  split
  · exact declined_usage _
  · rfl

theorem meets_runRandom (args : List String) : (runRandom args).AsksOnly m := by
  unfold runRandom
  dsimp only
  split
  · exact declined_usage _
  · rfl

variable [Backend σ] [Client ν]

theorem meets_runNote : (Builtin.utility .note).Performs call m (runNote call.args) := by
  simp only [runNote, Action.meets_bind, Action.meets_get]
  split
  · rename_i hargs
    exact (Builtin.Does.addNote hargs).acts
  · rename_i hargs
    exact (Builtin.Does.listNotes hargs).acts
  · rename_i hargs
    exact (Builtin.Does.clearNotes hargs).acts
  · exact declined_usage _

theorem meets_runTask : (Builtin.utility .task).Performs call m (runTask call.args) := by
  simp only [runTask, Action.meets_bind, Action.meets_get]
  split
  · rename_i hargs
    exact (Builtin.Does.addTask hargs).acts
  · rename_i hargs
    simp only [Action.meets_bind, Action.meets_required]
    exact ⟨fun tasks h => (Builtin.Does.finishTask hargs h).acts, fun _ => declined_usage _⟩
  · rename_i hargs
    exact (Builtin.Does.listTasks hargs).acts
  · rename_i hargs
    exact (Builtin.Does.clearTasks hargs).acts
  · exact declined_usage _

theorem meets_runTimer :
    (Builtin.utility .timer).Performs call m (runTimer call.args call.now) := by
  unfold runTimer
  split
  · exact declined_usage _
  · rename_i hargs
    exact (Builtin.Does.cancelTimers hargs).acts
  · rename_i text rest _ hargs
    simp only [setTimer, Action.meets_bind, Action.meets_required, Action.meets_get,
      Action.meets_set, Action.meets_pure]
    refine ⟨fun seconds hseconds => ⟨fun scheduler h => ?_, fun _ => declined_usage _⟩,
      fun _ => declined_usage _⟩
    obtain ⟨due, hdue, rfl⟩ := Option.map_eq_some_iff.mp h
    exact (Builtin.Does.setTimer hargs hseconds hdue).acts

theorem meets_exportList {key file label : String}
    (h : (key, file) ∈ [(Key.notes, "notes.json"), (Key.tasks, "tasks.json")]) :
    (Builtin.utility .exporting).Performs call m (exportList key file label) := by
  rw [Builtin.Performs, meets_exportList_iff]
  exact ⟨fun tree htree => (Builtin.Does.exportList h htree).acts,
    fun e he => declined_change (.writeFile _) he⟩

theorem meets_runExport : (Builtin.utility .exporting).Performs call m (runExport call.args) := by
  unfold runExport
  split
  · exact meets_exportList (.head _)
  · exact meets_exportList (.tail _ (.head _))
  · exact declined_usage _

omit [Backend σ] [Client ν] in
theorem meets_runStats : (runStats : Action σ ν Output).AsksOnly m := by
  obtain ⟨text, hrun⟩ := exists_runStats m
  rw [Action.AsksOnly, Action.Meets, hrun]
  exact rfl

theorem meets_run (c : Utility) : (Builtin.utility c).Performs call m (c.run call) := by
  match c with
  | .note => exact meets_runNote
  | .task => exact meets_runTask
  | .timer => exact meets_runTimer
  | .exporting => exact meets_runExport
  | .password => exact (meets_runPassword _).acts rfl
  | .random => exact (meets_runRandom _).acts rfl
  | .stats => exact meets_runStats.acts rfl

end Utility

/-! ## Files -/

namespace Filing

@[simp] theorem meets_cwd {A : Path → Machine σ ν → Prop} {R : Error → Machine σ ν → Prop} :
    (cwd : Action σ ν Path).Meets m A R ↔ A m.session.cwd m := .rfl

/-- A read that fails because its directory cannot be reached. -/
theorem declined_directory {α : Type} {text : String} {f : NodeId → α} {e : FileError}
    (h : (m.volume.tree.directoryAt (Path.resolve text m.session.cwd)).map f = .error e) :
    Declined m (.files e) m :=
  declined_files (.directory (.inr ⟨text, rfl⟩) (error_of_map h))

theorem meets_runLs (args : List String) : (runLs args).AsksOnly m := by
  simp only [runLs, Action.meets_bind, meets_cwd, Action.meets_readTree, Action.meets_pure]
  exact ⟨fun _ _ => rfl, fun _ he => declined_directory he⟩

theorem meets_runCat (args : List String) : (runCat args).AsksOnly m := by
  simp only [runCat, Action.meets_bind, Action.meets_required, meets_cwd, Action.meets_readTree,
    Action.meets_pure]
  exact ⟨fun _ _ => ⟨fun _ _ => rfl, fun _ he => declined_files (.content he)⟩,
    fun _ => declined_usage _⟩

theorem meets_runTree : (runTree : Action σ ν Output).AsksOnly m := by
  simp only [runTree, Action.meets_bind, meets_cwd, Action.meets_readTree, Action.meets_pure]
  exact ⟨fun _ _ => rfl,
    fun _ he => declined_files (.directory (.inl rfl) (error_of_map he))⟩

variable [Backend σ] [Client ν]

theorem meets_runCd : (Builtin.filing .cd).Performs call m (runCd call.args call.profile) := by
  simp only [runCd, Action.meets_bind, Action.meets_enter, Action.meets_pure]
  refine ⟨fun target h => (Builtin.Does.cd h).acts, fun e he => ?_⟩
  rw [Tree.changeDirectory_eq] at he
  exact declined_directory he

/-- The commands that change the entry they are given by name. -/
theorem meets_changeNamed {c : Builtin} (edit : Edit) {usage : String} {text : String → Output}
    (hdoes : ∀ {name : String} {tree : Tree}, call.args.head? = some name →
      m.volume.tree.change ⟨m.session.cwd, name, edit⟩ = .ok tree →
      c.Does call m (.files tree)) :
    c.Performs call m (do
      let name ← Action.required call.args.head? usage
      let here ← cwd
      Action.onVolume (Change.perform ⟨here, name, edit⟩)
      return text name : Action σ ν Output) := by
  simp only [Action.meets_bind, Action.meets_required, meets_cwd, Action.meets_perform,
    Action.meets_pure]
  refine ⟨fun name hname => ⟨fun tree h => ?_, fun e he => ?_⟩, fun _ => declined_usage _⟩
  · exact (hdoes hname h).acts
  · exact declined_change edit he

theorem meets_runEcho : (Builtin.filing .echo).Performs call m (runEcho call) := by
  unfold runEcho
  split
  · rename_i hparse
    exact (Builtin.Does.plainEcho hparse).acts
  · rename_i r hparse
    simp only [Action.meets_bind, meets_cwd, Action.meets_writeFile, Action.meets_pure]
    refine ⟨fun tree h => ?_, fun e he => ?_⟩
    · exact (Builtin.Does.redirect hparse h).acts
    · exact declined_change (.writeFile r.content) he

theorem meets_run (c : Filing) : (Builtin.filing c).Performs call m (c.run call) := by
  match c with
  | .cd => exact meets_runCd
  | .mkdir => exact meets_changeNamed .makeDirectory .mkdir
  | .touch => exact meets_changeNamed .createFile .touch
  | .rm => exact meets_changeNamed .remove .rm
  | .echo => exact meets_runEcho
  | .ls => exact (meets_runLs _).acts rfl
  | .cat => exact (meets_runCat _).acts rfl
  | .tree => exact meets_runTree.acts rfl
  | .pwd => exact Builtin.acts_of_isQuiet rfl rfl

end Filing

/-! ## Novelty -/

namespace Novelty

variable [Backend σ] [Client ν]

theorem meets_deal {bet : Nat} (harg : call.args.head?.bind Text.natural64? = some bet)
    (hbet : 0 < bet) :
    (Builtin.novelty .blackjack).Performs call m (deal bet) := by
  simp only [deal, Action.meets_bind, Action.meets_get]
  split
  · exact declined_usage _
  · rename_i hround
    split
    · exact declined_usage _
    · rename_i hbalance
      simp only [saveBalance, putRound, Action.meets_bind, Action.meets_onStore,
        Action.meets_onRandom, Action.meets_onSession, Action.meets_pure]
      have hround : m.session.blackjack = none := by simpa using hround
      exact ⟨_, .deal harg hbet hround (by omega), rfl⟩

theorem meets_hit (harg : call.args.head? = some "hit") :
    (Builtin.novelty .blackjack).Performs call m hit := by
  simp only [hit, Action.meets_bind, Action.meets_get, Action.meets_required]
  refine ⟨fun round hround => ⟨fun drawn hhit => ?_, fun _ => declined_usage _⟩,
    fun _ => declined_usage _⟩
  obtain ⟨card, round'⟩ := drawn
  have hdoes := Builtin.Does.hit (m := m) harg hround hhit
  split
  · rename_i hbust
    rw [if_pos hbust] at hdoes
    exact hdoes.acts
  · rename_i hbust
    rw [if_neg hbust] at hdoes
    exact hdoes.acts

theorem meets_stand (harg : call.args.head? = some "stand") :
    (Builtin.novelty .blackjack).Performs call m stand := by
  simp only [stand, putRound, saveBalance, Action.meets_bind, Action.meets_get,
    Action.meets_required, Action.meets_onSession, Action.meets_ofAbort, Action.meets_onStore,
    Action.meets_pure]
  exact ⟨fun round hround payout hpayout balance hbalance =>
    (Builtin.Does.stand harg hround hpayout hbalance).acts, fun _ => declined_usage _⟩

omit [Backend σ] [Client ν] in
/-- The word that a call is about is its first one, unless it shows the balance. -/
theorem head?_of_word {args : List String} {word : String}
    (h : args.head?.getD "balance" = word) (hne : word ≠ "balance") : args.head? = some word := by
  cases hhead : args.head? with
  | none =>
    rw [hhead] at h
    exact absurd h.symm hne
  | some first =>
    rw [hhead] at h
    exact congrArg some h

theorem meets_runBlackjack :
    (Builtin.novelty .blackjack).Performs call m (runBlackjack call.args) := by
  unfold runBlackjack
  split
  · rename_i hword
    exact (Builtin.Does.balance hword).acts
  · rename_i hword
    exact meets_hit (head?_of_word hword (by decide))
  · rename_i hword
    exact meets_stand (head?_of_word hword (by decide))
  · rename_i hbalance _ _
    simp only [Action.meets_bind, Action.meets_required]
    refine ⟨fun bet hbet => ?_, fun _ => declined_usage _⟩
    obtain ⟨hread, hpos⟩ := Option.filter_eq_some_iff.mp hbet
    refine meets_deal ?_ (by simpa using hpos)
    rw [head?_of_word rfl hbalance]
    exact hread

theorem meets_run (c : Novelty) : (Builtin.novelty c).Performs call m (c.run call) := by
  match c with
  | .blackjack => exact meets_runBlackjack
  | .snake | .cowsay | .banner => exact Builtin.acts_of_isQuiet rfl rfl
  | .matrix | .fortune | .joke =>
    simp only [run, Action.meets_bind, Action.meets_onRandom, Action.meets_pure]
    exact Builtin.acts_of_isQuiet rfl (asks_random _)
  | .weather =>
    simp only [run, runWeather, Action.meets_bind, Action.meets_onNetwork, Action.meets_pure]
    exact Builtin.acts_of_isQuiet rfl (asks_network _)

end Novelty

/-- What a command may do when it is called: it has one of its effects, or it is refused and has
done nothing. -/
theorem Builtin.meets_run [Backend σ] [Client ν] (c : Builtin) :
    c.Performs call m (c.run call) := by
  cases c with
  | global c => exact c.meets_run
  | development c => exact c.meets_run
  | market c => exact c.meets_run
  | networking c => exact c.meets_run
  | utility c => exact c.meets_run
  | filing c => exact c.meets_run
  | novelty c => exact c.meets_run

end DevConsole
