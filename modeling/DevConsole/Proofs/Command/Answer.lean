import DevConsole.Proofs.Command.Handlers

/-!
# What commands do not say

That the name of a command is unknown is said by the shell alone. The errors of the built-in
commands, and the lines that they show as errors, start with other words (`Distinct`), whatever a
command is called with and whatever the network answers (`Builtin.answers_run`).
-/

namespace DevConsole

open Files Net Blackjack

/-- A text that starts with other letters than the error for an unknown command. -/
def Distinct (text : String) : Prop :=
  3 ≤ text.toList.length ∧ text.toList.take 3 ≠ ['C', 'o', 'm']

namespace Distinct

/-- It is enough to look at the first letters. -/
theorem ofList {a b c : Char} {rest : List Char} (h : [a, b, c] ≠ ['C', 'o', 'm']) :
    Distinct (String.ofList (a :: b :: c :: rest)) := by
  unfold Distinct
  rw [String.toList_ofList]
  exact ⟨by simp, by simpa using h⟩

theorem append {start : String} (h : Distinct start) (rest : String) :
    Distinct (start ++ rest) := by
  unfold Distinct
  rw [String.toList_append, List.take_append_of_le_length h.1, List.length_append]
  exact ⟨Nat.le_add_right_of_le h.1, h.2⟩

theorem ne_commandNotFound {text : String} (h : Distinct text) (name : String) :
    text ≠ (Error.commandNotFound name).message := by
  rintro rfl
  have hmessage : (Error.commandNotFound name).message = "Command not found: " ++ name := rfl
  obtain ⟨rest, hstart⟩ : ∃ rest, "Command not found: ".toList = 'C' :: 'o' :: 'm' :: rest :=
    ⟨_, String.toList_ofList⟩
  rw [hmessage, Distinct, String.toList_append, hstart] at h
  exact h.2 rfl

end Distinct

/-- A line that, if it is one of an error, starts with other letters. -/
def Line.IsDistinct (line : Line) : Prop := line.style = some .error → Distinct line.text

/-- The lines of errors start with other letters. -/
def Output.IsDistinct : Output → Prop
  | .lines ls => ∀ line ∈ ls, line.IsDistinct
  | _ => True

/-- An action that neither shows nor is refused with the error for an unknown command. -/
abbrev Action.Answers {σ ν : Type} (a : Action σ ν Output) (m : Machine σ ν) : Prop :=
  a.Meets m (fun output _ => output.IsDistinct) fun e _ => Distinct e.message

/-! ## Texts and lines -/

section

variable {text : String} {ls : List Line}

theorem distinct_usage (h : Distinct text) : Distinct (Error.usage text).message := h

theorem distinct_files (e : FileError) : Distinct (Error.files e).message := by
  cases e with
  | invalidName name => exact ((Distinct.ofList (by decide)).append name).append "'"
  | _ what => exact (Distinct.ofList (by decide)).append what

@[simp] theorem Line.isDistinct_plain : (Line.plain text).IsDistinct := nofun

@[simp] theorem Line.isDistinct_system : (Line.system text).IsDistinct := nofun

@[simp] theorem Line.isDistinct_success : (Line.success text).IsDistinct := nofun

@[simp] theorem Line.isDistinct_error : (Line.error text).IsDistinct ↔ Distinct text :=
  ⟨fun h => h rfl, fun h _ => h⟩

@[simp] theorem Output.isDistinct_text : (Output.text text).IsDistinct := trivial

@[simp] theorem Output.isDistinct_lines :
    (Output.lines ls).IsDistinct ↔ ∀ line ∈ ls, line.IsDistinct := .rfl

end

variable {σ ν : Type} {call : Call} {m : Machine σ ν}

/-- The text of a computation whose errors start with other letters. -/
theorem answers_text {r : Except Error String} (h : ∀ e, r = .error e → Distinct e.message) :
    (Output.text <$> Action.ofExcept r : Action σ ν Output).Answers m := by
  simpa using h

/-! ## The commands of all modes -/

namespace Global

theorem distinct_clock (e : Error) (h : call.clock.read = .error e) : Distinct e.message := by
  unfold Clock.read at h
  split at h <;> cases h
  have hstart : Distinct "store error: " := .ofList (by decide)
  exact hstart.append "clock stopped"

theorem distinct_parse (name : String) (e : Error) (h : Mode.parse name = .error e) :
    Distinct e.message := by
  unfold Mode.parse at h
  split at h <;> cases h
  have hstart : Distinct "Invalid mode: " := .ofList (by decide)
  exact ((hstart.append name).append ". Available: ").append Mode.names

variable [Backend σ]

theorem answers_runMode (args : List String) : (runMode args).Answers m := by
  simp only [runMode, Action.meets_bind, Action.meets_get]
  split
  · trivial
  · simpa using distinct_parse _

theorem answers_runTheme (args : List String) : (runTheme args).Answers m := by
  have htheme : Distinct "Invalid theme. Available: " := .ofList (by decide)
  unfold runTheme
  split
  · trivial
  · simp only [Action.meets_bind, Action.meets_required]
    exact ⟨fun _ _ => trivial, fun _ => distinct_usage (htheme.append _)⟩

theorem answers_run (c : Global) : (c.run call).Answers m := by
  match c with
  | .clear | .about | .exit => trivial
  | .fullscreen => simp [run, runFullscreen, onPresentation]
  | .help => simp [run, helpLines, listingLines, or_imp, forall_and]
  | .date | .time | .neofetch => simpa [run, readMoment] using distinct_clock
  | .mode => exact answers_runMode _
  | .theme => exact answers_runTheme _
  | .font | .color =>
    simp only [run, runFont, runColor, Action.meets_bind, Action.meets_required]
    exact ⟨fun _ _ => trivial, fun _ => distinct_usage (.ofList (by decide))⟩

end Global

/-! ## Development -/

namespace Development

theorem distinct_calculate (args : List String) (e : Error) (h : calculate args = .error e) :
    Distinct e.message := by
  have hcases : e = .usage "Error: Invalid characters in expression" ∨
      e = .usage "Error: Invalid expression" := by
    unfold calculate at h
    grind
  rcases hcases with rfl | rfl <;> exact distinct_usage (.ofList (by decide))

theorem distinct_formatJson (args : List String) (e : Error) (h : formatJson args = .error e) :
    Distinct e.message := by
  obtain rfl : e = .usage "Error: Invalid JSON string" := by
    unfold formatJson at h
    grind
  exact distinct_usage (.ofList (by decide))

theorem distinct_testPattern (args : List String) (e : Error) (h : testPattern args = .error e) :
    Distinct e.message := by
  have hcases : e = .usage "Invalid Regex" ∨
      e = .usage "Usage: regex <pattern> <string>" := by
    unfold testPattern at h
    grind
  rcases hcases with rfl | rfl <;> exact distinct_usage (.ofList (by decide))

theorem distinct_decodeBase64 (args : List String) (e : Error)
    (h : decodeBase64 args = .error e) : Distinct e.message := by
  obtain rfl : e = .usage "Error: Invalid Base64 string" := by
    unfold decodeBase64 at h
    grind
  exact distinct_usage (.ofList (by decide))

variable [Client ν]

theorem answers_runConvert (args : List String) : (runConvert args).Answers m := by
  have husage : Distinct convertUsage := .ofList (by decide)
  unfold runConvert
  split
  · simp only [Action.meets_bind, Action.meets_required, Action.meets_onNetwork, Action.meets_pure]
    refine ⟨fun amount _ => ?_, fun _ => distinct_usage husage⟩
    simp only [convertLines, Output.isDistinct_lines, List.forall_mem_cons]
    refine ⟨Line.isDistinct_system, ?_, List.forall_mem_nil _⟩
    split
    · exact Line.isDistinct_plain
    · exact Line.isDistinct_error.mpr (.ofList (by decide))
  · exact distinct_usage husage

theorem answers_run (c : Development) : (c.run call).Answers m := by
  match c with
  | .uuid | .hash | .encode | .encrypt | .decrypt => trivial
  | .calc => exact answers_text (distinct_calculate _)
  | .json => exact answers_text (distinct_formatJson _)
  | .regex => exact answers_text (distinct_testPattern _)
  | .decode => exact answers_text (distinct_decodeBase64 _)
  | .convert => exact answers_runConvert _

end Development

/-! ## Market -/

namespace Market

theorem distinct_returnOn (args : List String) (e : Error) (h : returnOn args = .error e) :
    Distinct e.message := by
  have hcases : e = .usage "Usage: roi <initial> <final>" ∨
      e = .usage "Error: Initial value cannot be zero" := by
    unfold returnOn at h
    grind
  rcases hcases with rfl | rfl <;> exact distinct_usage (.ofList (by decide))

variable [Client ν]

theorem answers_runPrice (args : List String) : (runPrice args).Answers m := by
  have herror : Distinct "Error: Could not fetch price for " := .ofList (by decide)
  simp only [runPrice, Action.meets_bind, Action.meets_price, Action.meets_pure,
    Output.isDistinct_lines, List.forall_mem_cons]
  refine ⟨Line.isDistinct_system, ?_, List.forall_mem_nil _⟩
  split
  · exact Line.isDistinct_plain
  · exact Line.isDistinct_error.mpr (herror.append _)

theorem answers_runSimulate : (runSimulate : Action σ ν Output).Answers m := by
  have herror : Distinct "Error: Could not fetch market data." := .ofList (by decide)
  simp only [runSimulate, Action.meets_bind, Action.meets_price]
  split
  · simpa using herror
  · simp [strategyLines]

theorem answers_runSpread (args : List String) : (runSpread args).Answers m := by
  have herror : Distinct "Error fetching price." := .ofList (by decide)
  simp only [runSpread, Action.meets_bind, Action.meets_price]
  split
  · simpa using herror
  · trivial

theorem answers_runPortfolio : (runPortfolio : Action σ ν Output).Answers m := by
  refine (Action.meets_bind ..).mpr ((Action.meets_mapM (I := fun _ => True)
    (fun holding m _ => ?_) _ trivial).mono (fun values _ _ => ?_) fun _ _ h => h)
  · simp only [valueOf, Action.meets_bind, Action.meets_price]
    split <;> trivial
  · simp only [Action.meets_pure, Output.isDistinct_lines, portfolioLines, List.forall_mem_append]
    refine ⟨⟨by simp, fun line hline => ?_⟩, by simp⟩
    obtain ⟨_, -, rfl⟩ := List.mem_map.mp hline
    exact Line.isDistinct_plain

theorem answers_setAlert (symbol : String) (target : Float) :
    (setAlert symbol target call : Action σ ν Output).Answers m := by
  have herror : Distinct "Error: Could not fetch price for " := .ofList (by decide)
  simp only [setAlert, Action.meets_bind, Action.meets_price]
  split
  · simpa using herror.append _
  · simp

theorem answers_runAlert : (runAlert call : Action σ ν Output).Answers m := by
  have husage : Distinct alertUsage := .ofList (by decide)
  unfold runAlert
  split
  · simp only [Action.meets_bind, Action.meets_get]
    split
    · trivial
    · exact distinct_usage husage
  · simp only [Action.meets_bind, Action.meets_onScheduler]
    split
    · simp
    · trivial
  · exact distinct_usage husage
  · simp only [Action.meets_bind, Action.meets_required]
    exact ⟨fun _ _ => answers_setAlert _ _, fun _ => distinct_usage husage⟩

theorem answers_run (c : Market) : (c.run call : Action σ ν Output).Answers m := by
  match c with
  | .alert => exact answers_runAlert
  | .price => exact answers_runPrice _
  | .roi => exact answers_text (distinct_returnOn _)
  | .simulate => exact answers_runSimulate
  | .funding => simp [run]
  | .spread => exact answers_runSpread _
  | .portfolio => exact answers_runPortfolio

end Market

/-! ## Networking -/

namespace Networking

variable [Client ν]

theorem isDistinct_replyLine (url : String) (answer : Except Error Nat) :
    (replyLine url answer).IsDistinct := by
  cases answer <;> exact Line.isDistinct_plain

theorem answers_runPing (args : List String) : (runPing args : Action σ ν Output).Answers m := by
  refine (Action.meets_bind ..).mpr ((Action.meets_mapM (I := fun _ => True)
    (fun url m _ => (Action.meets_onNetwork _).mpr trivial) _ trivial).mono
      (fun answers _ _ => ?_) fun _ _ h => h)
  simp [isDistinct_replyLine, or_imp, forall_and]

theorem answers_runWhois (args : List String) : (runWhois args : Action σ ν Output).Answers m := by
  simp only [runWhois, Action.meets_bind, Action.meets_required, Action.meets_onNetwork,
    Action.meets_pure, Output.isDistinct_lines, List.forall_mem_cons]
  refine ⟨fun domain _ => ⟨Line.isDistinct_system, ?_⟩,
    fun _ => distinct_usage (.ofList (by decide))⟩
  split
  · simp [whoisLines]
  · simpa using (.ofList (by decide) : Distinct "Could not fetch WHOIS data.")

theorem answers_runScan : (runScan : Action σ ν Output).Answers m := by
  have hscan : Distinct "Error: Network scanning requires local network access." :=
    .ofList (by decide)
  simp only [runScan, Action.meets_bind, Action.meets_onNetwork, Action.meets_pure,
    Output.isDistinct_lines, List.forall_mem_cons]
  refine ⟨Line.isDistinct_error.mpr hscan, Line.isDistinct_system, ?_⟩
  split
  · simp [addressLines]
  · simpa using (.ofList (by decide) : Distinct "Could not fetch IP info.")

theorem answers_runCurl (args : List String) : (runCurl args : Action σ ν Output).Answers m := by
  have herror : Distinct "Error: " := .ofList (by decide)
  simp only [runCurl, Action.meets_bind, Action.meets_required, Action.meets_onNetwork,
    Action.meets_pure, Output.isDistinct_lines, List.forall_mem_cons]
  refine ⟨fun url _ => ⟨Line.isDistinct_system, ?_⟩, fun _ => distinct_usage (.ofList (by decide))⟩
  split
  · simp [pageLines, or_imp, forall_and]
  · simpa using herror.append _

theorem answers_run (c : Networking) : (c.run call : Action σ ν Output).Answers m := by
  match c with
  | .ping => exact answers_runPing _
  | .whois => exact answers_runWhois _
  | .scan => exact answers_runScan
  | .curl => exact answers_runCurl _
  | .trace =>
    have htrace : Distinct "Error: 'traceroute' requires raw socket access." := .ofList (by decide)
    simpa [run] using htrace
  | .check =>
    have hcheck : Distinct "Error: Port checking requires backend proxy." := .ofList (by decide)
    simpa [run] using hcheck

end Networking

/-! ## Utilities -/

namespace Utility

theorem answers_runPassword (args : List String) :
    (runPassword args : Action σ ν Output).Answers m := by
  unfold runPassword
  dsimp only
  split
  · have hlength : Distinct "Error: Password length must be at most " := .ofList (by decide)
    exact distinct_usage (hlength.append _)
  · trivial

theorem answers_runRandom (args : List String) :
    (runRandom args : Action σ ν Output).Answers m := by
  unfold runRandom
  dsimp only
  split
  · exact distinct_usage (.ofList (by decide))
  · trivial

theorem answers_runTimer (args : List String) (now : Instant) :
    (runTimer args now : Action σ ν Output).Answers m := by
  have husage : Distinct timerUsage := .ofList (by decide)
  unfold runTimer
  split
  · exact distinct_usage husage
  · simp
  · simp only [setTimer, Action.meets_bind, Action.meets_required, Action.meets_get]
    exact ⟨fun _ _ => ⟨fun _ _ => by simp, fun _ => distinct_usage (.ofList (by decide))⟩,
      fun _ => distinct_usage husage⟩

variable [Backend σ]

theorem answers_runNote (args : List String) : (runNote args : Action σ ν Output).Answers m := by
  have husage : Distinct "Usage: " := .ofList (by decide)
  simp only [runNote, Action.meets_bind, Action.meets_get]
  split
  · trivial
  · trivial
  · trivial
  · exact distinct_usage (husage.append _)

theorem answers_runTask (args : List String) : (runTask args : Action σ ν Output).Answers m := by
  have husage : Distinct "Usage: " := .ofList (by decide)
  have htask : Distinct "Error: No task " := .ofList (by decide)
  simp only [runTask, Action.meets_bind, Action.meets_get]
  split
  · trivial
  · simp only [Action.meets_bind, Action.meets_required]
    exact ⟨fun _ _ => trivial, fun _ => distinct_usage (htask.append _)⟩
  · trivial
  · trivial
  · exact distinct_usage (husage.append _)

theorem answers_exportList (key file label : String) :
    (exportList key file label : Action σ ν Output).Answers m := by
  rw [Action.Answers, meets_exportList_iff]
  exact ⟨fun _ _ => trivial, fun e _ => distinct_files e⟩

theorem answers_runExport (args : List String) :
    (runExport args : Action σ ν Output).Answers m := by
  unfold runExport
  split
  · exact answers_exportList _ _ _
  · exact answers_exportList _ _ _
  · exact distinct_usage (.ofList (by decide))

theorem answers_run (c : Utility) : (c.run call : Action σ ν Output).Answers m := by
  match c with
  | .note => exact answers_runNote _
  | .task => exact answers_runTask _
  | .timer => exact answers_runTimer _ _
  | .exporting => exact answers_runExport _
  | .password => exact answers_runPassword _
  | .random => exact answers_runRandom _
  | .stats =>
    obtain ⟨text, hrun⟩ := exists_runStats m
    rw [Action.Answers, Action.Meets, run, hrun]
    trivial

end Utility

/-! ## Files -/

namespace Filing

theorem answers_runLs (args : List String) : (runLs args : Action σ ν Output).Answers m := by
  simp only [runLs, cwd, Action.meets_bind, Action.meets_get, Action.meets_readTree]
  exact ⟨fun _ _ => trivial, fun e _ => distinct_files e⟩

theorem answers_runCd (args : List String) (profile : Profile) :
    (runCd args profile : Action σ ν Output).Answers m := by
  simp only [runCd, Action.meets_bind, Action.meets_enter]
  exact ⟨fun _ _ => trivial, fun e _ => distinct_files e⟩

theorem answers_runCat (args : List String) : (runCat args : Action σ ν Output).Answers m := by
  simp only [runCat, cwd, Action.meets_bind, Action.meets_required, Action.meets_get,
    Action.meets_readTree]
  exact ⟨fun _ _ => ⟨fun _ _ => trivial, fun e _ => distinct_files e⟩,
    fun _ => distinct_usage (.ofList (by decide))⟩

theorem answers_runTree : (runTree : Action σ ν Output).Answers m := by
  simp only [runTree, cwd, Action.meets_bind, Action.meets_get, Action.meets_readTree]
  exact ⟨fun _ _ => trivial, fun e _ => distinct_files e⟩

variable [Backend σ]

/-- The commands that change the entry they are given by name. -/
theorem answers_changeNamed {args : List String} {usage : String} (husage : Distinct usage)
    (edit : Edit) (text : String → String) :
    (do
      let name ← Action.required args.head? usage
      let here ← cwd
      Action.onVolume (Change.perform ⟨here, name, edit⟩)
      return .text (text name) : Action σ ν Output).Answers m := by
  simp only [cwd, Action.meets_bind, Action.meets_required, Action.meets_get,
    Action.meets_perform]
  exact ⟨fun _ _ => ⟨fun _ _ => trivial, fun e _ => distinct_files e⟩, fun _ => husage⟩

theorem answers_runEcho : (runEcho call : Action σ ν Output).Answers m := by
  unfold runEcho
  split
  · trivial
  · simp only [cwd, Action.meets_bind, Action.meets_get, Action.meets_writeFile]
    exact ⟨fun _ _ => trivial, fun e _ => distinct_files e⟩

theorem answers_run (c : Filing) : (c.run call : Action σ ν Output).Answers m := by
  match c with
  | .ls => exact answers_runLs _
  | .cd => exact answers_runCd _ _
  | .cat => exact answers_runCat _
  | .tree => exact answers_runTree
  | .pwd => trivial
  | .echo => exact answers_runEcho
  | .mkdir => exact answers_changeNamed (.ofList (by decide)) .makeDirectory _
  | .touch => exact answers_changeNamed (.ofList (by decide)) .createFile _
  | .rm => exact answers_changeNamed (.ofList (by decide)) .remove _

end Filing

/-! ## Novelty -/

namespace Novelty

variable [Backend σ]

theorem answers_deal (bet : Nat) : (deal bet : Action σ ν Output).Answers m := by
  simp only [deal, Action.meets_bind, Action.meets_get]
  split
  · exact distinct_usage (.ofList (by decide))
  · split
    · exact distinct_usage (.ofList (by decide))
    · simp [saveBalance, putRound, playerLine]

theorem answers_hit : (hit : Action σ ν Output).Answers m := by
  have hbust : Distinct "Bust! You lose $" := .ofList (by decide)
  simp only [hit, Action.meets_bind, Action.meets_get, Action.meets_required]
  refine ⟨fun round _ => ⟨fun drawn _ => ?_, fun _ => distinct_usage (.ofList (by decide))⟩,
    fun _ => distinct_usage (.ofList (by decide))⟩
  split
  · simpa [putRound, playerLine] using ((hbust.append _).append _).append _
  · simp [putRound, playerLine]

theorem isDistinct_resultLine (outcome : Outcome) (bet balance : Nat) :
    (resultLine outcome bet balance).IsDistinct := by
  have hlose : Distinct "Dealer wins. Balance: $" := .ofList (by decide)
  cases outcome with
  | win => exact Line.isDistinct_success
  | push => exact Line.isDistinct_system
  | lose => exact Line.isDistinct_error.mpr (hlose.append _)

theorem answers_stand : (stand : Action σ ν Output).Answers m := by
  simp only [stand, putRound, saveBalance, Action.meets_bind, Action.meets_get,
    Action.meets_required, Action.meets_onSession, Action.meets_ofAbort, Action.meets_onStore]
  refine ⟨fun round _ payout _ balance _ => ?_, fun _ => distinct_usage (.ofList (by decide))⟩
  simp [playerLine, isDistinct_resultLine]

theorem answers_runBlackjack (args : List String) :
    (runBlackjack args : Action σ ν Output).Answers m := by
  unfold runBlackjack
  split
  · trivial
  · exact answers_hit
  · exact answers_stand
  · simp only [Action.meets_bind, Action.meets_required]
    exact ⟨fun bet _ => answers_deal bet, fun _ => distinct_usage (.ofList (by decide))⟩

variable [Client ν]

omit [Backend σ] in
theorem answers_runWeather (args : List String) :
    (runWeather args : Action σ ν Output).Answers m := by
  simp only [runWeather, Action.meets_bind, Action.meets_onNetwork, Action.meets_pure,
    Output.isDistinct_lines, List.forall_mem_cons]
  refine ⟨Line.isDistinct_system, ?_⟩
  split
  · simp [weatherLines]
  · simpa using (.ofList (by decide) : Distinct "Could not fetch weather data.")

theorem answers_run (c : Novelty) : (c.run call : Action σ ν Output).Answers m := by
  match c with
  | .snake | .cowsay | .banner | .fortune | .joke => trivial
  | .matrix => simp [run, matrixLine, or_imp, forall_and]
  | .weather => exact answers_runWeather _
  | .blackjack => exact answers_runBlackjack _

end Novelty

/-- No built-in command says that a command is unknown. -/
theorem Builtin.answers_run [Backend σ] [Client ν] (c : Builtin) :
    (c.run call : Action σ ν Output).Answers m := by
  cases c with
  | global c => exact c.answers_run
  | development c => exact c.answers_run
  | market c => exact c.answers_run
  | networking c => exact c.answers_run
  | utility c => exact c.answers_run
  | filing c => exact c.answers_run
  | novelty c => exact c.answers_run

end DevConsole
