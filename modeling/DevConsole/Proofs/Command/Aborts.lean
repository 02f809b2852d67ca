import DevConsole.Proofs.Command.Handlers

/-!
# What commands abort for

`Action.AbortsOnly a p` says that the action `a`, run on any machine, aborts for reasons only of
which `p` holds; it may go on or be refused. It is shown piece by piece, along the way an action is
built. Hardly any command can abort: those that show the date or the time, if the year is too great,
the price alert, if the clock does not reach its next poll, and blackjack, if a gain is too great
(`Builtin.MayAbort`).
-/

namespace DevConsole

open Files Net Blackjack

variable {σ ν α β : Type} {call : Call} {p : Abort → Prop}

namespace Action

/-- If the action aborts, it is for such a reason. -/
def AbortsOnly (a : Action σ ν α) (p : Abort → Prop) : Prop :=
  ∀ m, match a m with
    | .error (.aborted why) _ => p why
    | _ => True

namespace AbortsOnly

variable {a : Action σ ν α} {m m' : Machine σ ν} {why : Abort}

theorem of_aborted (h : a.AbortsOnly p) (hrun : a m = .error (.aborted why) m') : p why := by
  have hm := h m
  rw [hrun] at hm
  exact hm

theorem mono {q : Abort → Prop} (h : a.AbortsOnly p) (hpq : ∀ why, p why → q why) :
    a.AbortsOnly q := by
  intro m
  split
  · rename_i hrun
    exact hpq _ (h.of_aborted hrun)
  · trivial

/-! ### Control -/

protected theorem pure (x : α) : (pure x : Action σ ν α).AbortsOnly p := fun _ => trivial

protected theorem bind {f : α → Action σ ν β} (ha : a.AbortsOnly p)
    (hf : ∀ x, (f x).AbortsOnly p) : (a >>= f).AbortsOnly p := by
  intro m
  have hm := ha m
  simp only [Bind.bind, EStateM.bind]
  cases hrun : a m with
  | ok x m' => exact hf x m'
  | error stop m' =>
    rw [hrun] at hm
    cases stop with
    | refused => trivial
    | aborted => exact hm

protected theorem map (f : α → β) (ha : a.AbortsOnly p) : (f <$> a).AbortsOnly p := by
  intro m
  have hm := ha m
  simp only [Functor.map, EStateM.map]
  cases hrun : a m with
  | ok x m' => trivial
  | error stop m' =>
    rw [hrun] at hm
    cases stop with
    | refused => trivial
    | aborted => exact hm

theorem refuseUsage (text : String) : (refuseUsage text : Action σ ν α).AbortsOnly p :=
  fun _ => trivial

theorem ofExcept (r : Except Error α) : (ofExcept r : Action σ ν α).AbortsOnly p := by
  cases r <;> exact fun _ => trivial

theorem ofAbort {r : Except Abort α} (h : ∀ why, r = .error why → p why) :
    (ofAbort r : Action σ ν α).AbortsOnly p := by
  cases r with
  | ok x => exact fun _ => trivial
  | error why => exact fun _ => h why rfl

theorem required (o : Option α) (text : String) :
    (required o text : Action σ ν α).AbortsOnly p := by
  cases o <;> exact fun _ => trivial

theorem mapM {f : α → Action σ ν β} (hf : ∀ x, (f x).AbortsOnly p) (xs : List α) :
    (xs.mapM f).AbortsOnly p := by
  induction xs with
  | nil => exact .pure []
  | cons x xs ih =>
    rw [List.mapM_cons]
    exact (hf x).bind fun _ => ih.bind fun _ => .pure _

/-! ### Operations on parts -/

theorem get : (get : Action σ ν (Machine σ ν)).AbortsOnly p := fun _ => trivial

theorem set (m : Machine σ ν) : (set m : Action σ ν PUnit).AbortsOnly p := fun _ => trivial

theorem onSession (f : Session → Session) : (onSession f : Action σ ν Unit).AbortsOnly p :=
  fun _ => trivial

theorem onStore (f : Store σ → Store σ) : (onStore f : Action σ ν Unit).AbortsOnly p :=
  fun _ => trivial

theorem onScheduler (f : Scheduler → α × Scheduler) :
    (onScheduler f : Action σ ν α).AbortsOnly p := fun _ => trivial

theorem onRandom (f : Random → α × Random) : (onRandom f : Action σ ν α).AbortsOnly p :=
  fun _ => trivial

theorem onNetwork (f : Network ν → α × Network ν) : (onNetwork f : Action σ ν α).AbortsOnly p :=
  fun _ => trivial

theorem onVolume (f : Operation σ α) : (onVolume f : Action σ ν α).AbortsOnly p := by
  intro m
  rw [Action.onVolume]
  cases f (m.volume, m.store) <;> trivial

theorem onDirectory (f : Tree → EStateM FileError Path α) :
    (onDirectory f : Action σ ν α).AbortsOnly p := by
  intro m
  rw [Action.onDirectory]
  cases f m.volume.tree m.session.cwd <;> trivial

theorem readTree (f : Tree → Except FileError α) : (readTree f : Action σ ν α).AbortsOnly p :=
  get.bind fun _ => ofExcept _

end AbortsOnly

end Action

open DevConsole.Action

/-! ## Commands that never abort -/

namespace Development

variable [Client ν]

theorem abortsOnly_run (c : Development) : (c.run call : Action σ ν Output).AbortsOnly p := by
  match c with
  | .calc | .json | .decode | .regex => exact .map _ (.ofExcept _)
  | .uuid => exact .bind (.onRandom _) fun _ => .pure _
  | .hash | .encode | .encrypt | .decrypt => exact .pure _
  | .convert =>
    simp only [run, runConvert]
    split
    · exact .bind (.required _ _) fun _ => .bind (.onNetwork _) fun _ => .pure _
    · exact .refuseUsage _

end Development

namespace Networking

variable [Client ν]

theorem abortsOnly_run (c : Networking) : (c.run call : Action σ ν Output).AbortsOnly p := by
  match c with
  | .trace | .check => exact .pure _
  | .ping => exact .bind (.mapM (fun _ => .onNetwork _) _) fun _ => .pure _
  | .scan => exact .bind (.onNetwork _) fun _ => .pure _
  | .whois | .curl =>
    exact .bind (.required _ _) fun _ => .bind (.onNetwork _) fun _ => .pure _

end Networking

namespace Utility

theorem abortsOnly_runTimer (args : List String) (now : Instant) :
    (runTimer args now : Action σ ν Output).AbortsOnly p := by
  unfold runTimer
  split
  · exact .refuseUsage _
  · exact .bind (.onScheduler _) fun _ => .pure _
  · exact .bind (.required _ _) fun _ => .bind .get fun _ =>
      .bind (.required _ _) fun _ => .bind (.set _) fun _ => .pure _

variable [Backend σ]

theorem abortsOnly_runNote (args : List String) :
    (runNote args : Action σ ν Output).AbortsOnly p := by
  refine .bind .get fun m => ?_
  dsimp only
  split
  · exact .bind (.onStore _) fun _ => .pure _
  · exact .pure _
  · exact .bind (.onStore _) fun _ => .pure _
  · exact .refuseUsage _

theorem abortsOnly_runTask (args : List String) :
    (runTask args : Action σ ν Output).AbortsOnly p := by
  refine .bind .get fun m => ?_
  dsimp only
  split
  · exact .bind (.onStore _) fun _ => .pure _
  · exact .bind (.required _ _) fun _ => .bind (.onStore _) fun _ => .pure _
  · exact .pure _
  · exact .bind (.onStore _) fun _ => .pure _
  · exact .refuseUsage _

theorem abortsOnly_exportList (key file label : String) :
    (exportList key file label : Action σ ν Output).AbortsOnly p :=
  .bind .get fun _ => .bind (.onVolume _) fun _ => .bind .get fun _ =>
    .bind (.ofExcept _) fun _ => .pure _

theorem abortsOnly_run (c : Utility) : (c.run call : Action σ ν Output).AbortsOnly p := by
  match c with
  | .note => exact abortsOnly_runNote _
  | .task => exact abortsOnly_runTask _
  | .timer => exact abortsOnly_runTimer _ _
  | .stats =>
    intro m
    obtain ⟨text, hrun⟩ := exists_runStats m
    rw [run, hrun]
    trivial
  | .password =>
    simp only [run, runPassword]
    split
    · exact .refuseUsage _
    · exact .bind (.onRandom _) fun _ => .pure _
  | .random =>
    simp only [run, runRandom]
    split
    · exact .refuseUsage _
    · exact .bind (.onRandom _) fun _ => .pure _
  | .exporting =>
    simp only [run, runExport]
    split
    · exact abortsOnly_exportList _ _ _
    · exact abortsOnly_exportList _ _ _
    · exact .refuseUsage _

end Utility

namespace Filing

theorem abortsOnly_cwd : (cwd : Action σ ν Path).AbortsOnly p :=
  .bind .get fun _ => .pure _

theorem abortsOnly_run [Backend σ] (c : Filing) :
    (c.run call : Action σ ν Output).AbortsOnly p := by
  match c with
  | .pwd => exact .bind abortsOnly_cwd fun _ => .pure _
  | .ls | .tree => exact .bind abortsOnly_cwd fun _ => .bind (.readTree _) fun _ => .pure _
  | .cat =>
    exact .bind (.required _ _) fun _ => .bind abortsOnly_cwd fun _ =>
      .bind (.readTree _) fun _ => .pure _
  | .cd =>
    exact .bind (.onDirectory _) fun _ => .pure _
  | .mkdir | .touch | .rm =>
    exact .bind (.required _ _) fun _ => .bind abortsOnly_cwd fun _ =>
      .bind (.onVolume _) fun _ => .pure _
  | .echo =>
    simp only [run, runEcho]
    split
    · exact .pure _
    · exact .bind abortsOnly_cwd fun _ => .bind (.onVolume _) fun _ => .pure _

end Filing

/-! ## Commands that may abort -/

/-- What a command may abort for. -/
def Builtin.MayAbort : Builtin → Abort → Prop
  | .global .date, .year | .global .time, .year => True
  | .market .alert, .instant => True
  | .novelty .blackjack, .amount => True
  | _, _ => False

namespace Global

theorem year_of_yearOf {year days : Nat} {why : Abort}
    (h : Calendar.yearOf year days = .error why) : why = .year := by
  fun_induction Calendar.yearOf year days with
  | case1 => cases h
  | case2 => cases h; rfl
  | case3 _ _ _ _ ih => exact ih h

theorem year_of_ofUnix {seconds : Nat} {why : Abort} (h : Moment.ofUnix seconds = .error why) :
    why = .year := year_of_yearOf (error_of_map (error_of_map h))

theorem abortsOnly_readMoment (clock : Clock) :
    (readMoment clock : Action σ ν Moment).AbortsOnly (· = .year) :=
  .bind (.ofExcept _) fun _ => .ofAbort fun _ h => year_of_ofUnix h

theorem abortsOnly_run [Backend σ] (c : Global) :
    (c.run call : Action σ ν Output).AbortsOnly (Builtin.global c).MayAbort := by
  match c with
  | .clear | .about | .exit => exact .pure _
  | .help => exact .bind .get fun _ => .pure _
  | .date | .time =>
    refine .bind ((abortsOnly_readMoment call.clock).mono ?_) fun _ => .pure _
    rintro _ rfl
    trivial
  | .neofetch =>
    exact .bind (.ofExcept _) fun _ => .bind .get fun _ => .pure _
  | .fullscreen => exact .bind (.onSession _) fun _ => .bind .get fun _ => .pure _
  | .font | .color =>
    exact .bind (.required _ _) fun _ => .bind (.onSession _) fun _ =>
      .bind (.onStore _) fun _ => .pure _
  | .mode =>
    refine .bind .get fun m => ?_
    dsimp only
    split
    · exact .pure _
    · exact .bind (.ofExcept _) fun _ => .bind (.set _) fun _ => .pure _
  | .theme =>
    simp only [run, runTheme]
    split
    · exact .bind .get fun _ => .pure _
    · exact .bind (.required _ _) fun _ => .bind (.onSession _) fun _ =>
        .bind (.onStore _) fun _ => .bind (.onStore _) fun _ => .pure _

end Global

namespace Market

variable [Client ν]

theorem instant_of_startWatch {scheduler : Scheduler} {alert : PriceAlert} {now : Instant}
    {interval : Nat} {why : Abort} (h : scheduler.startWatch alert now interval = .error why) :
    why = .instant := by
  unfold Scheduler.startWatch Scheduler.pollAfter at h
  split at h <;> cases h
  rfl

theorem abortsOnly_setAlert (symbol : String) (target : Float) :
    (setAlert symbol target call : Action σ ν Output).AbortsOnly (· = .instant) := by
  refine .bind (.onNetwork _) fun answer => ?_
  split
  · exact .pure _
  · exact .bind .get fun _ => .bind (.ofAbort fun _ h => instant_of_startWatch h) fun _ =>
      .bind (.set _) fun _ => .pure _

theorem abortsOnly_runAlert : (runAlert call : Action σ ν Output).AbortsOnly (· = .instant) := by
  unfold runAlert
  split
  · refine .bind .get fun m => ?_
    split
    · exact .pure _
    · exact .refuseUsage _
  · refine .bind (.onScheduler _) fun stopped => ?_
    split <;> exact .pure _
  · exact .refuseUsage _
  · exact .bind (.required _ _) fun _ => abortsOnly_setAlert _ _

theorem abortsOnly_run (c : Market) :
    (c.run call : Action σ ν Output).AbortsOnly (Builtin.market c).MayAbort := by
  match c with
  | .price => exact .bind (.onNetwork _) fun _ => .pure _
  | .roi => exact .map _ (.ofExcept _)
  | .funding => exact .pure _
  | .simulate =>
    refine .bind (.onNetwork _) fun answer => ?_
    split
    · exact .pure _
    · exact .bind (.onRandom _) fun _ => .pure _
  | .spread =>
    refine .bind (.onNetwork _) fun answer => ?_
    split <;> exact .pure _
  | .portfolio =>
    refine .bind (.mapM (fun holding => .bind (.onNetwork _) fun answer => ?_) _) fun _ => .pure _
    split <;> exact .pure _
  | .alert =>
    refine abortsOnly_runAlert.mono ?_
    rintro _ rfl
    trivial

end Market

namespace Novelty

variable [Backend σ]

theorem amount_of_amount {n : Nat} {why : Abort} (h : amount n = .error why) : why = .amount := by
  unfold amount at h
  split at h <;> cases h
  rfl

theorem amount_of_payout {outcome : Outcome} {bet : Nat} {why : Abort}
    (h : outcome.payout bet = .error why) : why = .amount := by
  cases outcome with
  | win => exact amount_of_amount h
  | push => cases h
  | lose => cases h

theorem abortsOnly_deal (bet : Nat) : (deal bet : Action σ ν Output).AbortsOnly p := by
  refine .bind .get fun m => ?_
  dsimp only
  split
  · exact .refuseUsage _
  · split
    · exact .refuseUsage _
    · exact .bind (.onStore _) fun _ => .bind (.onRandom _) fun _ => .bind (.onSession _) fun _ =>
        .pure _

theorem abortsOnly_hit : (hit : Action σ ν Output).AbortsOnly p := by
  refine .bind .get fun m => .bind (.required _ _) fun round =>
    .bind (.required _ _) fun drawn => ?_
  dsimp only
  split <;> exact .bind (.onSession _) fun _ => .pure _

theorem abortsOnly_stand : (stand : Action σ ν Output).AbortsOnly (· = .amount) :=
  .bind .get fun _ => .bind (.required _ _) fun _ => .bind (.onSession _) fun _ =>
    .bind (.ofAbort fun _ h => amount_of_payout h) fun _ =>
      .bind (.ofAbort fun _ h => amount_of_amount h) fun _ => .bind (.onStore _) fun _ => .pure _

theorem abortsOnly_runBlackjack (args : List String) :
    (runBlackjack args : Action σ ν Output).AbortsOnly (· = .amount) := by
  unfold runBlackjack
  split
  · exact .bind .get fun _ => .pure _
  · exact abortsOnly_hit
  · exact abortsOnly_stand
  · exact .bind (.required _ _) fun _ => abortsOnly_deal _

theorem abortsOnly_run [Client ν] (c : Novelty) :
    (c.run call : Action σ ν Output).AbortsOnly (Builtin.novelty c).MayAbort := by
  match c with
  | .snake | .cowsay | .banner => exact .pure _
  | .matrix | .fortune | .joke => exact .bind (.onRandom _) fun _ => .pure _
  | .weather => exact .bind (.onNetwork _) fun _ => .pure _
  | .blackjack =>
    refine (abortsOnly_runBlackjack call.args).mono ?_
    rintro _ rfl
    trivial

end Novelty

theorem Builtin.abortsOnly_run [Backend σ] [Client ν] (c : Builtin) :
    (c.run call : Action σ ν Output).AbortsOnly c.MayAbort := by
  match c with
  | .global c => exact c.abortsOnly_run
  | .development c => exact c.abortsOnly_run
  | .market c => exact c.abortsOnly_run
  | .networking c => exact c.abortsOnly_run
  | .utility c => exact c.abortsOnly_run
  | .filing c => exact c.abortsOnly_run
  | .novelty c => exact c.abortsOnly_run

end DevConsole
