import DevConsole.Proofs.Command.Aborts
import DevConsole.Proofs.Shell.Alert
import DevConsole.Proofs.Shell.Reachable

/-!
# The clock and the polls of the price alert

Whenever an alert is set, and at every tick that finds a poll due, the time of the next poll is
worked out: one interval of the profile from then. A clock ends somewhere, and an interval may be as
long as a configuration says. `Shell.HasNextPoll` says that the clock reaches that time. If it does,
nothing that is typed and no tick aborts for the clock; if it does not, the line that sets an alert
and the tick that finds a poll due abort (`Reachable.polls_unless_past`). An interval as long as the
clock leaves no time at all at which an alert can be set (`not_polls_longest`).
-/

namespace DevConsole

open Net

variable {σ ν : Type}

/-! ## The scheduler -/

namespace Scheduler

variable {c c' : Scheduler} {now : Instant} {alert : Option PriceAlert} {why : Abort}

theorem pollAfter_eq_ok_iff {d : Nat} {next : Instant} :
    pollAfter now d = .ok next ↔
      (now.nanos + d) / Instant.second ≤ Instant.lastSecond ∧ next = ⟨now.nanos + d⟩ := by
  by_cases h : (now.nanos + d) / Instant.second ≤ Instant.lastSecond
  · rw [Shell.pollAfter_of_le h]
    simp [h, eq_comm]
  · rw [Shell.pollAfter_of_lt (Nat.not_le.mp h)]
    simp [h]

theorem pollAfter_eq_error_iff {d : Nat} :
    pollAfter now d = .error why ↔
      why = .instant ∧ ¬(now.nanos + d) / Instant.second ≤ Instant.lastSecond := by
  by_cases h : (now.nanos + d) / Instant.second ≤ Instant.lastSecond
  · rw [Shell.pollAfter_of_le h]
    simp [h]
  · rw [Shell.pollAfter_of_lt (Nat.not_le.mp h)]
    simp [h, eq_comm]

theorem startWatch_eq_ok_iff {new : PriceAlert} {d : Nat} :
    c.startWatch new now d = .ok c' ↔
      ∃ next, pollAfter now d = .ok next ∧ c' = { c with watch := some ⟨new, d, next⟩ } := by
  unfold startWatch
  cases pollAfter now d <;> simp [Except.map, eq_comm]

theorem pollAlert_eq_error_iff :
    c.pollAlert now = .error why ↔ ∃ w, c.watch = some w ∧ w.nextPoll.nanos ≤ now.nanos ∧
      pollAfter now w.interval = .error why := by
  unfold pollAlert
  cases c.watch with
  | none => simp
  | some w =>
    by_cases hdue : now.nanos < w.nextPoll.nanos
    · simp [hdue, Nat.not_le.mpr hdue]
    · cases hnext : pollAfter now w.interval <;> simp [hdue, Nat.not_lt.mp hdue, hnext, Except.map]

theorem watch_of_pollAlert (h : c.pollAlert now = .ok (alert, c')) :
    c'.watch = c.watch ∨ ∃ w next, c.watch = some w ∧ pollAfter now w.interval = .ok next ∧
      c'.watch = some { w with nextPoll := next } := by
  unfold pollAlert at h
  split at h
  · cases h
    exact .inl rfl
  · rename_i w hw
    split at h
    · cases h
      exact .inl rfl
    · cases hnext : pollAfter now w.interval with
      | error a =>
        rw [hnext] at h
        cases h
      | ok next =>
        rw [hnext] at h
        cases h
        exact .inr ⟨w, next, hw, hnext, rfl⟩

end Scheduler

/-! ## The command -/

theorem Builtin.eq_alert_of_mayAbort {c : Builtin} (h : c.MayAbort .instant) :
    c = .market .alert := by
  unfold MayAbort at h
  split at h
  · cases ‹Abort.instant = _›
  · cases ‹Abort.instant = _›
  · rfl
  · cases ‹Abort.instant = _›
  · cases h

namespace Market

variable [Client ν] {call : Call} {m : Machine σ ν}

/-- The arguments set an alert: they name a target, and a symbol with a price. -/
def Sets (network : Network ν) (args : List String) : Prop :=
  ∃ symbol target rest, args = symbol :: target :: rest ∧ (readTarget? target).isSome ∧
    (network.price (Unicode.upper symbol)).1.toOption.isSome

theorem sets_cons_iff {network : Network ν} {symbol target : String} {rest : List String} :
    Sets network (symbol :: target :: rest) ↔ (readTarget? target).isSome ∧
      (network.price (Unicode.upper symbol)).1.toOption.isSome := by
  refine ⟨fun ⟨_, _, _, hargs, h⟩ => ?_, fun h => ⟨symbol, target, rest, rfl, h⟩⟩
  cases hargs
  exact h

instance (network : Network ν) (args : List String) : Decidable (Sets network args) :=
  match args with
  | [] => .isFalse nofun
  | [_] => .isFalse nofun
  | _ :: _ :: _ => decidable_of_iff _ sets_cons_iff.symm

/-- An alert is set unless the clock does not reach its first poll. -/
theorem completes_setAlert_iff {symbol : String} {target : Float} :
    (setAlert symbol target call).Completes m (fun _ _ => True) ↔
      ((m.network.price symbol).1.toOption.isSome →
        (call.now.nanos + Instant.second * call.profile.alertInterval) / Instant.second ≤
          Instant.lastSecond) := by
  simp only [setAlert, Action.completes_bind, Action.completes_price]
  cases (m.network.price symbol).1 with
  | error e =>
    refine iff_of_true trivial fun h => ?_
    cases h
  | ok current =>
    simp only [Action.completes_bind, Action.completes_get, Action.completes_ofAbort,
      Action.completes_set, Action.completes_pure, and_true, Except.toOption, Option.isSome_some,
      forall_const]
    constructor
    · rintro ⟨scheduler, hstart⟩
      obtain ⟨next, hnext, -⟩ := Scheduler.startWatch_eq_ok_iff.mp hstart
      exact (Scheduler.pollAfter_eq_ok_iff.mp hnext).1
    · intro hclock
      have hnext := Scheduler.pollAfter_eq_ok_iff.mpr ⟨hclock, rfl⟩
      exact ⟨_, Scheduler.startWatch_eq_ok_iff.mpr ⟨_, hnext, rfl⟩⟩

theorem completes_runAlert_iff :
    (runAlert call).Completes m (fun _ _ => True) ↔
      (Sets m.network call.args →
        (call.now.nanos + Instant.second * call.profile.alertInterval) / Instant.second ≤
          Instant.lastSecond) := by
  unfold runAlert
  split
  · rename_i hargs
    rw [hargs, Action.completes_bind, Action.completes_get]
    refine iff_of_true ?_ fun ⟨_, _, _, h, _⟩ => nomatch h
    split <;> trivial
  · rename_i hargs
    rw [hargs, Action.completes_bind, Action.completes_onScheduler]
    refine iff_of_true ?_ fun ⟨_, _, _, h, _⟩ => nomatch h
    split <;> trivial
  · rename_i hargs
    rw [hargs]
    exact iff_of_true trivial fun ⟨_, _, _, h, _⟩ => nomatch h
  · rename_i symbol target rest _ hargs
    rw [hargs, sets_cons_iff, Action.completes_bind, Action.completes_required]
    simp only [completes_setAlert_iff, Option.isSome_iff_exists]
    exact ⟨fun h ⟨⟨goal, hgoal⟩, hprice⟩ => h goal hgoal hprice,
      fun h goal hgoal hprice => h ⟨⟨goal, hgoal⟩, hprice⟩⟩

end Market

namespace Shell

variable {s t : Shell σ ν} {now : Instant} {raw : String} {shown : Display} {why : Abort}

/-- The clock reaches the time one interval later. -/
def HasNextPoll (s : Shell σ ν) (now : Instant) : Prop :=
  (now.nanos + Instant.second * s.profile.alertInterval) / Instant.second ≤ Instant.lastSecond

instance (s : Shell σ ν) (now : Instant) : Decidable (s.HasNextPoll now) :=
  inferInstanceAs (Decidable (_ ≤ _))

theorem perform_eq_error_iff {action : Action σ ν Output} :
    s.perform action = .error why ↔ ∃ m, action s.toMachine = .error (.aborted why) m := by
  unfold perform
  cases action s.toMachine with
  | ok output m => simp
  | error stop m => cases stop <;> simp

variable [Backend σ] [Client ν]

/-- A line aborts if its command does. -/
theorem dispatch_eq_error_iff :
    s.dispatch now raw = .error why ↔ ∃ c m, s.Calls (Text.trim raw) c ∧
      c.run (s.callBy now (Text.trim raw)) (s.recorded (Text.trim raw)).toMachine =
        .error (.aborted why) m := by
  constructor
  · intro h
    by_cases hline : Text.trim raw = ""
    · rw [dispatch_of_blank hline] at h
      cases h
    · cases hfound : s.found? (Text.trim raw) with
      | none =>
        rw [dispatch_of_ne hline, execute_recorded, hfound] at h
        cases h
      | some found =>
        obtain ⟨c, rfl, hcalls⟩ := calls_of_found? hfound
        rw [dispatch_of_calls hcalls] at h
        obtain ⟨m, hrun⟩ := perform_eq_error_iff.mp (error_of_map h)
        exact ⟨c, m, hcalls, hrun⟩
  · rintro ⟨c, m, hcalls, hrun⟩
    rw [dispatch_of_calls hcalls, perform_eq_error_iff.mpr ⟨m, hrun⟩]
    rfl

/-- A line sets an alert. -/
structure SetsAlert (s : Shell σ ν) (line : String) : Prop where
  calls : s.Calls line (.market .alert)
  sets : Market.Sets s.network (argsOf line)

instance (s : Shell σ ν) (line : String) : Decidable (s.SetsAlert line) :=
  decidable_of_iff (s.Calls line (.market .alert) ∧ Market.Sets s.network (argsOf line))
    ⟨fun h => ⟨h.1, h.2⟩, fun h => ⟨h.calls, h.sets⟩⟩

/-- The action of a line for the alert. -/
theorem run_alert (call : Call) :
    ((Builtin.market .alert).run call : Action σ ν Output) = Market.runAlert call := rfl

/-- A line for the alert does not abort where the poll that it sets fits. -/
theorem alert_ne_aborted_iff (s : Shell σ ν) (now : Instant) (line : String) :
    (∀ why m, (Builtin.market .alert).run (s.callBy now line) (s.recorded line).toMachine ≠
        .error (.aborted why) m) ↔
      (Market.Sets s.network (argsOf line) → s.HasNextPoll now) := by
  rw [← Action.completes_iff_ne_aborted, run_alert, Market.completes_runAlert_iff, args_callBy]
  rfl

/-- The command for the alert is the only one that aborts for the clock, and it does so where it
sets an alert whose first poll does not fit. -/
theorem dispatch_eq_error_instant_iff :
    s.dispatch now raw = .error .instant ↔
      s.SetsAlert (Text.trim raw) ∧ ¬s.HasNextPoll now := by
  have halert := alert_ne_aborted_iff s now (Text.trim raw)
  rw [dispatch_eq_error_iff]
  constructor
  · rintro ⟨c, m, hcalls, hrun⟩
    obtain rfl := Builtin.eq_alert_of_mayAbort (c.abortsOnly_run.of_aborted hrun)
    have hnot : ¬(Market.Sets s.network (argsOf (Text.trim raw)) → s.HasNextPoll now) := fun h =>
      halert.mpr h .instant m hrun
    obtain ⟨hsets, hpast⟩ := Classical.not_imp.mp hnot
    exact ⟨⟨hcalls, hsets⟩, hpast⟩
  · rintro ⟨⟨hcalls, hsets⟩, hpast⟩
    have hnot := mt halert.mp (Classical.not_imp.mpr ⟨hsets, hpast⟩)
    simp only [not_forall, Classical.not_not] at hnot
    obtain ⟨why, m, hrun⟩ := hnot
    have hwhy := Builtin.abortsOnly_run (.market .alert) |>.of_aborted hrun
    obtain rfl : why = .instant := by
      cases why with
      | instant => rfl
      | _ => cases hwhy
    exact ⟨.market .alert, m, hcalls, hrun⟩

/-- A line for the alert is run if the clock reaches the poll after it. -/
theorem exists_dispatch_of_hasNextPoll (hcalls : s.Calls (Text.trim raw) (.market .alert))
    (h : s.HasNextPoll now) : ∃ t shown, s.dispatch now raw = .ok (t, shown) := by
  cases hd : s.dispatch now raw with
  | ok p => exact ⟨p.1, p.2, rfl⟩
  | error why =>
    obtain ⟨c, m, hc, hrun⟩ := dispatch_eq_error_iff.mp hd
    obtain rfl := hc.unique hcalls
    exact absurd hrun ((alert_ne_aborted_iff s now _).mpr (fun _ => h) why m)

/-! ## Several lines -/

theorem exists_dispatch_of_runAll {lines : List String} (h : runAll now lines s = .error why) :
    ∃ (t : Shell σ ν) (raw : String), t.profile = s.profile ∧ t.dispatch now raw = .error why := by
  induction lines generalizing s with
  | nil => cases h
  | cons line rest ih =>
    rw [runAll] at h
    split at h
    · rename_i hd
      cases h
      exact ⟨s, line, rfl, hd⟩
    · rename_i t first hd
      split at h
      · cases h
      · obtain ⟨u, raw, hu, hraw⟩ := ih (error_of_map h)
        exact ⟨u, raw, hu.trans (profile_dispatch hd), hraw⟩

theorem HasNextPoll.runAll_ne {lines : List String} (h : s.HasNextPoll now) :
    runAll now lines s ≠ .error .instant := by
  intro hrun
  obtain ⟨t, raw, hprofile, hraw⟩ := exists_dispatch_of_runAll hrun
  have ht : t.HasNextPoll now := by
    rw [HasNextPoll, hprofile]
    exact h
  exact (dispatch_eq_error_instant_iff.mp hraw).2 ht

theorem HasNextPoll.processQueue_ne (h : s.HasNextPoll now) :
    s.processQueue now ≠ .error .instant := by
  have hempty : ({ s with queue := [] } : Shell σ ν).HasNextPoll now := h
  rw [processQueue_eq_runAll]
  exact hempty.runAll_ne

theorem HasNextPoll.handle_ne (h : s.HasNextPoll now) (event : InputEvent) :
    s.handle now event ≠ .error .instant := by
  cases event with
  | submit =>
    have hs : ((s.setInput "").submit s.input).HasNextPoll now := h
    exact hs.processQueue_ne
  | _ => exact nofun

/-! ## Ticks -/

/-- It is time to look at the price of an alert. -/
def PollDue (s : Shell σ ν) (now : Instant) : Prop :=
  ∃ w, s.scheduler.watch = some w ∧ w.nextPoll.nanos ≤ now.nanos

omit [Backend σ] in
/-- A tick aborts if the poll after one that is due does not fit. -/
theorem tick_eq_error_iff :
    s.tick now = .error why ↔ ∃ w, s.scheduler.watch = some w ∧ w.nextPoll.nanos ≤ now.nanos ∧
      Scheduler.pollAfter now w.interval = .error why := by
  have hpoll : (s.scheduler.expireTimers now).2.pollAlert now = .error why ↔
      ∃ w, s.scheduler.watch = some w ∧ w.nextPoll.nanos ≤ now.nanos ∧
        Scheduler.pollAfter now w.interval = .error why :=
    Scheduler.pollAlert_eq_error_iff
  rw [← hpoll]
  simp only [tick]
  split <;> rename_i hp <;> simp [hp]

omit [Backend σ] in
theorem watch_of_tick (h : s.tick now = .ok (t, shown)) :
    t.scheduler.watch = s.scheduler.watch ∨ t.scheduler.watch = none ∨
      ∃ w next, s.scheduler.watch = some w ∧ Scheduler.pollAfter now w.interval = .ok next ∧
        t.scheduler.watch = some { w with nextPoll := next } := by
  simp only [tick] at h
  split at h
  · cases h
  · rename_i hpoll
    cases h
    rcases Scheduler.watch_of_pollAlert hpoll with hsame | hnext
    · exact .inl hsame
    · exact .inr (.inr hnext)
  · rename_i alert scheduler hpoll
    obtain ⟨looked, -, hcheck⟩ := checkAlert_spec { s with scheduler } alert
    rw [hcheck] at h
    cases h
    cases looked with
    | nil =>
      rcases Scheduler.watch_of_pollAlert hpoll with hsame | hnext
      · exact .inl hsame
      · exact .inr (.inr hnext)
    | cons e rest => exact .inr (.inl rfl)

/-! ## Reachable shells -/

/-- The alert is looked at in intervals of the profile, and its next poll is one interval after some
reading of the clock. -/
def Polls (s : Shell σ ν) : Prop :=
  ∀ w, s.scheduler.watch = some w → w.interval = Instant.second * s.profile.alertInterval ∧
    ∃ last, Scheduler.pollAfter last w.interval = .ok w.nextPoll

omit [Backend σ] [Client ν] in
theorem Polls.of_eq (h : s.Polls) (hwatch : t.scheduler.watch = s.scheduler.watch)
    (hprofile : t.profile = s.profile) : t.Polls := by
  unfold Polls
  rw [hwatch, hprofile]
  exact h

theorem Polls.dispatch (h : s.Polls) (hd : s.dispatch now raw = .ok (t, shown)) : t.Polls := by
  have hprofile := profile_dispatch hd
  rcases watch_of_dispatch hd with hsame | ⟨-, ⟨-, hnone⟩ | ⟨new, hstart⟩⟩
  · exact h.of_eq hsame hprofile
  · exact fun w hw => nomatch hnone.symm.trans hw
  · intro w hw
    obtain ⟨next, hnext, hset⟩ := Scheduler.startWatch_eq_ok_iff.mp hstart
    rw [hset] at hw
    cases hw
    exact ⟨congrArg (Instant.second * ·.alertInterval) hprofile.symm, now, hnext⟩

omit [Backend σ] in
theorem Polls.tick (h : s.Polls) (ht : s.tick now = .ok (t, shown)) : t.Polls := by
  have hprofile : t.profile = s.profile := by rw [tick_eq ht]
  rcases watch_of_tick ht with hsame | hnone | ⟨w, next, hw, hnext, hset⟩
  · exact h.of_eq hsame hprofile
  · exact fun w hw => nomatch hnone.symm.trans hw
  · intro w' hw'
    obtain rfl := Option.some.inj (hset.symm.trans hw')
    exact ⟨(h w hw).1.trans (by rw [hprofile]), now, hnext⟩

theorem polls_kept : Kept fun s : Shell σ ν => s.Polls where
  alike h hst := h.of_eq (congrArg Scheduler.watch hst.scheduler) hst.profile
  line := Polls.dispatch
  event h he hs := by
    have heq := handle_eq he hs
    exact h.of_eq (congrArg (·.scheduler.watch) heq) (congrArg (·.profile) heq)
  tick := Polls.tick

theorem Reachable.polls (h : s.Reachable) : s.Polls :=
  polls_kept.of_reachable (fun _ _ _ _ _ _ hw => nomatch hw) h

omit [Backend σ] in
/-- A tick aborts if a poll is due and the one after it does not fit. -/
theorem Polls.tick_eq_error_iff (h : s.Polls) :
    s.tick now = .error why ↔ why = .instant ∧ s.PollDue now ∧ ¬s.HasNextPoll now := by
  rw [Shell.tick_eq_error_iff]
  constructor
  · rintro ⟨w, hw, hdue, hpast⟩
    rw [(h w hw).1, Scheduler.pollAfter_eq_error_iff] at hpast
    exact ⟨hpast.1, ⟨w, hw, hdue⟩, hpast.2⟩
  · rintro ⟨rfl, ⟨w, hw, hdue⟩, hpast⟩
    refine ⟨w, hw, hdue, ?_⟩
    rw [(h w hw).1]
    exact Scheduler.pollAfter_eq_error_iff.mpr ⟨rfl, hpast⟩

/-- A line or a tick aborts for the clock if it sets the next poll of an alert and the clock does
not reach it, and for this reason only. -/
theorem Reachable.polls_unless_past (h : s.Reachable) :
    s.Polls ∧
      (∀ now raw, s.dispatch now raw = .error .instant ↔
        s.SetsAlert (Text.trim raw) ∧ ¬s.HasNextPoll now) ∧
      (∀ now why, s.tick now = .error why ↔
        why = .instant ∧ s.PollDue now ∧ ¬s.HasNextPoll now) ∧
      ∀ now, s.HasNextPoll now →
        (∀ raw, s.Calls (Text.trim raw) (.market .alert) →
          ∃ t shown, s.dispatch now raw = .ok (t, shown)) ∧
        s.processQueue now ≠ .error .instant ∧
        (∀ event, s.handle now event ≠ .error .instant) ∧
        ∃ t shown, s.tick now = .ok (t, shown) := by
  have hpolls := h.polls
  refine ⟨hpolls, fun _ _ => dispatch_eq_error_instant_iff, fun _ _ => hpolls.tick_eq_error_iff,
    fun now hnext => ⟨fun _ hcalls => exists_dispatch_of_hasNextPoll hcalls hnext,
      hnext.processQueue_ne, hnext.handle_ne, ?_⟩⟩
  · cases ht : s.tick now with
    | ok p => exact ⟨p.1, p.2, rfl⟩
    | error why => exact absurd hnext (hpolls.tick_eq_error_iff.mp ht).2.2

/-- Five seconds before the end of the clock an alert that is looked at every five seconds is still
set, and its first poll aborts; one second later it cannot be set any more. -/
theorem polls_unless_past_end :
    let store : Store MemoryStore := ⟨{ entries := [(Key.mode, "crypto")] }, []⟩
    let network : Network Table := ⟨⟨[("price:BTC", [.ok (.price 95000)])]⟩, []⟩
    let s : Shell MemoryStore Table := start { alertIntervalSecs := 5 } store network {} ⟨0⟩
    let late : Instant := ⟨(Instant.lastSecond - 5) * Instant.second⟩
    s.Reachable ∧
      (∃ t shown, s.dispatch late "alert BTC 100000" = .ok (t, shown) ∧
        t.tick ⟨Instant.lastSecond * Instant.second⟩ = .error .instant) ∧
      s.dispatch ⟨late.nanos + Instant.second⟩ "alert BTC 100000" = .error .instant := by
  intro store network s late
  have hs : s.Reachable := .start _ _ _ _ _
  have htrim : Text.trim "alert BTC 100000" = "alert BTC 100000" := by decide +kernel
  have hsets : s.SetsAlert (Text.trim "alert BTC 100000") := by
    rw [htrim]
    decide +kernel
  have hlate : s.HasNextPoll late := by decide +kernel
  have hpast : ¬s.HasNextPoll ⟨late.nanos + Instant.second⟩ := by decide +kernel
  have hset : (s.dispatch late "alert BTC 100000").toOption.bind (fun p =>
      p.1.scheduler.watch.map Watch.nextPoll) = some ⟨Instant.lastSecond * Instant.second⟩ := by
    decide +kernel
  obtain ⟨-, hline, -, hnext⟩ := hs.polls_unless_past
  obtain ⟨t, shown, ht⟩ := (hnext late hlate).1 _ hsets.calls
  rw [ht] at hset
  obtain ⟨w, hw, hpoll⟩ := Option.map_eq_some_iff.mp hset
  obtain ⟨-, -, htick, -⟩ := (hs.dispatch ht).polls_unless_past
  have hend : ¬t.HasNextPoll ⟨Instant.lastSecond * Instant.second⟩ := by
    rw [HasNextPoll, profile_dispatch ht]
    decide +kernel
  exact ⟨hs, ⟨t, shown, ht, (htick _ _).mpr ⟨rfl, ⟨w, hw, by rw [hpoll]⟩, hend⟩⟩,
    (hline _ _).mpr ⟨hsets, hpast⟩⟩

/-- The longest interval that a configuration file can ask for: the first alert aborts. -/
theorem not_polls_longest :
    let store : Store MemoryStore := ⟨{ entries := [(Key.mode, "crypto")] }, []⟩
    let network : Network Table := ⟨⟨[("price:BTC", [.ok (.price 95000)])]⟩, []⟩
    let s : Shell MemoryStore Table :=
      start { alertIntervalSecs := 9223372036854775807 } store network {} ⟨0⟩
    s.Reachable ∧ s.dispatch ⟨1000000000⟩ "alert BTC 100000" = .error .instant := by
  intro store network s
  have htrim : Text.trim "alert BTC 100000" = "alert BTC 100000" := by decide +kernel
  have hsets : s.SetsAlert "alert BTC 100000" := by decide +kernel
  refine ⟨.start _ _ _ _ _, dispatch_eq_error_instant_iff.mpr ⟨?_, by decide +kernel⟩⟩
  rwa [htrim]

end Shell
end DevConsole
