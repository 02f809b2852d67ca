import DevConsole.Proofs.Shell.Footprint
import Mathlib.Data.List.Pairwise

/-!
# The price alert over a run

`Shell.Since` follows a shell from the moment an alert is set until another one is: the alert may be
stopped, time may go by in ticks, and anything else may happen that leaves the alert alone. What the
ticks have asked and shown on the way is recorded. `Due` tells from this record alone whether it is
time to look at the price: one interval after the last look, or after the alert was set. The
scheduler keeps to the record (`Since.watch_eq`). So the price is looked at exactly then, and the
alert is shown at the first look that finds it reached, and never again (`polled_since`). But a look
aborts if the clock does not reach the time of the next one (`not_polled_past`).
-/

namespace DevConsole.Shell

open Net

variable {σ ν : Type} {alert : PriceAlert} {t₀ now : Instant} {d : Nat} {asked : List Query}
  {shown : Display}

/-! ## What ticks show -/

/-- The lines of the timers that have run out. -/
def timerLines (s : Shell σ ν) (now : Instant) : Display :=
  (s.scheduler.expireTimers now).1.map fun seconds =>
    .write (.success ("TIMER DONE: " ++ toString seconds ++ " seconds elapsed."))

/-- The line that says that an alert has come true. -/
def alertLine (alert : PriceAlert) (price : Float) : DisplayEvent :=
  .write (.success ("ALERT: " ++ alert.symbol ++ " reached " ++ Decimal.dollars price ++
    " (target " ++ Decimal.dollars alert.target ++ ")"))

/-- What is shown after a look at the price of an alert. -/
inductive Shows (alert : PriceAlert) : Except Error Float → Display → Prop
  | reached {price : Float} : alert.isReached price = true →
      Shows alert (.ok price) [alertLine alert price]
  | unreached {price : Float} : alert.isReached price = false → Shows alert (.ok price) []
  | failed (e : Error) : Shows alert (.error e) []

/-- The shell after a tick: the timers that have run out are gone, and the alert and the network are
these. -/
def ticked (s : Shell σ ν) (now : Instant) (watch : Option Watch) (network : Network ν) :
    Shell σ ν :=
  { s with scheduler := { (s.scheduler.expireTimers now).2 with watch }, network }

/-! ## The record of an alert -/

/-- What happens to an alert that has been set. -/
inductive Happening (ν : Type) where
  | stopped
  /-- A tick, with the network as it finds it, what it asks there, and what it shows besides the
  lines of the timers. -/
  | ticked (now : Instant) (network : Network ν) (asked : List Query) (shown : Display)

namespace Happening

/-- Whether it puts an end to the alert. -/
def isEnd : Happening ν → Bool
  | .stopped => true
  | .ticked _ _ _ shown => !shown.isEmpty

/-- The time of a look at the price. -/
def look? : Happening ν → Option Instant
  | .stopped => none
  | .ticked now _ asked _ => if asked.isEmpty then none else some now

end Happening

variable {es : List (Happening ν)}

/-- The times of the looks at the price. -/
def looks (es : List (Happening ν)) : List Instant := es.filterMap Happening.look?

/-- The time of the last look, or of setting the alert. -/
def lastLook (t₀ : Instant) (es : List (Happening ν)) : Instant := (looks es).getLastD t₀

/-- The alert is still there, and an interval has gone by since the last look. -/
structure Due (t₀ : Instant) (d : Nat) (es : List (Happening ν)) (now : Instant) : Prop where
  active : ∀ e ∈ es, e.isEnd = false
  elapsed : (lastLook t₀ es).nanos + d ≤ now.nanos

/-- What the scheduler is to watch after all that has happened. -/
def watchSince (alert : PriceAlert) (t₀ : Instant) (d : Nat) (es : List (Happening ν)) :
    Option Watch :=
  if es.any Happening.isEnd then none else some ⟨alert, d, ⟨(lastLook t₀ es).nanos + d⟩⟩

theorem Due.watchSince_eq (h : Due t₀ d es now) (alert : PriceAlert) :
    watchSince alert t₀ d es = some ⟨alert, d, ⟨(lastLook t₀ es).nanos + d⟩⟩ :=
  if_neg (by simpa using h.active)

theorem due_of_watchSince {w : Watch} (hw : watchSince alert t₀ d es = some w)
    (hdue : w.nextPoll.nanos ≤ now.nanos) : Due t₀ d es now := by
  unfold watchSince at hw
  split at hw
  · cases hw
  · rename_i hactive
    cases hw
    exact ⟨by simpa using hactive, hdue⟩

theorem looks_append_stopped : looks (es ++ [.stopped]) = looks es := by
  unfold looks
  rw [List.filterMap_append]
  exact List.append_nil _

theorem looks_append_ticked (n : Network ν) : looks (es ++ [.ticked now n asked shown]) =
    looks es ++ if asked.isEmpty then [] else [now] := by
  unfold looks
  rw [List.filterMap_append]
  cases asked <;> rfl

theorem watchSince_stopped : watchSince alert t₀ d (es ++ [.stopped]) = none :=
  if_pos (by simp [Happening.isEnd])

/-- A tick that asks nothing does not count. -/
theorem watchSince_idle (n : Network ν) :
    watchSince alert t₀ d (es ++ [.ticked now n [] []]) = watchSince alert t₀ d es := by
  simp [watchSince, lastLook, looks_append_ticked, Happening.isEnd]

theorem watchSince_look (hactive : ∀ e ∈ es, e.isEnd = false) (n : Network ν) (q : Query) :
    watchSince alert t₀ d (es ++ [.ticked now n [q] shown]) =
      if shown.isEmpty then some ⟨alert, d, ⟨now.nanos + d⟩⟩ else none := by
  have hany : es.any Happening.isEnd = false := by simpa using hactive
  cases shown <;> simp [watchSince, lastLook, looks_append_ticked, Happening.isEnd, hany]

/-- No look is later than the last. -/
theorem le_lastLook (h : (t₀ :: looks es).Pairwise fun a b => a.nanos + d ≤ b.nanos) :
    ∀ a ∈ t₀ :: looks es, a.nanos ≤ (lastLook t₀ es).nanos := by
  have hmono : (t₀ :: looks es).Pairwise fun a b => a.nanos ≤ b.nanos :=
    h.imp fun hab => Nat.le_of_add_right_le hab
  have hrefl : Std.Refl fun a b : Instant => a.nanos ≤ b.nanos := ⟨fun a => Nat.le_refl _⟩
  intro a ha
  have hlast := hmono.rel_getLast ha
  rwa [List.getLast_eq_getLastD] at hlast

/-- Where one of some happenings is told apart, it is the last or one before it. -/
theorem append_singleton_cases {e x : Happening ν} {early late : List (Happening ν)}
    (h : es ++ [e] = early ++ x :: late) :
    es = early ∧ e = x ∧ late = [] ∨ ∃ late', late = late' ++ [e] ∧ es = early ++ x :: late' := by
  rcases late.eq_nil_or_concat with rfl | ⟨late', last, rfl⟩
  · obtain ⟨hes, he⟩ := List.append_inj' h rfl
    exact .inl ⟨hes, (List.cons.inj he).1, rfl⟩
  · rw [List.concat_eq_append] at h ⊢
    rw [← List.cons_append, ← List.append_assoc] at h
    obtain ⟨hes, he⟩ := List.append_inj' h rfl
    exact .inr ⟨late', by rw [(List.cons.inj he).1], hes⟩

/-! ## One tick -/

theorem pollAfter_of_le (h : (now.nanos + d) / Instant.second ≤ Instant.lastSecond) :
    Scheduler.pollAfter now d = .ok ⟨now.nanos + d⟩ := by
  simp only [Scheduler.pollAfter, Instant.add?, if_pos h]

theorem pollAfter_of_lt (h : Instant.lastSecond < (now.nanos + d) / Instant.second) :
    Scheduler.pollAfter now d = .error .instant := by
  simp only [Scheduler.pollAfter, Instant.add?, if_neg (Nat.not_le.mpr h)]

theorem pollAlert_of_due {c : Scheduler} {w : Watch} (hw : c.watch = some w)
    (hdue : w.nextPoll.nanos ≤ now.nanos) :
    c.pollAlert now = (Scheduler.pollAfter now w.interval).map fun nextPoll =>
      (some w.alert, { c with watch := some { w with nextPoll } }) := by
  unfold Scheduler.pollAlert
  rw [hw]
  exact if_neg (Nat.not_lt.mpr hdue)

variable [Client ν] {s t : Shell σ ν}

theorem asked_price (n : Network ν) (symbol : String) :
    (n.price symbol).2.asked = n.asked ++ [.price symbol] := rfl

theorem checkAlert_spec (s : Shell σ ν) (alert : PriceAlert) :
    ∃ shown, Shows alert (s.network.price alert.symbol).1 shown ∧
      s.checkAlert alert =
        ({ s with
            network := (s.network.price alert.symbol).2
            scheduler := if shown.isEmpty then s.scheduler else s.scheduler.stopWatch.2 },
          shown) := by
  unfold checkAlert
  cases hanswer : s.network.price alert.symbol with
  | mk answer network =>
    cases answer with
    | error e => exact ⟨[], .failed e, rfl⟩
    | ok price =>
      cases hreached : alert.isReached price with
      | false => exact ⟨[], .unreached hreached, by simp [firedAt?, hreached]⟩
      | true => exact ⟨_, .reached hreached, by simp [firedAt?, hreached, alertLine]⟩

/-- Before its time nothing happens to an alert. -/
theorem tick_of_not_due (hwatch : s.scheduler.watch = watchSince alert t₀ d es)
    (h : ¬Due t₀ d es now) :
    s.tick now = .ok (s.ticked now s.scheduler.watch s.network, s.timerLines now) := by
  have hpoll : (s.scheduler.expireTimers now).2.pollAlert now =
      .ok (none, (s.scheduler.expireTimers now).2) := by
    unfold Scheduler.pollAlert
    cases hw : (s.scheduler.expireTimers now).2.watch with
    | none => rfl
    | some w =>
      exact if_pos (Nat.not_le.mp fun hdue => h (due_of_watchSince (hwatch.symm.trans hw) hdue))
  unfold tick
  simp only [hpoll]
  rfl

/-- When its time has come, the price of an alert is looked at. -/
theorem tick_of_due (hwatch : s.scheduler.watch = watchSince alert t₀ d es)
    (h : Due t₀ d es now) (hclock : (now.nanos + d) / Instant.second ≤ Instant.lastSecond) :
    ∃ shown, Shows alert (s.network.price alert.symbol).1 shown ∧
      s.tick now = .ok
        (s.ticked now (if shown.isEmpty then some ⟨alert, d, ⟨now.nanos + d⟩⟩ else none)
            (s.network.price alert.symbol).2,
          s.timerLines now ++ shown) := by
  have hpoll := pollAlert_of_due (c := (s.scheduler.expireTimers now).2)
    (hwatch.trans (h.watchSince_eq alert)) h.elapsed
  rw [pollAfter_of_le hclock] at hpoll
  -- the shell whose alert is looked at
  let r := s.ticked now (some ⟨alert, d, ⟨now.nanos + d⟩⟩) s.network
  obtain ⟨shown, hshows, hcheck⟩ := checkAlert_spec r alert
  have htick : s.tick now =
      .ok ((r.checkAlert alert).1, s.timerLines now ++ (r.checkAlert alert).2) := by
    unfold tick
    simp only [hpoll]
    rfl
  refine ⟨shown, hshows, ?_⟩
  rw [htick, hcheck]
  cases shown <;> rfl

theorem tick_of_past (hwatch : s.scheduler.watch = watchSince alert t₀ d es)
    (h : Due t₀ d es now) (hpast : Instant.lastSecond < (now.nanos + d) / Instant.second) :
    s.tick now = .error .instant := by
  have hpoll := pollAlert_of_due (c := (s.scheduler.expireTimers now).2)
    (hwatch.trans (h.watchSince_eq alert)) h.elapsed
  rw [pollAfter_of_lt hpast] at hpoll
  unfold tick
  simp only [hpoll]
  rfl

/-- What a tick has asked and shown besides the lines of the timers. -/
theorem tick_cases (hwatch : s.scheduler.watch = watchSince alert t₀ d es)
    (htick : s.tick now = .ok (t, s.timerLines now ++ shown))
    (hasked : t.network.asked = s.network.asked ++ asked) :
    ¬Due t₀ d es now ∧ asked = [] ∧ shown = [] ∧ t.scheduler.watch = s.scheduler.watch ∨
      Due t₀ d es now ∧ asked = [.price alert.symbol] ∧
        Shows alert (s.network.price alert.symbol).1 shown ∧
          t.scheduler.watch =
            if shown.isEmpty then some ⟨alert, d, ⟨now.nanos + d⟩⟩ else none := by
  by_cases hdue : Due t₀ d es now
  · rcases Nat.lt_or_ge Instant.lastSecond ((now.nanos + d) / Instant.second) with hpast | hclock
    · rw [tick_of_past hwatch hdue hpast] at htick
      cases htick
    · obtain ⟨shown', hshows, hlook⟩ := tick_of_due hwatch hdue hclock
      obtain ⟨ht, hshown⟩ := Prod.mk.inj (Except.ok.inj (hlook.symm.trans htick))
      obtain rfl := List.append_cancel_left hshown
      subst ht
      exact .inr ⟨hdue, (List.append_cancel_left hasked).symm, hshows, rfl⟩
  · have hidle := tick_of_not_due hwatch hdue
    obtain ⟨ht, hshown⟩ := Prod.mk.inj (Except.ok.inj (hidle.symm.trans htick))
    subst ht
    exact .inl ⟨hdue, List.self_eq_append_right.mp hasked, List.self_eq_append_right.mp hshown, rfl⟩

/-! ## From one alert to the next -/

/-- The alert has been set at the time `t₀`, on any shell, to be looked at in intervals of `d`
nanoseconds. Since then no other one has been set, and this is what has happened to it. -/
inductive Since (alert : PriceAlert) (t₀ : Instant) (d : Nat) :
    List (Happening ν) → Shell σ ν → Prop
  | armed {s : Shell σ ν} {scheduler : Scheduler} :
      s.scheduler.startWatch alert t₀ d = .ok scheduler →
      Since alert t₀ d [] { s with scheduler }
  /-- Anything that leaves the alert alone. The network may become any other. -/
  | apart {es : List (Happening ν)} {s t : Shell σ ν} :
      Since alert t₀ d es s → t.scheduler.watch = s.scheduler.watch → Since alert t₀ d es t
  | stopped {es : List (Happening ν)} {s : Shell σ ν} : Since alert t₀ d es s →
      Since alert t₀ d (es ++ [.stopped]) { s with scheduler := s.scheduler.stopWatch.2 }
  | ticked {es : List (Happening ν)} {s t : Shell σ ν} {now : Instant} {asked : List Query}
      {shown : Display} : Since alert t₀ d es s →
      s.tick now = .ok (t, s.timerLines now ++ shown) →
      t.network.asked = s.network.asked ++ asked →
      Since alert t₀ d (es ++ [.ticked now s.network asked shown]) t

/-- The scheduler keeps to the record. -/
theorem Since.watch_eq (h : Since alert t₀ d es t) :
    t.scheduler.watch = watchSince alert t₀ d es := by
  induction h with
  | @armed s scheduler hstart =>
    unfold Scheduler.startWatch at hstart
    rcases Nat.lt_or_ge Instant.lastSecond ((t₀.nanos + d) / Instant.second) with hpast | hclock
    · rw [pollAfter_of_lt hpast] at hstart
      cases hstart
    · rw [pollAfter_of_le hclock] at hstart
      cases hstart
      rfl
  | apart _ hapart ih => exact hapart.trans ih
  | stopped => exact watchSince_stopped.symm
  | ticked _ htick hasked ih =>
    obtain ⟨-, rfl, rfl, hsame⟩ | ⟨hdue, rfl, -, hwatch⟩ := tick_cases ih htick hasked
    · rw [hsame, ih, watchSince_idle]
    · rw [hwatch, watchSince_look hdue.active]

/-- What the record of an alert looks like, and whether the alert is still there. -/
structure Regular (alert : PriceAlert) (t₀ : Instant) (d : Nat) (es : List (Happening ν))
    (t : Shell σ ν) : Prop where
  /-- The alert stays until it is stopped or shown. -/
  active : t.scheduler.alert? = if es.any Happening.isEnd then none else some alert
  /-- A tick asks once if it is time, and not at all else; what it shows is up to the answer. -/
  ticks : ∀ early now network asked shown late,
    es = early ++ .ticked now network asked shown :: late →
      (Due t₀ d early now →
        asked = [.price alert.symbol] ∧ Shows alert (network.price alert.symbol).1 shown) ∧
      (¬Due t₀ d early now → asked = [] ∧ shown = [])
  /-- All looks lie an interval apart, and the first one an interval after the setting. -/
  spaced : (t₀ :: looks es).Pairwise fun a b => a.nanos + d ≤ b.nanos
  /-- Once the alert is over, nothing is asked or shown any more. -/
  ended : ∀ early e late, es = early ++ e :: late → e.isEnd = true →
    ∀ now network asked shown, .ticked now network asked shown ∈ late → asked = [] ∧ shown = []

/-- What the next tick comes to. -/
structure NextTick (alert : PriceAlert) (t₀ : Instant) (d : Nat) (es : List (Happening ν))
    (t : Shell σ ν) (now : Instant) : Prop where
  idle : ¬Due t₀ d es now →
    t.tick now = .ok (t.ticked now t.scheduler.watch t.network, t.timerLines now)
  look : Due t₀ d es now → (now.nanos + d) / Instant.second ≤ Instant.lastSecond →
    ∃ answer network watch shown, t.network.price alert.symbol = (answer, network) ∧
      t.tick now = .ok (t.ticked now watch network, t.timerLines now ++ shown) ∧
        network.asked = t.network.asked ++ [.price alert.symbol] ∧ Shows alert answer shown ∧
          watch.map Watch.alert = if shown.isEmpty then some alert else none
  past : Due t₀ d es now → Instant.lastSecond < (now.nanos + d) / Instant.second →
    t.tick now = .error .instant

namespace Since

theorem ticks (h : Since alert t₀ d es t) {early late : List (Happening ν)} {network : Network ν}
    (hes : es = early ++ .ticked now network asked shown :: late) :
    (Due t₀ d early now →
      asked = [.price alert.symbol] ∧ Shows alert (network.price alert.symbol).1 shown) ∧
    (¬Due t₀ d early now → asked = [] ∧ shown = []) := by
  induction h generalizing late with
  | armed => simp at hes
  | apart _ _ ih => exact ih hes
  | stopped _ ih =>
    obtain ⟨-, hstop, -⟩ | ⟨late', -, hes⟩ := append_singleton_cases hes
    · cases hstop
    · exact ih hes
  | ticked h htick hasked ih =>
    obtain ⟨rfl, hlast, -⟩ | ⟨late', -, hes⟩ := append_singleton_cases hes
    · cases hlast
      obtain ⟨hnot, hnone, hnothing, -⟩ | ⟨hdue, hprice, hshows, -⟩ :=
        tick_cases h.watch_eq htick hasked
      · exact ⟨fun hdue => absurd hdue hnot, fun _ => ⟨hnone, hnothing⟩⟩
      · exact ⟨fun _ => ⟨hprice, hshows⟩, fun hnot => absurd hdue hnot⟩
    · exact ih hes

theorem spaced (h : Since alert t₀ d es t) :
    (t₀ :: looks es).Pairwise fun a b => a.nanos + d ≤ b.nanos := by
  induction h with
  | armed => exact List.pairwise_singleton _ _
  | apart _ _ ih => exact ih
  | stopped _ ih => rwa [looks_append_stopped]
  | @ticked es s t now asked shown h htick hasked ih =>
    rw [looks_append_ticked]
    obtain ⟨-, rfl, -, -⟩ | ⟨hdue, rfl, -, -⟩ := tick_cases h.watch_eq htick hasked
    · simpa using ih
    · have hlater : ∀ a ∈ t₀ :: looks es, a.nanos + d ≤ now.nanos := fun a ha =>
        Nat.le_trans (Nat.add_le_add_right (le_lastLook ih a ha) d) hdue.elapsed
      rw [← List.cons_append]
      exact List.pairwise_append.mpr ⟨ih, List.pairwise_singleton _ _, by simpa using hlater⟩

theorem regular (h : Since alert t₀ d es t) : Regular alert t₀ d es t where
  active := by
    unfold Scheduler.alert?
    rw [h.watch_eq, watchSince]
    cases es.any Happening.isEnd <;> rfl
  ticks _ _ _ _ _ _ hes := h.ticks hes
  spaced := h.spaced
  ended early e late hes hend now network asked shown hlate := by
    obtain ⟨between, rest, rfl⟩ := List.append_of_mem hlate
    rw [← List.cons_append, ← List.append_assoc] at hes
    refine (h.ticks hes).2 fun hdue => ?_
    rw [hdue.active e (by simp)] at hend
    cases hend

theorem nextTick (h : Since alert t₀ d es t) (now : Instant) : NextTick alert t₀ d es t now where
  idle hnot := tick_of_not_due h.watch_eq hnot
  look hdue hclock := by
    obtain ⟨shown, hshows, htick⟩ := tick_of_due h.watch_eq hdue hclock
    refine ⟨_, _, _, shown, rfl, htick, asked_price _ _, hshows, ?_⟩
    cases shown <;> rfl
  past hdue hpast := tick_of_past h.watch_eq hdue hpast

end Since

/-! ## Lines and ticks -/

variable [Backend σ] {raw : String}

/-- What a line without blanks around it can do to the alert: the command for it stops it or sets
one, and any other line leaves it alone. -/
theorem watch_of_dispatch (h : s.dispatch now raw = .ok (t, shown)) :
    t.scheduler.watch = s.scheduler.watch ∨
      s.Calls (Text.trim raw) (.market .alert) ∧
        (argsOf (Text.trim raw) = ["stop"] ∧ t.scheduler.watch = none ∨
          ∃ new, t.scheduler.startWatch new now (Instant.second * s.profile.alertInterval) =
            .ok t.scheduler) := by
  have hruns := runs_of_dispatch h
  generalize t.toMachine = m at hruns ⊢
  cases hruns with
  | blank => exact .inl rfl
  | refused => exact .inl rfl
  | called hcalls hacts =>
    obtain ⟨e, hdoes, hafter⟩ := hacts
    rw [congrArg Machine.scheduler hafter]
    cases hdoes with
    | stopAlert hargs =>
      rw [args_callBy] at hargs
      exact .inr ⟨hcalls, .inl ⟨hargs, rfl⟩⟩
    | @watch symbol _ _ goal current next _ _ _ hnext =>
      have hnext : Scheduler.pollAfter now (Instant.second * s.profile.alertInterval) =
        .ok next := hnext
      refine .inr ⟨hcalls, .inr ⟨.new (Unicode.upper symbol) goal current, ?_⟩⟩
      unfold Scheduler.startWatch
      rw [hnext]
      rfl
    | _ => exact .inl rfl

theorem Since.dispatch (h : Since alert t₀ d es s) (hd : s.dispatch now raw = .ok (t, shown)) :
    Since alert t₀ d es t ∨
      s.Calls (Text.trim raw) (.market .alert) ∧
        (argsOf (Text.trim raw) = ["stop"] ∧ Since alert t₀ d (es ++ [.stopped]) t ∨
          ∃ new, Since new now (Instant.second * s.profile.alertInterval) [] t) := by
  obtain hsame | ⟨hcalls, ⟨hargs, hnone⟩ | ⟨new, hnew⟩⟩ := watch_of_dispatch hd
  · exact .inl (h.apart hsame)
  · exact .inr ⟨hcalls, .inl ⟨hargs, h.stopped.apart hnone⟩⟩
  · exact .inr ⟨hcalls, .inr ⟨new, .armed hnew⟩⟩

/-- Since an alert has been set, ticks have looked at its price when an interval had gone by and at
no other time, until it was stopped or shown; the next tick does so as well, if the clock reaches
the look after it. A line stops the alert or sets one anew only by the command for it. -/
theorem polled_since (h : Since alert t₀ d es t) :
    Regular alert t₀ d es t ∧ (∀ now, NextTick alert t₀ d es t now) ∧
      ∀ now raw u shown, t.dispatch now raw = .ok (u, shown) →
        Since alert t₀ d es u ∨
          t.Calls (Text.trim raw) (.market .alert) ∧
            (argsOf (Text.trim raw) = ["stop"] ∧ Since alert t₀ d (es ++ [.stopped]) u ∨
              ∃ new, Since new now (Instant.second * t.profile.alertInterval) [] u) :=
  ⟨h.regular, h.nextTick, fun _ _ _ _ => h.dispatch⟩

/-- A tick long after the first look was due: the network fails then, and the price that it has for
the next look is not asked for before another interval has gone by. -/
theorem polled_since_late :
    let alert : PriceAlert := ⟨"BTC", 1, .above⟩
    ∃ (t : Shell MemoryStore Table) (es : List (Happening Table)),
      Since alert ⟨0⟩ 10000000000 es t ∧ Regular alert ⟨0⟩ 10000000000 es t ∧
        looks es = [⟨25000000000⟩] ∧
        t.scheduler.alert? = some alert ∧
          (∃ u, t.tick ⟨34999999999⟩ = .ok (u, []) ∧ u.network.asked = [.price "BTC"]) ∧
            ∃ u shown, t.tick ⟨35000000000⟩ = .ok (u, shown) ∧ Shows alert (.ok 2) shown ∧
              u.network.asked = [.price "BTC", .price "BTC"] := by
  intro alert
  obtain ⟨n, hfail, hquote, hnone⟩ : ∃ n : Network Table,
      (n.price "BTC").1 = .error Table.missing ∧
        ((n.price "BTC").2.price "BTC").1 = .ok 2 ∧ n.asked = [] :=
    ⟨⟨⟨[("price:BTC", [.error Table.missing, .ok (.price 2)])]⟩, []⟩, rfl, by rfl, rfl⟩
  let s : Shell MemoryStore Table := start {} ⟨{}, []⟩ n {} ⟨0⟩
  let r : Shell MemoryStore Table :=
    { s with scheduler := ⟨[], some ⟨alert, 10000000000, ⟨10000000000⟩⟩⟩ }
  have hstart : s.scheduler.startWatch alert ⟨0⟩ 10000000000 = .ok r.scheduler := by
    rw [Scheduler.startWatch, pollAfter_of_le (by decide +kernel)]
    rfl
  have hr : Since alert ⟨0⟩ 10000000000 [] r := .armed hstart
  have hfirst : Due ⟨0⟩ 10000000000 ([] : List (Happening Table)) ⟨25000000000⟩ :=
    ⟨nofun, by decide⟩
  obtain ⟨answer, network, watch, shown, hprice, htick, hasked, hshows, -⟩ :=
    ((polled_since hr).2.1 ⟨25000000000⟩).look hfirst (by decide +kernel)
  obtain ⟨hanswer, rfl⟩ : (n.price "BTC").1 = answer ∧ (n.price "BTC").2 = network :=
    Prod.mk.inj hprice
  rw [← hanswer, hfail] at hshows
  cases hshows
  let es : List (Happening Table) := [.ticked ⟨25000000000⟩ n [.price "BTC"] []]
  have hlast : lastLook ⟨0⟩ es = ⟨25000000000⟩ := rfl
  have ht : Since alert ⟨0⟩ 10000000000 es _ := hr.ticked htick hasked
  obtain ⟨hregular, hnext, -⟩ := polled_since ht
  have hlines : ∀ now, (r.ticked ⟨25000000000⟩ watch (n.price "BTC").2).timerLines now = [] := by
    intro now
    simp [timerLines, Shell.ticked, r, Scheduler.expireTimers]
  have hone : (n.price "BTC").2.asked = [.price "BTC"] := by
    rw [asked_price, hnone, List.nil_append]
  refine ⟨_, _, ht, hregular, rfl, hregular.active, ?_, ?_⟩
  · have hidle := (hnext ⟨34999999999⟩).idle fun hdue => by
      have helapsed := hdue.elapsed
      rw [hlast] at helapsed
      exact absurd helapsed (by decide)
    rw [hlines] at hidle
    exact ⟨_, hidle, hone⟩
  · obtain ⟨answer, network, watch', shown, hprice, htick, hasked, hshows, -⟩ :=
      (hnext ⟨35000000000⟩).look ⟨by simp [es, Happening.isEnd], by simp [hlast]⟩
        (by decide +kernel)
    rw [hlines] at htick
    obtain ⟨hanswer, rfl⟩ :
        ((n.price "BTC").2.price "BTC").1 = answer ∧ ((n.price "BTC").2.price "BTC").2 = network :=
      Prod.mk.inj hprice
    rw [← hanswer, hquote] at hshows
    refine ⟨_, _, htick, hshows, hasked.trans ?_⟩
    exact congrArg (· ++ [Query.price "BTC"]) hone

/-- An interval that takes half of the time the clock can show: the alert is set, and the first tick
at which it is due aborts. -/
theorem not_polled_past :
    let half : Nat := 4611686018427387904 * Instant.second
    let alert : PriceAlert := ⟨"BTC", 1, .above⟩
    ∃ t : Shell MemoryStore Offline, Instant.second * t.profile.alertInterval = half ∧
      Since alert ⟨0⟩ half [] t ∧ Due ⟨0⟩ half ([] : List (Happening Offline)) ⟨half⟩ ∧
        t.tick ⟨half⟩ = .error .instant := by
  intro half alert
  let s : Shell MemoryStore Offline :=
    start { alertIntervalSecs := 4611686018427387904 } ⟨{}, []⟩ ⟨⟨⟩, []⟩ {} ⟨0⟩
  have hstart : s.scheduler.startWatch alert ⟨0⟩ half = .ok ⟨[], some ⟨alert, half, ⟨half⟩⟩⟩ := by
    unfold Scheduler.startWatch
    rw [pollAfter_of_le (by decide +kernel), Nat.zero_add]
    rfl
  have hdue : Due ⟨0⟩ half ([] : List (Happening Offline)) ⟨half⟩ := ⟨nofun, by decide +kernel⟩
  have ht : Since alert ⟨0⟩ half [] { s with scheduler := _ } := .armed hstart
  exact ⟨_, by decide +kernel, ht, hdue, tick_of_past ht.watch_eq hdue (by decide +kernel)⟩

end DevConsole.Shell
