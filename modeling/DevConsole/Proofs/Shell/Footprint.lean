import DevConsole.Proofs.Command.Footprint
import DevConsole.Proofs.Shell.Dispatch

/-!
# The footprint of lines

`Shell.Footprint` bounds what running one line changes. A facet of the machine changes only if the
line calls one of the commands of the table `Facet.changers`, in the mode of that command, and what
is written to the store is what the table `Builtin.Writes` lists for the command called. A tick
changes the scheduler and asks the network, nothing else (`tick_eq`).
-/

namespace DevConsole.Shell

open Files Net

variable {σ ν : Type} {s s' : Shell σ ν} {now : Instant} {line : String} {shown : Display}

theorem same_recorded (s : Shell σ ν) (line : String) (f : Facet) :
    f.Same s.toMachine (s.recorded line).toMachine := by cases f <;> rfl

/-- A tick changes the scheduler, and may ask the network. -/
theorem tick_eq [Client ν] (h : s.tick now = .ok (s', shown)) :
    s' = { s with scheduler := s'.scheduler, network := s'.network } := by
  simp only [tick] at h
  split at h
  · cases h
  · cases h
    rfl
  · cases h
    simp only [checkAlert]
    split <;> rfl

/-- Where no timer and no alert is set, a tick does nothing. -/
theorem tick_of_idle [Client ν] (h : s.scheduler = {}) : s.tick now = .ok (s, []) := by
  obtain ⟨m, profile, clock, queue, input, exitRequested, program⟩ := s
  obtain ⟨session, volume, store, scheduler, random, network⟩ := m
  cases h
  simp [tick, Scheduler.expireTimers, Scheduler.pollAlert]

variable [Backend σ]

/-! ## Writes -/

/-- At the start the files are stored at most. -/
theorem exists_calls_of_start (config : Config) (store : Store σ) (network : Network ν)
    (clock : Clock) (random : Random) :
    ∃ ws, (start config store network clock random).store = store.calls ws ∧
      ∀ w ∈ ws, w.key = Key.fs := by
  have hstore : (start config store network clock random).store = (Volume.load store).2 := rfl
  rw [hstore]
  unfold Volume.load
  split
  · exact ⟨[], rfl, fun w hw => absurd hw List.not_mem_nil⟩
  · exact ⟨[.set Key.fs _], rfl, fun w hw => by rw [List.mem_singleton.mp hw]; rfl⟩

/-- A line asks the store for writes and does nothing else to it. -/
theorem exists_calls_of_dispatch [Client ν] (hd : s.dispatch now raw = .ok (s', shown)) :
    ∃ ws, s'.store = s.store.calls ws := by
  refine of_dispatch (P := fun m => ∃ ws, m.store = s.store.calls ws) hd ⟨[], rfl⟩ ⟨[], rfl⟩ ?_
  rintro c call m ⟨e, -, hafter⟩
  exact ⟨_, (congrArg Machine.store hafter).trans (e.store_apply _)⟩

/-- At the start every text keeps what it is, but that of the files. -/
theorem get?_start (h : Backend.Separate σ) {key : String} (hkey : key ≠ Key.fs) (config : Config)
    (store : Store σ) (network : Network ν) (clock : Clock) (random : Random) :
    (start config store network clock random).store.get? key = store.get? key := by
  obtain ⟨ws, hstore, hfs⟩ := exists_calls_of_start config store network clock random
  rw [hstore]
  exact Store.get?_calls h fun w hw => by rw [hfs w hw]; exact hkey.symm

theorem up_start {up : σ → Prop} (h : Backend.Dependable up) {store : Store σ}
    (hs : up store.backend) (config : Config) (network : Network ν) (clock : Clock)
    (random : Random) : up (start config store network clock random).store.backend := by
  obtain ⟨ws, hstore, -⟩ := exists_calls_of_start config store network clock random
  rw [hstore]
  exact Store.up_calls h hs ws

theorem up_dispatch [Client ν] {up : σ → Prop} (h : Backend.Dependable up)
    (hs : up s.store.backend) (hd : s.dispatch now raw = .ok (s', shown)) :
    up s'.store.backend := by
  obtain ⟨ws, hstore⟩ := exists_calls_of_dispatch hd
  rw [hstore]
  exact Store.up_calls h hs ws

/-! ## One line -/

/-- What a line without blanks around it may change. -/
structure Footprint (s : Shell σ ν) (line : String) (s' : Shell σ ν) : Prop where
  /-- A facet changes only by a command that may change it and can be called in the mode. -/
  facets : ∀ f : Facet, ¬f.Same s.toMachine s'.toMachine → ∃ c ∈ f.changers, s.Calls line c
  /-- The mode changes to the one that is named. -/
  mode : s'.session.mode ≠ s.session.mode →
    (argsOf line).head?.bind Mode.ofName? = some s'.session.mode
  /-- The store is asked for the writes that the table has for the command, or for none. -/
  writes : ∃ ws, s'.store = s.store.calls ws ∧ s'.store.log = s.store.log ++ ws ∧
    (ws = [] ∨ ∃ c, s.Calls line c ∧ c.Writes (argsOf line) ws)
  /-- Only texts under the names that the command writes to are different afterwards. -/
  texts : Backend.Separate σ → ∀ key, s'.store.get? key ≠ s.store.get? key →
    ∃ c ws, s.Calls line c ∧ c.Writes (argsOf line) ws ∧ ∃ w ∈ ws, w.key = key

/-- A line that is recorded at most. -/
theorem footprint_of_same (hfacets : ∀ f : Facet, f.Same s.toMachine s'.toMachine)
    (hstore : s'.store = s.store) : s.Footprint line s' where
  facets f hf := absurd (hfacets f) hf
  mode hmode := absurd (hfacets .mode) hmode
  writes := ⟨[], hstore, by rw [hstore, List.append_nil], .inl rfl⟩
  texts _ key hkey := absurd (by rw [hstore]) hkey

variable [Client ν]

theorem footprint_of_acts {c : Builtin} (hc : s.Calls line c)
    (h : c.Acts (s.callBy now line) (s.recorded line).toMachine s'.toMachine) :
    s.Footprint line s' := by
  obtain ⟨e, hdoes, hm⟩ := h
  have hwrites := hdoes.writes
  rw [args_callBy] at hwrites
  have hstore : s'.store = s.store.calls (e.writes (s.recorded line).toMachine) :=
    (congrArg Machine.store hm).trans (e.store_apply _)
  -- what is drawn and asked besides is no facet
  have hfacet : ∀ f : Facet, ¬f.Same s.toMachine s'.toMachine → e.facet? = some f := by
    intro f hf
    by_cases he : e.facet? = some f
    · exact he
    · have hsame := e.same_apply (s.recorded line).toMachine he
      rw [hm] at hf
      cases f <;> exact absurd hsame hf
  have hlog : s'.store.log = s.store.log ++ e.writes (s.recorded line).toMachine := by
    rw [hstore, Store.log_calls]
  refine ⟨fun f hf => ?_, fun hmode => ?_, ⟨_, hstore, hlog, .inr ⟨c, hc, hwrites⟩⟩,
    fun hsep key hkey => ?_⟩
  · exact ⟨c, hdoes.mem_changers (hfacet f hf), hc⟩
  · have he := hfacet .mode hmode
    have hs' := congrArg (·.session.mode) hm
    cases e <;> cases he
    dsimp only at hs'
    rw [hs', ← args_callBy s now]
    exact hdoes.mode_given
  · refine ⟨c, _, hc, hwrites, ?_⟩
    rw [hstore] at hkey
    exact Store.exists_of_get?_calls_ne hsep hkey

/-- A line changes what its command may change in the mode of the session, and a tick nothing but
the scheduler and the network. -/
theorem footprint (s : Shell σ ν) (now : Instant) :
    (∀ raw s' shown, s.dispatch now raw = .ok (s', shown) → s.Footprint (Text.trim raw) s') ∧
      ∀ s' shown, s.tick now = .ok (s', shown) →
        s' = { s with scheduler := s'.scheduler, network := s'.network } := by
  refine ⟨fun raw s' shown h => ?_, fun s' shown h => tick_eq h⟩
  have hruns := runs_of_dispatch h
  generalize hm : s'.toMachine = m at hruns
  cases hruns with
  | blank =>
    refine footprint_of_same (fun f => ?_) (congrArg Machine.store hm)
    rw [hm]
    cases f <;> rfl
  | refused =>
    refine footprint_of_same (fun f => ?_) ((congrArg Machine.store hm).trans rfl)
    rw [hm]
    exact same_recorded s _ f
  | called hc hacts =>
    rw [← hm] at hacts
    exact footprint_of_acts hc hacts

/-- A theme is stored under its name and drops the color; a tick finds nothing to do. -/
theorem footprint_theme :
    let s : Shell MemoryStore Offline :=
      start {} ⟨{ entries := [(Key.color, "red")] }, []⟩ ⟨⟨⟩, []⟩ {} ⟨0⟩
    (∃ s' shown, s.dispatch ⟨0⟩ " Theme ocean" = .ok (s', shown) ∧ s.Footprint "Theme ocean" s' ∧
        s.session.presentation.color = some .red ∧
        s'.session.presentation = { theme := .ocean } ∧
        s'.store.log.drop s.store.log.length = [.set Key.theme "ocean", .remove Key.color]) ∧
      ∃ s' shown, s.tick ⟨0⟩ = .ok (s', shown) ∧
        s' = { s with scheduler := s'.scheduler, network := s'.network } := by
  intro s
  have hline : Text.trim " Theme ocean" = "Theme ocean" := by decide +kernel
  have htheme : (s.dispatch ⟨0⟩ " Theme ocean").toOption.map
        (fun p => (p.1.session.presentation, p.1.store.log.drop s.store.log.length)) =
      some ({ theme := .ocean }, [.set Key.theme "ocean", .remove Key.color]) := by
    decide +kernel
  have hcolor : s.session.presentation.color = some .red := by decide +kernel
  cases hdispatch : s.dispatch ⟨0⟩ " Theme ocean" with
  | error a =>
    rw [hdispatch] at htheme
    cases htheme
  | ok p =>
    rw [hdispatch] at htheme
    obtain ⟨hlook, hlog⟩ := Prod.mk.inj (Option.some.inj htheme)
    have hfootprint := (footprint s ⟨0⟩).1 _ _ _ hdispatch
    rw [hline] at hfootprint
    have htick : s.tick ⟨0⟩ = .ok (s, []) := tick_of_idle rfl
    exact ⟨⟨p.1, p.2, rfl, hfootprint, hcolor, hlook, hlog⟩, s, [], htick,
      (footprint s ⟨0⟩).2 s [] htick⟩

end DevConsole.Shell
