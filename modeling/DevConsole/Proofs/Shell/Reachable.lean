import DevConsole.Proofs.Files.Directory
import DevConsole.Proofs.Shell.Footprint
import DevConsole.Shell.Editing
import Mathlib.Logic.Relation

/-!
# Reachable shells

`Shell.Reachable` holds of the shells that can come about: any start, and whatever lines, input
events and ticks make of it, while clock, network and random source change as they like.
`Shell.Turns` is one such step, and `Shell.Later` any number of them.

`Shell.Kept` says that a property is kept by every line, every event that runs none and every tick.
Such a property is kept for good (`Kept.later`), and if it holds at the start it holds of all
reachable shells (`Kept.of_reachable`).

`Machine.Grounded` says that the working directory is there: it is a valid path, and a directory
stands at it. Every effect of a command keeps this (`Grounded.apply`), and so does everything a
shell does (`Reachable.toMachine_grounded`). On a grounded machine no command is refused because of
its working directory (`Grounded.not_blames`).
-/

namespace DevConsole

open Files Net

variable {σ ν : Type}

/-! ## Grounded machines -/

/-- The working directory exists. -/
structure Machine.Grounded (m : Machine σ ν) : Prop where
  tree : m.volume.tree.Reachable
  directory : m.volume.tree.isDirectory m.session.cwd = true
  valid : m.session.cwd.Valid

namespace Machine.Grounded

variable {m m' : Machine σ ν}

/-- Only the files and the working directory matter. -/
theorem of_eq (h : m.Grounded) (hv : m'.volume = m.volume) (hc : m'.session.cwd = m.session.cwd) :
    m'.Grounded where
  tree := hv ▸ h.tree
  directory := by rw [hv, hc]; exact h.directory
  valid := hc ▸ h.valid

/-- A failure on a grounded machine does not blame the working directory. -/
theorem not_blames (h : m.Grounded) {f : FileError} (hf : FromTree m f) :
    ¬f.Blames m.session.cwd := by
  cases hf with
  | change hc => exact h.tree.not_blames_of_change h.directory hc
  | @directory p _ hp hd =>
    intro hblames
    have hvalid : p.Valid := by
      rcases hp with rfl | ⟨text, rfl⟩
      · exact h.valid
      · exact Path.valid_resolve text h.valid
    have heq := (Tree.blames_of_directoryAt hd).unique hvalid h.valid hblames
    rw [heq] at hd
    obtain ⟨id, hid⟩ := Tree.isDirectory_iff.mp h.directory
    rw [hid] at hd
    cases hd
  | @content text _ hr =>
    intro hblames
    rcases Tree.read_error hr with ⟨hblames', hdir⟩ | rfl
    · have heq := hblames'.unique (Path.valid_resolve text h.valid) h.valid hblames
      rw [heq, h.directory] at hdir
      cases hdir
    · rcases hblames with hb | hb <;> cases hb

theorem commit [Backend σ] {name : String} {edit : Edit} {t : Tree} (h : m.Grounded)
    (ht : m.volume.tree.change ⟨m.session.cwd, name, edit⟩ = .ok t) :
    ((Effect.files t).apply m).Grounded where
  tree := h.tree.of_change ht
  directory := h.tree.isDirectory_of_change h.directory ht
  valid := h.valid

variable [Backend σ] [Client ν] {call : Call} {c : Builtin} {e : Effect}

/-- What a command does leaves the working directory there, or moves to another one that is. -/
theorem apply (h : m.Grounded) (hdoes : c.Does call m e) : (e.apply m).Grounded := by
  cases hdoes with
  | exportList _ ht => exact h.commit ht
  | mkdir _ ht => exact h.commit ht
  | touch _ ht => exact h.commit ht
  | rm _ ht => exact h.commit ht
  | redirect _ ht => exact h.commit ht
  | cd ht =>
    obtain ⟨rfl, hd⟩ := Tree.changeDirectory_eq_ok ht
    exact ⟨h.tree, hd, Path.valid_resolve _ h.valid⟩
  | _ => exact h.of_eq rfl rfl

theorem acts (h : m.Grounded) (hacts : c.Acts call m m') : m'.Grounded := by
  obtain ⟨e, hdoes, hm⟩ := hacts
  rw [hm]
  exact (h.apply hdoes).of_eq rfl rfl

end Machine.Grounded

/-! ## Recalling earlier lines -/

namespace Session

theorem historyBack_snd (s : Session) :
    s.historyBack.2 = { s with cursor := s.historyBack.2.cursor } := by
  unfold historyBack
  split <;> rfl

theorem historyForward_snd (s : Session) :
    s.historyForward.2 = { s with cursor := s.historyForward.2.cursor } := by
  unfold historyForward
  dsimp only
  split
  · rfl
  · split <;> rfl

end Session

namespace Shell

variable [Backend σ]

/-! ## The start -/

/-- A restored session stands in the home directory or in the root. -/
theorem isDirectory_restore {t : Tree} (ht : t.Reachable) (store : Store σ) (profile : Profile) :
    t.isDirectory (Session.restore store t profile).cwd = true := by
  simp only [Session.restore]
  split
  · assumption
  · exact ht.isDirectory_root

theorem valid_restore {profile : Profile} (h : profile.home.Valid) (store : Store σ) (t : Tree) :
    (Session.restore store t profile).cwd.Valid := by
  simp only [Session.restore]
  split
  · exact h
  · exact Path.valid_root

theorem grounded_start (config : Config) (store : Store σ) (network : Network ν) (clock : Clock)
    (random : Random) : (start config store network clock random).toMachine.Grounded where
  tree := .load store
  directory := isDirectory_restore (.load store) _ _
  valid := valid_restore (Path.valid_parse config.home) _ _

variable [Client ν] {s s' t : Shell σ ν} {now : Instant} {raw line : String} {shown : Display}

/-- The shells that can come about. -/
inductive Reachable : Shell σ ν → Prop
  | start (config : Config) (store : Store σ) (network : Network ν) (clock : Clock)
      (random : Random) : Reachable (start config store network clock random)
  /-- What lies outside the shell changes, or the random source gets a new seed. -/
  | outside {s : Shell σ ν} (network : Network ν) (clock : Clock) (random : Random) :
      Reachable s → Reachable { s with network, clock, random }
  | setInput {s : Shell σ ν} (text : String) : Reachable s → Reachable (s.setInput text)
  | submit {s : Shell σ ν} (line : String) : Reachable s → Reachable (s.submit line)
  | takeProgram {s : Shell σ ν} : Reachable s → Reachable s.takeProgram.2
  | dispatch {s s' : Shell σ ν} {now : Instant} {raw : String} {shown : Display} :
      Reachable s → s.dispatch now raw = .ok (s', shown) → Reachable s'
  | processQueue {s s' : Shell σ ν} {now : Instant} {shown : Display} :
      Reachable s → s.processQueue now = .ok (s', shown) → Reachable s'
  | handle {s s' : Shell σ ν} {now : Instant} {event : InputEvent} {shown : Display} :
      Reachable s → s.handle now event = .ok (s', shown) → Reachable s'
  | tick {s s' : Shell σ ν} {now : Instant} {shown : Display} :
      Reachable s → s.tick now = .ok (s', shown) → Reachable s'

/-- One thing happens to a shell, and `t` is what becomes of it. -/
inductive Turns (s : Shell σ ν) : Shell σ ν → Prop
  /-- What lies outside the shell changes, or the random source gets a new seed. -/
  | outside (network : Network ν) (clock : Clock) (random : Random) :
      Turns s { s with network, clock, random }
  | setInput (text : String) : Turns s (s.setInput text)
  | submit (line : String) : Turns s (s.submit line)
  | takeProgram : Turns s s.takeProgram.2
  | dispatch {t : Shell σ ν} {now : Instant} {raw : String} {shown : Display} :
      s.dispatch now raw = .ok (t, shown) → Turns s t
  | processQueue {t : Shell σ ν} {now : Instant} {shown : Display} :
      s.processQueue now = .ok (t, shown) → Turns s t
  | handle {t : Shell σ ν} {now : Instant} {event : InputEvent} {shown : Display} :
      s.handle now event = .ok (t, shown) → Turns s t
  | tick {t : Shell σ ν} {now : Instant} {shown : Display} :
      s.tick now = .ok (t, shown) → Turns s t

/-- What becomes of a shell sooner or later. -/
def Later : Shell σ ν → Shell σ ν → Prop := Relation.ReflTransGen Turns

theorem Reachable.turns (h : s.Reachable) (hst : s.Turns t) : t.Reachable := by
  cases hst with
  | outside network clock random => exact h.outside network clock random
  | setInput text => exact h.setInput text
  | submit line => exact h.submit line
  | takeProgram => exact h.takeProgram
  | dispatch hs => exact h.dispatch hs
  | processQueue hs => exact h.processQueue hs
  | handle hs => exact h.handle hs
  | tick hs => exact h.tick hs

/-- The reachable shells are those that some start comes to. -/
theorem reachable_iff_exists_later :
    t.Reachable ↔ ∃ config store network clock random,
      (start config store network clock random).Later t := by
  constructor
  · intro h
    have hlast : ∀ {s t : Shell σ ν}, (∃ config store network clock random,
        (Shell.start config store network clock random).Later s) → s.Turns t →
          ∃ config store network clock random,
            (Shell.start config store network clock random).Later t := by
      rintro s t ⟨config, store, network, clock, random, hrun⟩ hst
      exact ⟨config, store, network, clock, random, hrun.tail hst⟩
    induction h with
    | start config store network clock random =>
      exact ⟨config, store, network, clock, random, .refl⟩
    | outside network clock random _ ih => exact hlast ih (.outside network clock random)
    | setInput text _ ih => exact hlast ih (.setInput text)
    | submit line _ ih => exact hlast ih (.submit line)
    | takeProgram _ ih => exact hlast ih .takeProgram
    | dispatch _ hs ih => exact hlast ih (.dispatch hs)
    | processQueue _ hs ih => exact hlast ih (.processQueue hs)
    | handle _ hs ih => exact hlast ih (.handle hs)
    | tick _ hs ih => exact hlast ih (.tick hs)
  · rintro ⟨config, store, network, clock, random, hrun⟩
    induction hrun with
    | refl => exact .start config store network clock random
    | tail _ hst ih => exact ih.turns hst

/-! ## Every step -/

theorem grounded_dispatch (h : s.toMachine.Grounded) (hs : s.dispatch now raw = .ok (s', shown)) :
    s'.toMachine.Grounded := by
  have hrecorded : (s.recorded (Text.trim raw)).toMachine.Grounded := h.of_eq rfl rfl
  exact of_dispatch hs h hrecorded hrecorded.acts

/-- The first line is run, and the others after it unless it ends the session. -/
theorem runAll_cons_eq_ok_iff {line : String} {rest : List String} :
    runAll now (line :: rest) s = .ok (s', shown) ↔
      ∃ t first, s.dispatch now line = .ok (t, first) ∧
        (t.exitRequested = true ∧ s' = t ∧ shown = first ∨
          t.exitRequested = false ∧
            ∃ more, runAll now rest t = .ok (s', more) ∧ shown = first ++ more) := by
  rw [runAll]
  cases hd : s.dispatch now line with
  | error a => simp
  | ok p =>
    obtain ⟨t, first⟩ := p
    cases hexit : t.exitRequested with
    | true => simp [hexit, eq_comm (a := s'), eq_comm (a := shown)]
    | false =>
      cases hrest : runAll now rest t with
      | error a => simp [hexit, hrest, Except.map]
      | ok q =>
        obtain ⟨u, more⟩ := q
        simp [hexit, hrest, Except.map, eq_comm (a := shown)]

/-- What every line keeps, a list of lines keeps. -/
theorem of_runAll {P : Shell σ ν → Prop}
    (hline : ∀ {s s' raw shown}, P s → s.dispatch now raw = .ok (s', shown) → P s')
    {lines : List String} (h : P s) (hs : runAll now lines s = .ok (s', shown)) : P s' := by
  induction lines generalizing s shown with
  | nil =>
    cases hs
    exact h
  | cons line rest ih =>
    obtain ⟨t, first, hd, ⟨-, rfl, rfl⟩ | ⟨-, more, hrest, rfl⟩⟩ := runAll_cons_eq_ok_iff.mp hs
    · exact hline h hd
    · exact ih (hline h hd) hrest

/-- An event that runs no line changes the editable line, the place in the history, and whether the
session is to end. -/
theorem handle_eq {event : InputEvent} (he : event ≠ .submit)
    (hs : s.handle now event = .ok (s', shown)) :
    s' = { s with
      session := { s.session with cursor := s'.session.cursor }
      input := s'.input
      exitRequested := s'.exitRequested } := by
  cases event with
  | submit => exact absurd rfl he
  | historyBack =>
    cases hs
    exact congrArg (fun session => { s with
      session, input := s.session.historyBack.1.getD s.input }) (Session.historyBack_snd _)
  | historyForward =>
    cases hs
    exact congrArg (fun session => { s with
      session, input := s.session.historyForward.1 }) (Session.historyForward_snd _)
  | complete =>
    obtain rfl : s.complete.1 = s' := congrArg Prod.fst (Except.ok.inj hs)
    unfold complete
    split <;> rfl
  | _ =>
    cases hs
    rfl

/-! ## What every step keeps -/

/-- The session, the files, the store, the scheduler and the profile are the same. -/
structure Alike (s t : Shell σ ν) : Prop where
  session : t.session = s.session
  volume : t.volume = s.volume
  store : t.store = s.store
  scheduler : t.scheduler = s.scheduler
  profile : t.profile = s.profile

/-- What is true of a shell stays true, whatever happens to it. -/
structure Kept (P : Shell σ ν → Prop) : Prop where
  alike : ∀ {s t : Shell σ ν}, P s → s.Alike t → P t
  line : ∀ {s t : Shell σ ν} {now : Instant} {raw : String} {shown : Display},
    P s → s.dispatch now raw = .ok (t, shown) → P t
  /-- An event that runs no line. -/
  event : ∀ {s t : Shell σ ν} {now : Instant} {event : InputEvent} {shown : Display},
    P s → event ≠ .submit → s.handle now event = .ok (t, shown) → P t
  tick : ∀ {s t : Shell σ ν} {now : Instant} {shown : Display},
    P s → s.tick now = .ok (t, shown) → P t

namespace Kept

variable {P : Shell σ ν → Prop}

theorem processQueue (hP : Kept P) (h : P s) (hs : s.processQueue now = .ok (t, shown)) : P t := by
  have hempty : P { s with queue := [] } := hP.alike h ⟨rfl, rfl, rfl, rfl, rfl⟩
  rw [processQueue_eq_runAll] at hs
  exact of_runAll hP.line hempty hs

theorem handle {event : InputEvent} (hP : Kept P) (h : P s)
    (hs : s.handle now event = .ok (t, shown)) : P t := by
  by_cases he : event = .submit
  · subst he
    have htyped : P ((s.setInput "").submit s.input) := hP.alike h ⟨rfl, rfl, rfl, rfl, rfl⟩
    exact hP.processQueue htyped hs
  · exact hP.event h he hs

theorem turns (hP : Kept P) (h : P s) (hst : s.Turns t) : P t := by
  cases hst with
  | dispatch hs => exact hP.line h hs
  | processQueue hs => exact hP.processQueue h hs
  | handle hs => exact hP.handle h hs
  | tick hs => exact hP.tick h hs
  | _ => exact hP.alike h ⟨rfl, rfl, rfl, rfl, rfl⟩

theorem later (hP : Kept P) (h : P s) (hrun : s.Later t) : P t := by
  induction hrun with
  | refl => exact h
  | tail _ hst ih => exact hP.turns ih hst

/-- What holds at every start holds of every shell that can come about. -/
theorem of_reachable (hP : Kept P)
    (hstart : ∀ config store network clock random, P (start config store network clock random))
    (h : s.Reachable) : P s := by
  obtain ⟨config, store, network, clock, random, hrun⟩ := reachable_iff_exists_later.mp h
  exact hP.later (hstart config store network clock random) hrun

end Kept

theorem grounded_kept : Kept fun s : Shell σ ν => s.toMachine.Grounded where
  alike h hst := h.of_eq hst.volume (congrArg Session.cwd hst.session)
  line := grounded_dispatch
  event h he hs := by
    have heq := handle_eq he hs
    exact h.of_eq (congrArg (·.volume) heq) (congrArg (·.session.cwd) heq)
  tick h hs := by
    have heq := tick_eq hs
    exact h.of_eq (congrArg (·.volume) heq) (congrArg (·.session.cwd) heq)

/-- Whatever a shell has been through, its working directory is there. -/
theorem Reachable.toMachine_grounded (h : s.Reachable) : s.toMachine.Grounded :=
  grounded_kept.of_reachable grounded_start h

/-! ## No failure for want of a working directory -/

theorem not_blames_of_refuses {f : FileError} (h : s.toMachine.Grounded)
    (hr : s.Refuses now line (.files f)) : ¬f.Blames s.session.cwd := by
  have hrecorded : (s.recorded line).toMachine.Grounded := h.of_eq rfl rfl
  generalize he : Error.files f = e at hr
  cases hr with
  | unknown => cases he
  | @action c _ hfound hrefusal =>
    obtain ⟨m, hrun⟩ := Action.exists_of_refusal? hrefusal
    obtain ⟨-, hfrom⟩ := c.action.meets_run.of_refused hrun
    exact hrecorded.not_blames (hfrom f he.symm)

/-- In a reachable shell the working directory is a valid path to a directory. So it can be listed
and drawn, and no line is refused because it is missing or a file. -/
theorem Reachable.workingDirectory (h : s.Reachable) :
    s.volume.tree.isDirectory s.session.cwd = true ∧ s.session.cwd.Valid ∧
      (∃ rows, s.volume.tree.list s.session.cwd = .ok rows) ∧
        (∃ rows, s.volume.tree.walk s.session.cwd = .ok rows) ∧
          ∀ now line f, s.Refuses now line (.files f) → ¬f.Blames s.session.cwd := by
  have hg := h.toMachine_grounded
  exact ⟨hg.directory, hg.valid, Tree.list_of_isDirectory hg.directory,
    Tree.walk_of_isDirectory hg.directory, fun _ _ _ hr => not_blames_of_refuses hg hr⟩

/-- Someone who has moved into a new directory cannot remove it from there: its name leads to
nothing in it. -/
theorem workingDirectory_moved :
    let s : Shell MemoryStore Offline :=
      start {} ⟨{ entries := [(Key.mode, "fs")] }, []⟩ ⟨⟨⟩, []⟩ {} ⟨0⟩
    ∃ s' shown, ((s.submit "mkdir a").submit "cd a").processQueue ⟨0⟩ = .ok (s', shown) ∧
      s'.Reachable ∧ s'.session.cwd = ⟨["home", "user", "a"]⟩ ∧
        s'.volume.tree.isDirectory s'.session.cwd = true ∧ s'.session.cwd.Valid ∧
          s'.Refuses ⟨0⟩ "rm a" (.files (.notFound "a")) ∧
            ¬(FileError.notFound "a").Blames s'.session.cwd := by
  intro s
  have hrun : (((s.submit "mkdir a").submit "cd a").processQueue ⟨0⟩).toOption.map
        (fun p => (p.1.session.cwd, (p.1.found? "rm a").map Registered.action,
          ((Builtin.filing .rm).run (p.1.callBy ⟨0⟩ "rm a")).refusal?
            (p.1.recorded "rm a").toMachine)) =
      some (⟨["home", "user", "a"]⟩, some (Builtin.filing .rm),
        some (.files (.notFound "a"))) := by
    decide +kernel
  cases hqueue : ((s.submit "mkdir a").submit "cd a").processQueue ⟨0⟩ with
  | error a =>
    rw [hqueue] at hrun
    cases hrun
  | ok p =>
    obtain ⟨s', shown⟩ := p
    rw [hqueue] at hrun
    simp only [Except.toOption, Option.map_some, Option.some.injEq, Prod.mk.injEq] at hrun
    obtain ⟨hcwd, hfound, hrefusal⟩ := hrun
    have hstart : s.Reachable := .start ..
    have hreach : s'.Reachable := ((hstart.submit "mkdir a").submit "cd a").processQueue hqueue
    have hrefuses : s'.Refuses ⟨0⟩ "rm a" (.files (.notFound "a")) :=
      .action (found?_of_action hfound) hrefusal
    obtain ⟨hdir, hvalid, -, -, hblames⟩ := hreach.workingDirectory
    exact ⟨s', shown, rfl, hreach, hcwd, hdir, hvalid, hrefuses, hblames _ _ _ hrefuses⟩

end Shell
end DevConsole
