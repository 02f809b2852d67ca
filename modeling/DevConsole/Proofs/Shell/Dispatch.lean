import DevConsole.Net.Table
import DevConsole.Proofs.Command.Completion
import DevConsole.Proofs.Command.Handlers
import DevConsole.Shell.Basic
import DevConsole.Store.Memory

/-!
# Running one line

`Shell.Dispatched` tells how a line comes out that the shell can run: a blank one does nothing, and
any other is recorded and shown, with the answer of its command (`dispatched`). `Shell.Refuses` says
when a line is refused: the name of its command is unknown, or the action of the command is refused.
Such a line is recorded and its error shown, and nothing else happens (`dispatch_refused`).
`Shell.Runs` tells the machine after any line that the shell can run, blank ones and refused ones
included (`runs_of_dispatch`).

The queue is a loop over such lines (`processQueue_eq`). As no command reads or changes it, its
lines are run as if they had been taken off before the first of them (`processQueue_eq_runAll`).
-/

namespace DevConsole.Shell

open Files Net

variable {σ ν : Type} {s s' : Shell σ ν} {now : Instant} {raw line : String} {shown : Display}

/-- The shell after a line has been recorded. -/
def recorded (s : Shell σ ν) (line : String) : Shell σ ν :=
  { s with session := s.session.record line }

/-- The call that a line makes. -/
def callBy (s : Shell σ ν) (now : Instant) (line : String) : Call :=
  (s.recorded line).callOf now (Words.ofLine line)

/-- The arguments that a line gives to its command. -/
def argsOf (line : String) : List String := Text.words (Words.ofLine line).rest

theorem rest_callBy (s : Shell σ ν) (now : Instant) (line : String) :
    (s.callBy now line).rest = (Words.ofLine line).rest := by
  unfold callBy callOf
  with_reducible rfl

theorem args_callBy (s : Shell σ ν) (now : Instant) (line : String) :
    (s.callBy now line).args = argsOf line := by
  unfold callBy callOf argsOf
  with_reducible rfl

/-- What the first word of a line stands for. -/
def found? (s : Shell σ ν) (line : String) : Option (Registered Builtin) :=
  builtins.resolve? (Words.ofLine line).name s.session.mode

/-- The command is the one that a line names, and it can be called in the mode of the session. -/
structure Calls (s : Shell σ ν) (line : String) (c : Builtin) : Prop where
  named : (Words.ofLine line).name = c.info.name
  isIn : c.IsIn s.session.mode

instance (s : Shell σ ν) (line : String) (c : Builtin) : Decidable (s.Calls line c) :=
  decidable_of_iff
    ((Words.ofLine line).name = c.info.name ∧
      (c.mode? = none ∨ c.mode? = some s.session.mode))
    ⟨fun h => ⟨h.1, h.2⟩, fun h => ⟨h.named, h.isIn⟩⟩

theorem calls_of_found? {found : Registered Builtin} (h : s.found? line = some found) :
    ∃ c : Builtin, found = c.registered ∧ s.Calls line c := by
  obtain ⟨c, hfound, hname, hmode⟩ := Registry.resolve?_builtins h
  have hlower : Text.lower (Words.ofLine line).name = (Words.ofLine line).name :=
    Text.lower_lower _
  exact ⟨c, hfound, (hname.trans hlower).symm, hmode⟩

theorem found?_of_calls {c : Builtin} (h : s.Calls line c) : s.found? line = some c.registered := by
  rw [found?, h.named, Builtin.resolve?_name h.isIn]

/-- A line calls one command at most. -/
theorem Calls.unique {c c' : Builtin} (h : s.Calls line c) (h' : s.Calls line c') : c = c' :=
  Builtin.eq_of_name (h.named.symm.trans h'.named)

theorem found?_of_action {c : Builtin} (h : (s.found? line).map Registered.action = some c) :
    s.found? line = some c.registered := by
  obtain ⟨found, hfound, rfl⟩ := Option.map_eq_some_iff.mp h
  obtain ⟨c, rfl, -⟩ := calls_of_found? hfound
  exact hfound

theorem Step.eq_ok_of_toOption {x : Step σ ν} {p : Shell σ ν × Display}
    (h : x.toOption = some p) : x = .ok p := by
  cases x with
  | error a => cases h
  | ok q =>
    cases h
    rfl

/-- Showing the output of a command leaves the machine alone. -/
theorem toMachine_render (s : Shell σ ν) (output : Output) :
    (s.render output).1.toMachine = s.toMachine := by cases output <;> rfl

/-- What a command comes to is what is shown of it: its output, or the error that it is refused
with. -/
theorem performed {action : Action σ ν Output} {A : Output → Machine σ ν → Prop}
    {R : Error → Machine σ ν → Prop} (h : action.Meets s.toMachine A R)
    (hp : s.perform action = .ok (s', shown)) :
    (∃ output m, A output m ∧ ({ s with toMachine := m } : Shell σ ν).render output = (s', shown)) ∨
      ∃ e m, R e m ∧ s' = { s with toMachine := m } ∧ shown = [.write (.error e.message)] := by
  unfold perform at hp
  split at hp
  · rename_i output m hrun
    exact .inl ⟨output, m, h.of_ok hrun, Except.ok.inj hp⟩
  · rename_i e m hrun
    cases hp
    exact .inr ⟨e, m, h.of_refused hrun, rfl, rfl⟩
  · cases hp

theorem exists_perform {action : Action σ ν Output} {A : Output → Machine σ ν → Prop}
    (h : action.Completes s.toMachine A) : ∃ s' shown, s.perform action = .ok (s', shown) := by
  unfold perform
  split
  · exact ⟨_, _, rfl⟩
  · exact ⟨_, _, rfl⟩
  · rename_i hrun
    exact absurd hrun (h.ne_aborted _)

/-- A command changes the machine and what is asked of the host. -/
theorem perform_eq {action : Action σ ν Output} (h : s.perform action = .ok (s', shown)) :
    s' = { s with
      toMachine := s'.toMachine, exitRequested := s'.exitRequested, program := s'.program } := by
  unfold perform at h
  split at h
  · rename_i output m _
    obtain rfl : (render { s with toMachine := m } output).1 = s' :=
      congrArg Prod.fst (Except.ok.inj h)
    cases output <;> rfl
  · cases h
    rfl
  · cases h

variable [Backend σ] [Client ν]

theorem execute_recorded (s : Shell σ ν) (now : Instant) (line : String) :
    (s.recorded line).execute now line =
      match s.found? line with
      | none =>
        .ok (s.recorded line,
          [.write (.error (Error.commandNotFound (Words.ofLine line).name).message)])
      | some c => (s.recorded line).perform (c.action.run (s.callBy now line)) := by
  have hmode : (s.recorded line).session.mode = s.session.mode := rfl
  unfold execute found? callBy
  cases hfound : builtins.resolve? (Words.ofLine line).name s.session.mode <;>
    simp only [hmode, hfound]

theorem dispatch_of_blank (hline : Text.trim raw = "") : s.dispatch now raw = .ok (s, []) :=
  if_pos (String.isEmpty_iff.mpr hline)

theorem dispatch_of_ne (hline : Text.trim raw ≠ "") :
    s.dispatch now raw =
      ((s.recorded (Text.trim raw)).execute now (Text.trim raw)).map fun (s', shown) =>
        (s', .write (.plain (s.prompt ++ " " ++ Text.trim raw)) :: shown) :=
  if_neg fun h => hline (String.isEmpty_iff.mp h)

/-- The line that is shown for one that is run. -/
def echo (s : Shell σ ν) (line : String) : DisplayEvent :=
  .write (.plain (s.prompt ++ " " ++ line))

/-- What is shown of a text: its lines. -/
def answer (text : String) : Display := .ofLines ((Text.splitOn '\n' text).map Line.plain)

/-- No line of a text is an error. -/
theorem error_not_mem_answer (text e : String) : DisplayEvent.write (.error e) ∉ answer text := by
  intro h
  obtain ⟨shown, hline, hwrite⟩ := List.mem_map.mp h
  obtain ⟨piece, -, rfl⟩ := List.mem_map.mp hline
  cases hwrite

omit [Backend σ] [Client ν] in
theorem ne_empty_of_calls {c : Builtin} (h : s.Calls line c) : line ≠ "" := by
  rintro rfl
  exact c.isWord_name.1 h.named.symm

/-- A line that calls a command is recorded and shown, and the command is run. -/
theorem dispatch_of_calls {c : Builtin} (h : s.Calls (Text.trim raw) c) (now : Instant) :
    s.dispatch now raw =
      ((s.recorded (Text.trim raw)).perform (c.run (s.callBy now (Text.trim raw)))).map
        fun (s', shown) => (s', s.echo (Text.trim raw) :: shown) := by
  rw [dispatch_of_ne (ne_empty_of_calls h), execute_recorded, found?_of_calls h]
  rfl

/-- A line runs unless its command aborts. -/
theorem exists_dispatch_of_completes {c : Builtin} {A : Output → Machine σ ν → Prop}
    (hcalls : s.Calls (Text.trim raw) c)
    (h : ∀ call, call.args = argsOf (Text.trim raw) →
      (c.run call).Completes (s.recorded (Text.trim raw)).toMachine A) :
    ∃ s' shown, s.dispatch now raw = .ok (s', shown) := by
  obtain ⟨s', shown, hperform⟩ :=
    exists_perform (h (s.callBy now (Text.trim raw)) (args_callBy ..))
  rw [dispatch_of_calls hcalls, hperform]
  exact ⟨s', _, rfl⟩

/-- How a line comes out whose command is known: the output of the command is shown, or the error
that it is refused with. -/
theorem dispatched_of_calls {c : Builtin} {A : Call → Output → Machine σ ν → Prop}
    {R : Call → Error → Machine σ ν → Prop} (hcalls : s.Calls (Text.trim raw) c)
    (h : ∀ call, (c.run call).Meets (s.recorded (Text.trim raw)).toMachine (A call) (R call))
    (hd : s.dispatch now raw = .ok (s', shown)) :
    ∃ call, call.rest = (Words.ofLine (Text.trim raw)).rest ∧ call.args = argsOf (Text.trim raw) ∧
      ((∃ output m more, A call output m ∧
        ({ s.recorded (Text.trim raw) with toMachine := m } : Shell σ ν).render output =
          (s', more) ∧ shown = s.echo (Text.trim raw) :: more) ∨
      ∃ e m, R call e m ∧ s' = { s.recorded (Text.trim raw) with toMachine := m } ∧
        shown = [s.echo (Text.trim raw), .write (.error e.message)]) := by
  refine ⟨s.callBy now (Text.trim raw), rest_callBy .., args_callBy .., ?_⟩
  rw [dispatch_of_calls hcalls] at hd
  cases hperform : (s.recorded (Text.trim raw)).perform
      (c.run (s.callBy now (Text.trim raw))) with
  | error a =>
    rw [hperform] at hd
    cases hd
  | ok p =>
    rw [hperform] at hd
    cases hd
    rcases performed (h _) hperform with ⟨output, m, hout, hrender⟩ | ⟨e, m, he, hs, hshown⟩
    · exact .inl ⟨output, m, _, hout, hrender, rfl⟩
    · exact .inr ⟨e, m, he, hs, by rw [hshown]⟩

/-- How a line that has been run comes out. -/
inductive Dispatched (s : Shell σ ν) (now : Instant) (raw : String) : Shell σ ν → Display → Prop
  | blank : Text.trim raw = "" → Dispatched s now raw s []
  | unknown : Text.trim raw ≠ "" → s.found? (Text.trim raw) = none →
      Dispatched s now raw (s.recorded (Text.trim raw)) [s.echo (Text.trim raw),
        .write (.error (Error.commandNotFound (Words.ofLine (Text.trim raw)).name).message)]
  | called {c : Builtin} {s' : Shell σ ν} {answer : Display} : Text.trim raw ≠ "" →
      s.Calls (Text.trim raw) c → s.found? (Text.trim raw) = some c.registered →
      (s.recorded (Text.trim raw)).perform (c.run (s.callBy now (Text.trim raw))) =
        .ok (s', answer) →
      Dispatched s now raw s' (s.echo (Text.trim raw) :: answer)

theorem dispatched (h : s.dispatch now raw = .ok (s', shown)) : s.Dispatched now raw s' shown := by
  by_cases hline : Text.trim raw = ""
  · rw [dispatch_of_blank hline] at h
    cases h
    exact .blank hline
  · rw [dispatch_of_ne hline, execute_recorded] at h
    cases hfound : s.found? (Text.trim raw) with
    | none =>
      rw [hfound] at h
      cases h
      exact .unknown hline hfound
    | some found =>
      obtain ⟨c, rfl, hcalls⟩ := calls_of_found? hfound
      have haction : c.registered.action = c := rfl
      simp only [hfound, haction] at h
      cases hperform : (s.recorded (Text.trim raw)).perform
          (c.run (s.callBy now (Text.trim raw))) with
      | error a =>
        rw [hperform] at h
        cases h
      | ok p =>
        rw [hperform] at h
        cases h
        exact .called hline hcalls hfound hperform

/-- A line changes the machine and what is asked of the host. -/
theorem dispatch_eq (h : s.dispatch now raw = .ok (s', shown)) :
    s' = { s with
      toMachine := s'.toMachine, exitRequested := s'.exitRequested, program := s'.program } := by
  cases dispatched h with
  | blank => rfl
  | unknown => rfl
  | called _ _ _ hperform => exact (perform_eq hperform).trans rfl

/-! ## The queue -/

/-- Runs lines in order up to the first one that ends the session. -/
def runAll (now : Instant) : List String → Shell σ ν → Step σ ν
  | [], s => .ok (s, [])
  | line :: rest, s =>
    match s.dispatch now line with
    | .error a => .error a
    | .ok (s, shown) =>
      if s.exitRequested then .ok (s, shown)
      else (runAll now rest s).map fun (s, more) => (s, shown ++ more)

/-- What a step comes to with other lines in the queue. -/
def Step.withQueue (queue : List String) (x : Step σ ν) : Step σ ν :=
  x.map fun (s, shown) => ({ s with queue }, shown)

omit [Backend σ] [Client ν] in
theorem perform_withQueue (s : Shell σ ν) (queue : List String) (action : Action σ ν Output) :
    perform { s with queue } action = (s.perform action).withQueue queue := by
  unfold perform
  cases action s.toMachine with
  | ok output m => cases output <;> rfl
  | error e m => cases e <;> rfl

/-- A command neither reads the queue nor changes it. -/
theorem dispatch_withQueue (s : Shell σ ν) (queue : List String) (now : Instant) (raw : String) :
    dispatch { s with queue } now raw = (s.dispatch now raw).withQueue queue := by
  by_cases hline : Text.trim raw = ""
  · rw [dispatch_of_blank hline, dispatch_of_blank hline]
    rfl
  · have hfound : found? { s with queue } (Text.trim raw) = s.found? (Text.trim raw) := by
      unfold found?
      with_reducible rfl
    have hcall : callBy { s with queue } now (Text.trim raw) = s.callBy now (Text.trim raw) := by
      unfold callBy callOf recorded
      with_reducible rfl
    have hrecorded : recorded { s with queue } (Text.trim raw) =
      { s.recorded (Text.trim raw) with queue } := rfl
    rw [dispatch_of_ne hline, dispatch_of_ne hline, execute_recorded, execute_recorded, hfound]
    cases s.found? (Text.trim raw) with
    | none => rfl
    | some c =>
      simp only [hrecorded, hcall, perform_withQueue]
      cases (s.recorded (Text.trim raw)).perform (c.action.run (s.callBy now (Text.trim raw))) <;>
        rfl

/-- The queued lines are run as if they had been taken off the queue before. -/
theorem runQueue_eq_runAll (now : Instant) (lines : List String) (s : Shell σ ν)
    (hlines : s.queue = lines) :
    runQueue now lines s = runAll now lines { s with queue := [] } := by
  induction lines generalizing s with
  | nil =>
    cases s
    cases hlines
    rfl
  | cons line rest ih =>
    rw [runQueue, runAll, dispatch_withQueue s rest, dispatch_withQueue s []]
    cases s.dispatch now line with
    | error a => rfl
    | ok p =>
      obtain ⟨t, shown⟩ := p
      simp only [Step.withQueue, Except.map, ih { t with queue := rest } rfl]

theorem processQueue_eq_runAll (s : Shell σ ν) (now : Instant) :
    s.processQueue now = runAll now s.queue { s with queue := [] } :=
  runQueue_eq_runAll now s.queue s rfl

/-- The first line in the queue is taken off and run. If it ends the session the queue is emptied,
and otherwise it goes on with the line that is then the first. -/
theorem processQueue_eq (s : Shell σ ν) (now : Instant) :
    s.processQueue now =
      match s.queue with
      | [] => .ok (s, [])
      | line :: rest =>
        match dispatch { s with queue := rest } now line with
        | .error a => .error a
        | .ok (t, shown) =>
          if t.exitRequested then .ok ({ t with queue := [] }, shown)
          else (t.processQueue now).map fun (u, more) => (u, shown ++ more) := by
  cases hqueue : s.queue with
  | nil => rw [processQueue, hqueue, runQueue]
  | cons line rest =>
    rw [processQueue, hqueue, runQueue]
    dsimp only
    cases hd : dispatch { s with queue := rest } now line with
    | error a => rfl
    | ok p =>
      obtain ⟨t, shown⟩ := p
      have hrest : t.queue = rest := congrArg Shell.queue (dispatch_eq hd)
      simp only [processQueue, hrest]

/-! ## Refused lines -/

/-- A line without blanks around it is refused with an error. -/
inductive Refuses (s : Shell σ ν) (now : Instant) (line : String) : Error → Prop
  | unknown : s.found? line = none → Refuses s now line (.commandNotFound (Words.ofLine line).name)
  | action {c : Registered Builtin} {e : Error} : s.found? line = some c →
      (c.action.run (s.callBy now line)).refusal? (s.recorded line).toMachine = some e →
      Refuses s now line e

/-- A line that calls a command is refused as the command is. -/
theorem refused_of_refuses {c : Builtin} {e : Error} (hcalls : s.Calls line c)
    (h : s.Refuses now line e) :
    ∃ m, c.run (s.callBy now line) (s.recorded line).toMachine = .error (.refused e) m := by
  have hfound := found?_of_calls hcalls
  cases h with
  | unknown hnone =>
    rw [hfound] at hnone
    cases hnone
  | action hsome hrefusal =>
    obtain rfl := Option.some.inj (hfound.symm.trans hsome)
    exact Action.exists_of_refusal? hrefusal

theorem execute_of_refuses {e : Error} (h : s.Refuses now line e) :
    (s.recorded line).execute now line =
      .ok (s.recorded line, [.write (.error e.message)]) := by
  rw [execute_recorded]
  cases h with
  | unknown hfound => rw [hfound]
  | @action c _ hfound hrefusal =>
    obtain ⟨m, hrun⟩ := Action.exists_of_refusal? hrefusal
    have hm : m = (s.recorded line).toMachine := (c.action.meets_run.of_refused hrun).1
    rw [hfound]
    simp only [perform, hrun, hm]

/-- A refused line has no effect but that it is recorded, shown behind the prompt, and followed by
its error. -/
theorem dispatch_refused {e : Error} (hline : Text.trim raw ≠ "")
    (h : s.Refuses now (Text.trim raw) e) :
    s.dispatch now raw = .ok
      ({ s with session :=
          { s.session with history := s.session.history ++ [Text.trim raw], cursor := .pastEnd } },
        [.write (.plain (s.prompt ++ " " ++ Text.trim raw)), .write (.error e.message)]) := by
  rw [dispatch_of_ne hline, execute_of_refuses h]
  rfl

set_option maxRecDepth 4000 in
/-- A file that is not there cannot be removed. -/
theorem dispatch_refused_rm :
    let s : Shell MemoryStore Offline :=
      start {} ⟨{ entries := [(Key.mode, "fs")] }, []⟩ ⟨⟨⟩, []⟩ {} ⟨0⟩
    Text.trim " RM  gone " = "RM  gone" ∧
      s.Refuses ⟨0⟩ "RM  gone" (.files (.notFound "gone")) ∧
        s.dispatch ⟨0⟩ " RM  gone " = .ok
          ({ s with session :=
              { s.session with history := s.session.history ++ ["RM  gone"], cursor := .pastEnd } },
            [.write (.plain (s.prompt ++ " " ++ "RM  gone")),
              .write (.error "Not found: gone")]) := by
  intro s
  have hline : Text.trim " RM  gone " = "RM  gone" := by decide +kernel
  have hrefuses : s.Refuses ⟨0⟩ "RM  gone" (.files (.notFound "gone")) :=
    .action (found?_of_action (c := .filing .rm) (by decide +kernel)) (by decide +kernel)
  refine ⟨hline, hrefuses, ?_⟩
  rw [← hline] at hrefuses ⊢
  exact dispatch_refused (by rw [hline]; decide) hrefuses

/-! ## Any line -/

/-- The machine after a line without blanks around it. -/
inductive Runs (s : Shell σ ν) (now : Instant) (line : String) : Machine σ ν → Prop
  | blank : line = "" → Runs s now line s.toMachine
  | refused {e : Error} : s.Refuses now line e → Runs s now line (s.recorded line).toMachine
  | called {c : Builtin} {m : Machine σ ν} : s.Calls line c →
      c.Acts (s.callBy now line) (s.recorded line).toMachine m → Runs s now line m

/-- What the shell makes of the machine when it runs a line. -/
theorem runs_of_dispatch (h : s.dispatch now raw = .ok (s', shown)) :
    s.Runs now (Text.trim raw) s'.toMachine := by
  cases dispatched h with
  | blank hline => exact .blank hline
  | unknown _ hfound => exact .refused (.unknown hfound)
  | @called c _ answer _ hcalls hfound hperform =>
    unfold perform at hperform
    split at hperform
    · rename_i output m hrun
      obtain rfl : (render { s.recorded (Text.trim raw) with toMachine := m } output).1 = s' :=
        congrArg Prod.fst (Except.ok.inj hperform)
      rw [toMachine_render]
      exact .called hcalls (c.meets_run.of_ok hrun)
    · rename_i e m hrun
      cases hperform
      obtain ⟨rfl, -⟩ := c.meets_run.of_refused hrun
      exact .refused (.action hfound (Action.refusal?_of_eq hrun))
    · cases hperform

/-- What is true of the machine before a line, recorded or not, and after every command, is true
after the line. -/
theorem of_dispatch {P : Machine σ ν → Prop} (hd : s.dispatch now raw = .ok (s', shown))
    (h : P s.toMachine) (hrecorded : P (s.recorded (Text.trim raw)).toMachine)
    (hacts : ∀ {c : Builtin} {call : Call} {m : Machine σ ν},
      c.Acts call (s.recorded (Text.trim raw)).toMachine m → P m) : P s'.toMachine := by
  have hruns := runs_of_dispatch hd
  generalize s'.toMachine = m at hruns
  cases hruns with
  | blank => exact h
  | refused => exact hrecorded
  | called _ hcalled => exact hacts hcalled

/-- No line changes the profile. -/
theorem profile_dispatch (h : s.dispatch now raw = .ok (s', shown)) : s'.profile = s.profile := by
  rw [dispatch_eq h]

end DevConsole.Shell
