import DevConsole.Proofs.Shell.Reachable
import DevConsole.Proofs.Text.Blank

/-!
# Running lines in order

`Shell.Ran` says that lines have been run one after the other, none of them after one that ended the
session. What running does to the history, to its cursor and to the rest of the shell is shown for
one line and then for all (`Ran.history`, `Ran.cursor`, `Ran.frame`). Lines that wait in the queue
are run in this way up to the first that ends the session (`exists_ran`), so that it makes no
difference whether they are queued first or run as they come (`processQueue_submitAll`).
-/

namespace DevConsole

open Net

variable {σ ν : Type}

namespace Effect

variable [Backend σ]

theorem history_apply (e : Effect) (m : Machine σ ν) :
    (e.apply m).session.history = m.session.history := by cases e <;> rfl

theorem cursor_apply (e : Effect) (m : Machine σ ν) :
    (e.apply m).session.cursor = m.session.cursor := by cases e <;> rfl

end Effect

namespace Shell

variable {s t u : Shell σ ν} {now : Instant} {raw line : String} {lines ran rest : List String}
  {shown more : Display}

/-! ## What lines leave in the history -/

/-- The trimmed forms of lines, without the blank ones. -/
def entriesOf (lines : List String) : List String := (lines.map Text.trim).filter (· ≠ "")

theorem entriesOf_cons (raw : String) (lines : List String) :
    entriesOf (raw :: lines) = entriesOf [raw] ++ entriesOf lines := by
  rw [entriesOf, entriesOf, entriesOf, ← List.filter_append, ← List.map_append,
    List.singleton_append]

theorem entriesOf_eq_nil_iff : entriesOf lines = [] ↔ ∀ raw ∈ lines, Text.trim raw = "" := by
  simp [entriesOf]

theorem entriesOf_of_blank (h : Text.trim raw = "") : entriesOf [raw] = [] := by
  simp [entriesOf, h]

theorem entriesOf_of_ne (h : Text.trim raw ≠ "") : entriesOf [raw] = [Text.trim raw] := by
  simp [entriesOf, h]

/-! ## One line -/

variable [Backend σ] [Client ν]

theorem dispatch_trim (s : Shell σ ν) (now : Instant) (raw : String) :
    s.dispatch now (Text.trim raw) = s.dispatch now raw := by
  simp only [dispatch, Text.trim_trim]

/-- A line that is not blank is added to the history, and the cursor goes past the end. -/
theorem recall_of_ne (hline : Text.trim raw ≠ "") (h : s.dispatch now raw = .ok (t, shown)) :
    t.session.history = s.session.history ++ [Text.trim raw] ∧ t.session.cursor = .pastEnd := by
  have hruns := runs_of_dispatch h
  generalize t.toMachine = m at hruns ⊢
  cases hruns with
  | blank hblank => exact absurd hblank hline
  | refused => exact ⟨rfl, rfl⟩
  | called _ hacts =>
    obtain ⟨e, -, hafter⟩ := hacts
    rw [hafter]
    exact ⟨e.history_apply _, e.cursor_apply _⟩

theorem history_dispatch (h : s.dispatch now raw = .ok (t, shown)) :
    t.session.history = s.session.history ++ entriesOf [raw] := by
  by_cases hline : Text.trim raw = ""
  · rw [dispatch_of_blank hline] at h
    cases h
    rw [entriesOf_of_blank hline, List.append_nil]
  · rw [entriesOf_of_ne hline]
    exact (recall_of_ne hline h).1

theorem cursor_dispatch (h : s.dispatch now raw = .ok (t, shown)) :
    t.session.cursor = if entriesOf [raw] = [] then s.session.cursor else .pastEnd := by
  by_cases hline : Text.trim raw = ""
  · rw [dispatch_of_blank hline] at h
    cases h
    rw [if_pos (entriesOf_of_blank hline)]
  · rw [entriesOf_of_ne hline, if_neg (List.cons_ne_nil _ _)]
    exact (recall_of_ne hline h).2

/-! ## Many lines -/

/-- The lines have been run in order, and none before the last has ended the session. -/
inductive Ran (now : Instant) : Shell σ ν → List String → Shell σ ν → Display → Prop
  | none (s : Shell σ ν) : Ran now s [] s []
  | last {s t : Shell σ ν} {line : String} {shown : Display} :
      s.dispatch now line = .ok (t, shown) → Ran now s [line] t shown
  | next {s t u : Shell σ ν} {line : String} {rest : List String} {shown more : Display} :
      s.dispatch now line = .ok (t, shown) → t.exitRequested = false → Ran now t rest u more →
      Ran now s (line :: rest) u (shown ++ more)

namespace Ran

theorem frame (h : Ran now s ran t shown) :
    t = { s with
      toMachine := t.toMachine, exitRequested := t.exitRequested, program := t.program } := by
  induction h with
  | none s => rfl
  | last hd => exact dispatch_eq hd
  | next hd _ _ ih =>
    rw [dispatch_eq hd] at ih
    exact ih

theorem history (h : Ran now s ran t shown) :
    t.session.history = s.session.history ++ entriesOf ran := by
  induction h with
  | none s => exact (List.append_nil _).symm
  | last hd => exact history_dispatch hd
  | @next s t u line rest _ _ hd _ _ ih =>
    rw [ih, history_dispatch hd, entriesOf_cons line rest, List.append_assoc]

theorem cursor (h : Ran now s ran t shown) :
    t.session.cursor = if entriesOf ran = [] then s.session.cursor else .pastEnd := by
  induction h with
  | none s => rfl
  | last hd => exact cursor_dispatch hd
  | @next s t u line rest _ _ hd _ _ ih =>
    rw [ih, cursor_dispatch hd, entriesOf_cons line rest]
    by_cases hline : entriesOf [line] = []
    · rw [if_pos hline, hline, List.nil_append]
    · rw [if_neg hline, if_neg fun h => hline (List.append_eq_nil_iff.mp h).1]
      exact ite_self _

end Ran

/-- Of some lines those up to the first that ends the session are run, and at least one. -/
theorem exists_ran (h : runAll now lines s = .ok (t, shown)) :
    ∃ ran dropped, lines = ran ++ dropped ∧ Ran now s ran t shown ∧
      (t.exitRequested = false → dropped = []) ∧ (ran = [] → dropped = []) := by
  induction lines generalizing s shown with
  | nil =>
    cases h
    exact ⟨[], [], rfl, .none _, fun _ => rfl, fun _ => rfl⟩
  | cons line rest ih =>
    obtain ⟨u, first, hd, ⟨hexit, rfl, rfl⟩ | ⟨hstay, more, hrest, rfl⟩⟩ :=
      runAll_cons_eq_ok_iff.mp h
    · refine ⟨[line], rest, rfl, .last hd, fun hstay => ?_, fun hnil => ?_⟩
      · rw [hexit] at hstay
        cases hstay
      · cases hnil
    · obtain ⟨ran, dropped, rfl, hran, hall, -⟩ := ih hrest
      refine ⟨line :: ran, dropped, rfl, .next hd hstay hran, hall, fun hnil => ?_⟩
      cases hnil

/-- What comes after a line that ends the session does not matter. -/
theorem Ran.runAll_append (h : Ran now s ran t shown) (hstart : s.exitRequested = false)
    (hexit : t.exitRequested = true) (rest : List String) :
    runAll now (ran ++ rest) s = .ok (t, shown) := by
  induction h with
  | none s =>
    rw [hstart] at hexit
    cases hexit
  | last hd => exact runAll_cons_eq_ok_iff.mpr ⟨_, _, hd, .inl ⟨hexit, rfl, rfl⟩⟩
  | next hd hstay _ ih =>
    exact runAll_cons_eq_ok_iff.mpr ⟨_, _, hd, .inr ⟨hstay, _, ih hstay hexit, rfl⟩⟩

/-! ## Queued lines -/

/-- Queues lines. -/
def submitAll (s : Shell σ ν) (lines : List String) : Shell σ ν := lines.foldl submit s

omit [Backend σ] [Client ν] in
theorem submitAll_eq (s : Shell σ ν) (lines : List String) :
    s.submitAll lines = { s with queue := s.queue ++ lines } := by
  induction lines generalizing s with
  | nil => simp [submitAll]
  | cons line rest ih =>
    have hrest := ih (s.submit line)
    simp only [submitAll, List.foldl_cons] at hrest ⊢
    rw [hrest]
    simp [submit]

theorem processQueue_submitAll_eq (hqueue : s.queue = []) (now : Instant) (lines : List String) :
    (s.submitAll lines).processQueue now = runAll now lines s := by
  rw [processQueue_eq_runAll, submitAll_eq, hqueue]
  cases s
  cases hqueue
  rfl

theorem runLine_eq_dispatch (hqueue : s.queue = []) (now : Instant) (raw : String) :
    s.runLine now raw = s.dispatch now raw := by
  have hone : s.runLine now raw = runAll now [raw] s :=
    processQueue_submitAll_eq hqueue now [raw]
  rw [hone, runAll]
  cases hd : s.dispatch now raw with
  | error a => rfl
  | ok p => simp [runAll, Except.map]

/-- Runs lines as they come, up to the first that ends the session. -/
def runEach (now : Instant) : List String → Shell σ ν → Step σ ν
  | [], s => .ok (s, [])
  | line :: rest, s =>
    match s.runLine now line with
    | .error a => .error a
    | .ok (s, shown) =>
      if s.exitRequested then .ok (s, shown)
      else (runEach now rest s).map fun (s, more) => (s, shown ++ more)

theorem runEach_eq_runAll (hqueue : s.queue = []) (now : Instant) (lines : List String) :
    runEach now lines s = runAll now lines s := by
  induction lines generalizing s with
  | nil => rfl
  | cons line rest ih =>
    rw [runEach, runAll, runLine_eq_dispatch hqueue]
    cases hd : s.dispatch now line with
    | error a => rfl
    | ok p =>
      obtain ⟨t, shown⟩ := p
      have hempty : t.queue = [] := (congrArg Shell.queue (dispatch_eq hd)).trans hqueue
      simp only [ih hempty]

/-- What comes of lines that are handed to a shell: those up to the first that ends the session are
run, the others are dropped, and nothing stays in the queue. -/
structure Batch (s : Shell σ ν) (now : Instant) (lines : List String) (t : Shell σ ν)
    (shown : Display) : Prop where
  queue : t.queue = []
  ran : ∃ ran dropped, lines = ran ++ dropped ∧ Ran now s ran t shown ∧
    (t.exitRequested = false → dropped = []) ∧
    t.session.history = s.session.history ++ entriesOf ran ∧
    (t.exitRequested = true → ∀ others,
      (s.submitAll (ran ++ others)).processQueue now = .ok (t, shown))

theorem batch_of_runAll (hqueue : s.queue = []) (hstart : s.exitRequested = false)
    (h : runAll now lines s = .ok (t, shown)) : s.Batch now lines t shown := by
  obtain ⟨ran, dropped, hlines, hran, hall, -⟩ := exists_ran h
  refine ⟨(congrArg Shell.queue hran.frame).trans hqueue, ran, dropped, hlines, hran, hall,
    hran.history, fun hexit others => ?_⟩
  rw [processQueue_submitAll_eq hqueue]
  exact hran.runAll_append hstart hexit others

/-- On a shell with nothing queued that is not about to end, it comes to the same whether lines are
queued and then run or run one by one up to the first that ends the session. Blank lines do nothing,
and blanks around a line do not matter. -/
theorem processQueue_submitAll (hqueue : s.queue = []) (hstart : s.exitRequested = false)
    (now : Instant) (lines : List String) :
    (s.submitAll lines).processQueue now = runEach now lines s ∧
      (∀ t shown, runEach now lines s = .ok (t, shown) → s.Batch now lines t shown) ∧
      (∀ raw, (∀ c ∈ raw.toList, Text.isBlank c = true) → s.runLine now raw = .ok (s, [])) ∧
      ∀ raw, s.runLine now raw = s.runLine now (Text.trim raw) := by
  refine ⟨?_, fun t shown h => ?_, fun raw hraw => ?_, fun raw => ?_⟩
  · rw [processQueue_submitAll_eq hqueue, runEach_eq_runAll hqueue]
  · rw [runEach_eq_runAll hqueue] at h
    exact batch_of_runAll hqueue hstart h
  · rw [runLine_eq_dispatch hqueue]
    exact dispatch_of_blank (Text.trim_eq_empty_iff.mpr hraw)
  · rw [runLine_eq_dispatch hqueue, runLine_eq_dispatch hqueue, dispatch_trim]

set_option maxRecDepth 4000 in
/-- A batch with a blank line, a change of the mode, and a line after the one that ends the
session. -/
theorem processQueue_submitAll_exit :
    let s : Shell MemoryStore Offline := start {} ⟨{}, []⟩ ⟨⟨⟩, []⟩ {} ⟨0⟩
    let lines := ["\u3000 ", " mode fs\t", "exit", "about"]
    s.queue = [] ∧ s.exitRequested = false ∧ (∀ c ∈ "\u3000 ".toList, Text.isBlank c = true) ∧
      s.runLine ⟨0⟩ "\u3000 " = .ok (s, []) ∧
        ∃ t shown, (s.submitAll lines).processQueue ⟨0⟩ = .ok (t, shown) ∧
          runEach ⟨0⟩ lines s = .ok (t, shown) ∧ s.Batch ⟨0⟩ lines t shown ∧
            t.session.history = ["mode fs", "exit"] ∧ t.exitRequested = true := by
  intro s lines
  have hblank : ∀ c ∈ "\u3000 ".toList, Text.isBlank c = true :=
    List.all_eq_true.mp (by decide +kernel)
  have hrun : ((s.submitAll lines).processQueue ⟨0⟩).toOption.map
        (fun p => (p.1.session.history, p.1.exitRequested)) =
      some (["mode fs", "exit"], true) := by
    decide +kernel
  obtain ⟨⟨t, shown⟩, hqueue, hvalues⟩ := Option.map_eq_some_iff.mp hrun
  obtain ⟨hhistory, hexit⟩ := Prod.mk.inj hvalues
  have hqueue := Step.eq_ok_of_toOption hqueue
  obtain ⟨heach, hbatch, hnothing, -⟩ := processQueue_submitAll (s := s) rfl rfl ⟨0⟩ lines
  have hrunEach := heach.symm.trans hqueue
  exact ⟨rfl, rfl, hblank, hnothing _ hblank, t, shown, hqueue, hrunEach,
    hbatch t shown hrunEach, hhistory, hexit⟩

end Shell
end DevConsole
