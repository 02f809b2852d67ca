import DevConsole.Proofs.Shell.Recall

/-!
# Browsing the history and typing

A `Browsing` is a position in a list of lines, where the length of the list stands for the fresh
line after them. Recording and recalling do to a session what `Browsing.visit` does to such a
position: one step (`Session.visit_session`), and so any number of them
(`Session.visitAll_session`). The cursor of every reachable shell is a position
(`Shell.Reachable.placed`).

On the editable line, text that is typed and submitted is a line that is run
(`Shell.handleAll_typed_submit`), and a character that is taken back at once leaves no trace
(`Shell.handleAll_taken_back`).
-/

namespace DevConsole

open Net

/-! ## Positions -/

/-- What is done to the history of a session. -/
inductive Visit where
  | record (line : String)
  | back
  | forward
  deriving DecidableEq, Repr

/-- The line that a visit adds to the history. -/
def Visit.added? : Visit → Option String
  | .record line => some line
  | .back | .forward => none

/-- A position in a list of lines, or past its end. -/
structure Browsing where
  lines : List String
  place : Nat
  place_le : place ≤ lines.length

namespace Browsing

/-- A history without lines. -/
def empty : Browsing := ⟨[], 0, Nat.le_refl 0⟩

/-- The line at the position; there is none past the end. -/
def line? (b : Browsing) : Option String := b.lines[b.place]?

def record (b : Browsing) (line : String) : Browsing where
  lines := b.lines ++ [line]
  place := (b.lines ++ [line]).length
  place_le := Nat.le_refl _

def back (b : Browsing) : Browsing where
  lines := b.lines
  place := b.place - 1
  place_le := (Nat.sub_le ..).trans b.place_le

def forward (b : Browsing) : Browsing where
  lines := b.lines
  place := min (b.place + 1) b.lines.length
  place_le := Nat.min_le_right ..

/-- What a visit answers, and the position afterwards. Going forward answers the empty line past the
end. -/
def visit (b : Browsing) : Visit → Option String × Browsing
  | .record line => (none, b.record line)
  | .back => (b.back.line?, b.back)
  | .forward => (some (b.forward.line?.getD ""), b.forward)

/-- The answers of visits one after the other, and the position after them. -/
def visitAll (b : Browsing) : List Visit → List (Option String) × Browsing
  | [] => ([], b)
  | v :: rest =>
    let (answer, b) := b.visit v
    let (answers, b) := b.visitAll rest
    (answer :: answers, b)

theorem lines_visit (b : Browsing) (v : Visit) :
    (b.visit v).2.lines = b.lines ++ v.added?.toList := by
  cases v with
  | record line => rfl
  | back => exact (List.append_nil _).symm
  | forward => exact (List.append_nil _).symm

/-- Lines are only ever added at the end. -/
theorem lines_visitAll (b : Browsing) (visits : List Visit) :
    (b.visitAll visits).2.lines = b.lines ++ visits.filterMap Visit.added? := by
  induction visits generalizing b with
  | nil => exact (List.append_nil _).symm
  | cons v rest ih =>
    rw [visitAll, ih, lines_visit, List.append_assoc]
    cases v <;> rfl

/-- The cursor of a session at the position. -/
def cursor (b : Browsing) : Cursor := if b.place < b.lines.length then .line b.place else .pastEnd

/-- A session whose history stands at the position. -/
def session (b : Browsing) (s : Session) : Session :=
  { s with history := b.lines, cursor := b.cursor }

theorem cursor_of_eq {b : Browsing} (h : b.place = b.lines.length) : b.cursor = .pastEnd :=
  if_neg (by omega)

end Browsing

/-! ## Sessions -/

namespace Session

variable {s : Session}

/-- The cursor stands on a line of the history or past its end. -/
def Placed (s : Session) : Prop := ∀ i, s.cursor = .line i → i < s.history.length

/-- What a visit answers, and the session afterwards. -/
def visit (s : Session) : Visit → Option String × Session
  | .record line => (none, s.record line)
  | .back => s.historyBack
  | .forward => (some s.historyForward.1, s.historyForward.2)

/-- The answers of visits one after the other, and the session after them. -/
def visitAll (s : Session) : List Visit → List (Option String) × Session
  | [] => ([], s)
  | v :: rest =>
    let (answer, s) := s.visit v
    let (answers, s) := s.visitAll rest
    (answer :: answers, s)

theorem placed_of_pastEnd (h : s.cursor = .pastEnd) : s.Placed := by
  intro i hi
  rw [h] at hi
  cases hi

theorem placed_session (b : Browsing) (s : Session) : (b.session s).Placed := by
  intro i hi
  have hcursor : b.cursor = .line i := hi
  unfold Browsing.cursor at hcursor
  split at hcursor
  · cases hcursor
    assumption
  · cases hcursor

/-- The sessions with a cursor on a line or past the end are those that stand at a position. -/
theorem placed_iff_exists_browsing : s.Placed ↔ ∃ b : Browsing, b.session s = s := by
  refine ⟨fun h => ?_, fun ⟨b, hb⟩ => hb ▸ placed_session b s⟩
  cases hcursor : s.cursor with
  | line i =>
    refine ⟨⟨s.history, i, (h i hcursor).le⟩, ?_⟩
    have hplace : Browsing.cursor ⟨s.history, i, (h i hcursor).le⟩ = s.cursor :=
      (if_pos (h i hcursor)).trans hcursor.symm
    rw [Browsing.session, hplace]
  | pastEnd =>
    refine ⟨⟨s.history, s.history.length, Nat.le_refl _⟩, ?_⟩
    rw [Browsing.session, Browsing.cursor_of_eq rfl, ← hcursor]

/-! ### One visit -/

theorem historyBack_session (b : Browsing) (s : Session) :
    (b.session s).historyBack = (b.back.line?, b.back.session s) := by
  have hle := b.place_le
  by_cases hempty : b.lines = []
  · have hsame : b.back = b := by
      rcases b with ⟨lines, place, _⟩
      cases hempty
      cases Nat.le_zero.mp hle
      rfl
    have hnone : (b.session s).history.isEmpty = true := List.isEmpty_iff.mpr hempty
    rw [historyBack, if_pos hnone, hsame, Browsing.line?, hempty]
    rfl
  · have hpos : 0 < b.lines.length := List.length_pos_of_ne_nil hempty
    have hback : b.back.cursor = .line b.back.place := if_pos (by simp only [Browsing.back]; omega)
    by_cases hplace : b.place < b.lines.length
    · have hcursor : (b.session s).cursor = .line b.place := if_pos hplace
      rw [historyBack_of_line hcursor hempty, Browsing.session, Browsing.session, hback]
      rfl
    · have hend : b.place = b.lines.length := by omega
      have hnewest : b.lines.getLast? = b.back.line? := by
        rw [List.getLast?_eq_getElem?, ← hend]
        rfl
      have hline := List.getLast?_eq_some_getLast hempty
      rw [historyBack_of_pastEnd (s := b.session s) (Browsing.cursor_of_eq hend) hline, ← hnewest,
        hline, Browsing.session, Browsing.session, hback]
      simp only [Browsing.back, hend]

theorem historyForward_session (b : Browsing) (s : Session) :
    (b.session s).historyForward = (b.forward.line?.getD "", b.forward.session s) := by
  unfold historyForward
  have hle := b.place_le
  by_cases hplace : b.place < b.lines.length
  · have hcursor : b.cursor = .line b.place := if_pos hplace
    have hnext : b.forward.place = b.place + 1 := Nat.min_eq_left hplace
    by_cases hmore : b.place + 1 < b.lines.length
    · have hforward : b.forward.cursor = .line (b.place + 1) := by
        rw [← hnext]
        exact if_pos (hnext ▸ hmore)
      simp only [Browsing.session, hcursor, hforward, Browsing.line?, hnext]
      simp only [Browsing.forward, List.getElem?_eq_getElem hmore, Option.getD_some]
    · have hend : b.forward.place = b.forward.lines.length := by
        simp only [Browsing.forward] at hnext ⊢
        omega
      have hnone : b.lines[b.place + 1]? = none := List.getElem?_eq_none (by omega)
      simp only [Browsing.session, hcursor, Browsing.cursor_of_eq hend, Browsing.line?, hnext]
      simp only [Browsing.forward, hnone, Option.getD_none]
  · have hend : b.place = b.lines.length := by omega
    have hfar : b.forward.place = b.forward.lines.length := Nat.min_eq_right (by omega)
    have hnone : b.forward.line? = none := List.getElem?_eq_none hfar.ge
    simp only [Browsing.session, Browsing.cursor_of_eq hend, Browsing.cursor_of_eq hfar, hnone,
      Option.getD_none]
    rfl

theorem visit_session (b : Browsing) (s : Session) (v : Visit) :
    (b.session s).visit v = ((b.visit v).1, (b.visit v).2.session s) := by
  cases v with
  | record line =>
    have hend : (b.record line).place = (b.record line).lines.length := rfl
    simp only [visit, Browsing.visit, record, Browsing.session, Browsing.cursor_of_eq hend]
    rfl
  | back => exact historyBack_session b s
  | forward =>
    simp only [visit, Browsing.visit, historyForward_session]

/-! ### Many visits -/

theorem visitAll_session (b : Browsing) (s : Session) (visits : List Visit) :
    (b.session s).visitAll visits = ((b.visitAll visits).1, (b.visitAll visits).2.session s) := by
  induction visits generalizing b with
  | nil => rfl
  | cons v rest ih => simp only [visitAll, Browsing.visitAll, visit_session, ih]

theorem Placed.visit (h : s.Placed) (v : Visit) : (s.visit v).2.Placed := by
  obtain ⟨b, hb⟩ := placed_iff_exists_browsing.mp h
  rw [← hb, visit_session]
  exact placed_session _ s

end Session

namespace Shell

variable {σ ν : Type} [Backend σ] [Client ν] {s t : Shell σ ν} {now : Instant} {shown : Display}

/-! ## The cursor of a shell -/

theorem placed_dispatch {raw : String} (h : s.session.Placed)
    (hs : s.dispatch now raw = .ok (t, shown)) : t.session.Placed := by
  intro i hi
  rw [cursor_dispatch hs] at hi
  rw [history_dispatch hs, List.length_append]
  split at hi
  · exact Nat.lt_add_right _ (h i hi)
  · cases hi

theorem placed_handle {event : InputEvent} (h : s.session.Placed) (he : event ≠ .submit)
    (hs : s.handle now event = .ok (t, shown)) : t.session.Placed := by
  cases event with
  | submit => exact absurd rfl he
  | historyBack =>
    cases hs
    exact h.visit .back
  | historyForward =>
    cases hs
    exact h.visit .forward
  | complete =>
    have hsession : s.complete.1.session = s.session := by
      unfold complete
      split <;> rfl
    obtain rfl : s.complete.1 = t := congrArg Prod.fst (Except.ok.inj hs)
    rw [hsession]
    exact h
  | _ =>
    cases hs
    exact h

theorem placed_kept : Kept fun s : Shell σ ν => s.session.Placed where
  alike h hst := by
    rw [hst.session]
    exact h
  line := placed_dispatch
  event := placed_handle
  tick h hs := by
    rw [tick_eq hs]
    exact h

/-- Whatever a shell has been through, its cursor stands on a line of the history or past its
end. -/
theorem Reachable.placed (h : s.Reachable) : s.session.Placed :=
  placed_kept.of_reachable (fun _ _ _ _ _ => Session.placed_of_pastEnd rfl) h

/-! ## Events one after the other -/

/-- Handles events, each at its time, up to one that the shell cannot handle. -/
def handleAll (s : Shell σ ν) : List (Instant × InputEvent) → Step σ ν
  | [] => .ok (s, [])
  | (now, event) :: rest =>
    match s.handle now event with
    | .error a => .error a
    | .ok (t, shown) => (t.handleAll rest).map fun (u, more) => (u, shown ++ more)

/-- Characters typed one after the other. -/
def typing (typed : List (Instant × Char)) : List (Instant × InputEvent) :=
  typed.map fun (now, c) => (now, .textInput c)

/-- An event that shows nothing goes over to the others. -/
theorem handleAll_cons_of_quiet {event : InputEvent} (h : s.handle now event = .ok (t, []))
    (rest : List (Instant × InputEvent)) :
    s.handleAll ((now, event) :: rest) = t.handleAll rest := by
  simp only [handleAll, h]
  rcases t.handleAll rest with a | ⟨u, more⟩ <;> rfl

theorem handleAll_singleton (s : Shell σ ν) (now : Instant) (event : InputEvent) :
    s.handleAll [(now, event)] = s.handle now event := by
  rw [handleAll]
  cases s.handle now event with
  | error a => rfl
  | ok p => simp [handleAll, Except.map]

/-- Typing goes on at the end of the editable line. -/
theorem handleAll_typing_append (s : Shell σ ν) (typed : List (Instant × Char))
    (rest : List (Instant × InputEvent)) :
    s.handleAll (typing typed ++ rest) =
      (s.setInput (s.input ++ String.ofList (typed.map Prod.snd))).handleAll rest := by
  induction typed generalizing s with
  | nil =>
    have hsame : s.setInput (s.input ++ String.ofList []) = s := by
      rw [setInput, String.ofList_nil, String.append_empty]
    rw [List.map_nil, hsame]
    rfl
  | cons p typed ih =>
    obtain ⟨now, c⟩ := p
    have htyped : s.handle now (.textInput c) = .ok (s.setInput (s.input.push c), []) := rfl
    have hinput : s.input.push c ++ String.ofList (typed.map Prod.snd) =
        s.input ++ String.ofList (c :: typed.map Prod.snd) := by
      apply String.toList_inj.mp
      simp
    rw [typing, List.map_cons, List.cons_append, handleAll_cons_of_quiet htyped]
    exact (ih _).trans (congrArg (fun text => (s.setInput text).handleAll rest) hinput)

theorem input_runLine {raw : String} (h : s.runLine now raw = .ok (t, shown)) :
    t.input = s.input := by
  have hrun : runAll now (s.queue ++ [raw]) { s with queue := [] } = .ok (t, shown) :=
    (processQueue_eq_runAll ..).symm.trans h
  obtain ⟨ran, -, -, hran, -⟩ := exists_ran hrun
  rw [hran.frame]

/-- To type a text on an empty line and submit it is to run it. -/
theorem handleAll_typed_submit (hinput : s.input = "") (typed : List (Instant × Char))
    (now : Instant) :
    s.handleAll (typing typed ++ [(now, .submit)]) =
      s.runLine now (String.ofList (typed.map Prod.snd)) := by
  have hagain : (s.setInput (s.input ++ String.ofList (typed.map Prod.snd))).setInput "" = s := by
    rw [setInput, setInput, ← hinput]
  rw [handleAll_typing_append, handleAll_singleton]
  unfold handle
  dsimp only
  rw [hagain, hinput]
  exact congrArg (s.runLine now) (String.empty_append ..)

/-- A character that is taken back at once might as well not have been typed. -/
theorem handleAll_taken_back (s : Shell σ ν) (i j : Instant) (c : Char)
    (before after : List (Instant × InputEvent)) :
    s.handleAll (before ++ (i, .textInput c) :: (j, .backspace) :: after) =
      s.handleAll (before ++ after) := by
  induction before generalizing s with
  | nil =>
    have hback : (s.setInput (s.input.push c)).handle j .backspace = .ok (s, []) := by
      have hdrop : dropLastChar (s.input.push c) = s.input := by
        rw [dropLastChar, String.toList_push, List.dropLast_concat, String.ofList_toList]
      exact congrArg (fun text => Except.ok (s.setInput text, [])) hdrop
    have htyped : s.handle i (.textInput c) = .ok (s.setInput (s.input.push c), []) := rfl
    rw [List.nil_append, handleAll_cons_of_quiet htyped, handleAll_cons_of_quiet hback,
      List.nil_append]
  | cons p before ih => simp only [List.cons_append, handleAll, ih]

/-! ## Browsing and typing -/

/-- Whatever is recorded and recalled, and in whichever order: a session whose cursor stands on a
line or past the end answers like a position in the list of its lines, which stays one, and lines
are only added at the end. New sessions and the sessions of reachable shells are of this kind. A
text that is typed on an empty editable line and submitted is run, whatever its characters are, and
leaves the line empty. A character that is typed and taken back makes no difference. -/
theorem browsing_and_typing :
    (∀ s : Session, s.Placed → ∃ b : Browsing, b.session s = s ∧ ∀ visits,
        s.visitAll visits = ((b.visitAll visits).1, (b.visitAll visits).2.session s) ∧
          (s.visitAll visits).2.Placed ∧
            (s.visitAll visits).2.history = s.history ++ visits.filterMap Visit.added?) ∧
      (∀ mode cwd, Session.Placed { mode, cwd }) ∧
      (∀ s : Shell σ ν, s.Reachable → s.session.Placed) ∧
      (∀ (s : Shell σ ν) (text : String) (typed : List (Instant × Char)) (now : Instant),
        s.input = "" → typed.map Prod.snd = text.toList →
          s.handleAll (typing typed ++ [(now, .submit)]) = s.runLine now text ∧
            ∀ t shown, s.runLine now text = .ok (t, shown) → t.input = "") ∧
      ∀ (s : Shell σ ν) (i j : Instant) (c : Char) (before after : List (Instant × InputEvent)),
        s.handleAll (before ++ (i, .textInput c) :: (j, .backspace) :: after) =
          s.handleAll (before ++ after) := by
  refine ⟨fun s hs => ?_, fun _ _ => Session.placed_of_pastEnd rfl, fun _ hs => hs.placed,
    fun s text typed now hinput htyped => ⟨?_, fun t shown h => ?_⟩, handleAll_taken_back⟩
  · obtain ⟨b, hb⟩ := Session.placed_iff_exists_browsing.mp hs
    refine ⟨b, hb, fun visits => ?_⟩
    have hvisits : s.visitAll visits =
        ((b.visitAll visits).1, (b.visitAll visits).2.session s) := by
      rw [← Session.visitAll_session, hb]
    have hlines : b.lines = s.history := congrArg Session.history hb
    refine ⟨hvisits, ?_, ?_⟩
    · rw [hvisits]
      exact Session.placed_session _ s
    · rw [hvisits, ← hlines]
      exact b.lines_visitAll visits
  · rw [handleAll_typed_submit hinput, htyped, String.ofList_toList]
  · exact (input_runLine h).trans hinput

set_option maxRecDepth 4000 in
/-- Two lines are recorded and recalled past both ends, and a text with a line feed is typed. -/
theorem browsing_and_typing_new :
    let s : Shell MemoryStore Offline := start {} ⟨{}, []⟩ ⟨⟨⟩, []⟩ {} ⟨0⟩
    let visits := [.record "ls", .record "pwd", .back, .back, .back, .forward, .forward, .forward]
    s.Reachable ∧ s.session.Placed ∧
      (∃ b : Browsing, b.session s.session = s.session ∧
        s.session.visitAll visits =
          ((b.visitAll visits).1, (b.visitAll visits).2.session s.session)) ∧
      (s.session.visitAll visits).1 =
        [none, none, some "pwd", some "ls", some "ls", some "pwd", some "", some ""] ∧
      s.input = "" ∧
        s.handleAll (typing [(⟨0⟩, 'm'), (⟨1⟩, '\n'), (⟨2⟩, 'é')] ++ [(⟨3⟩, .submit)]) =
          s.runLine ⟨3⟩ "m\né" ∧
        ∃ t shown, s.runLine ⟨3⟩ "m\né" = .ok (t, shown) ∧ t.input = "" := by
  intro s visits
  obtain ⟨hbrowse, -, hreach, htype, -⟩ := browsing_and_typing (σ := MemoryStore) (ν := Offline)
  have hs : s.Reachable := .start ..
  have hplaced := hreach s hs
  obtain ⟨b, hb, hvisits⟩ := hbrowse s.session hplaced
  obtain ⟨hrun, hempty⟩ :=
    htype s "m\né" [(⟨0⟩, 'm'), (⟨1⟩, '\n'), (⟨2⟩, 'é')] ⟨3⟩ rfl (by decide +kernel)
  have hanswered : ((s.runLine ⟨3⟩ "m\né").toOption.map fun p => p.1.session.history) =
      some ["m\né"] := by
    decide +kernel
  obtain ⟨⟨t, shown⟩, hline, -⟩ := Option.map_eq_some_iff.mp hanswered
  have hline := Step.eq_ok_of_toOption hline
  exact ⟨hs, hplaced, ⟨b, hb, (hvisits visits).1⟩, by decide +kernel, rfl, hrun, t, shown, hline,
    hempty t shown hline⟩

end Shell
end DevConsole
