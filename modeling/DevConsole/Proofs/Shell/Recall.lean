import DevConsole.Proofs.Shell.Queue

/-!
# Recalling lines after a fresh start

A shell is `Afresh` if nothing is typed and the cursor stands past the end of the history, so that
the newest line is recalled next. Submitting a line and giving one up both leave nothing typed. But
only a line that is run takes the cursor past the end: a blank line that is submitted, and a line
that is given up, leave it where browsing has brought it (`handle_afresh_iff`).
-/

namespace DevConsole

open Net

/-! ## The newest line -/

namespace Session

theorem historyBack_of_pastEnd {s : Session} {newest : String} (hcursor : s.cursor = .pastEnd)
    (hnewest : s.history.getLast? = some newest) :
    s.historyBack = (some newest, { s with cursor := .line (s.history.length - 1) }) := by
  have hne : s.history ≠ [] := fun h => by simp [h] at hnewest
  rw [historyBack, if_neg (by simpa using hne), hcursor]
  rw [List.getLast?_eq_getElem?] at hnewest
  simp only [hnewest]

theorem historyBack_of_line {s : Session} {i : Nat} (hcursor : s.cursor = .line i)
    (hhistory : s.history ≠ []) :
    s.historyBack = (s.history[i - 1]?, { s with cursor := .line (i - 1) }) := by
  rw [historyBack, if_neg (by simpa using hhistory), hcursor]

end Session

namespace Shell

variable {σ ν : Type} [Backend σ] [Client ν] {s t : Shell σ ν} {now : Instant} {shown : Display}

theorem handle_historyBack (s : Shell σ ν) (now : Instant) :
    s.handle now .historyBack = .ok ({ s with
      session := s.session.historyBack.2
      input := s.session.historyBack.1.getD s.input }, []) := rfl

/-- Nothing is typed, and the newest line is the next to be recalled. -/
structure Afresh (s : Shell σ ν) : Prop where
  input : s.input = ""
  cursor : s.session.cursor = .pastEnd
  recalls : ∀ now, ∃ newest t, s.session.history.getLast? = some newest ∧
    s.handle now .historyBack = .ok (t, []) ∧ t.input = newest

theorem afresh_iff (hhistory : s.session.history ≠ []) :
    s.Afresh ↔ s.input = "" ∧ s.session.cursor = .pastEnd := by
  refine ⟨fun h => ⟨h.input, h.cursor⟩, fun ⟨hinput, hcursor⟩ => ⟨hinput, hcursor, fun now => ?_⟩⟩
  have hnewest := List.getLast?_eq_some_getLast hhistory
  have hback := Session.historyBack_of_pastEnd hcursor hnewest
  refine ⟨_, _, hnewest, s.handle_historyBack now, ?_⟩
  rw [hback, Option.getD_some]

/-! ## Submitting and giving up -/

/-- What submitting the editable line runs: the queue, and then this line. -/
theorem exists_ran_of_submit (h : s.handle now .submit = .ok (t, shown)) :
    ∃ ran dropped, s.queue ++ [s.input] = ran ++ dropped ∧
      Ran now { s with queue := [], input := "" } ran t shown ∧
        (s.queue = [] → ran = [s.input]) := by
  have hrun : runAll now (s.queue ++ [s.input]) { s with queue := [], input := "" } =
      .ok (t, shown) := (processQueue_eq_runAll ..).symm.trans h
  obtain ⟨ran, dropped, hlines, hran, -, hsome⟩ := exists_ran hrun
  refine ⟨ran, dropped, hlines, hran, fun hqueue => ?_⟩
  rw [hqueue, List.nil_append] at hlines
  cases ran with
  | nil =>
    rw [hsome rfl] at hlines
    cases hlines
  | cons line rest =>
    obtain ⟨rfl, hrest⟩ := List.cons.inj hlines
    rw [(List.append_eq_nil_iff.mp hrest.symm).1]

/-- After a line has been submitted or given up, nothing is typed. The shell is on a fresh line
exactly if it was past the end of the history before, or a line that is not blank has been run. -/
theorem handle_afresh_iff (hhistory : s.session.history ≠ []) (now : Instant) :
    (∀ t shown, s.handle now .submit = .ok (t, shown) → t.input = "" ∧
      ∃ ran dropped, s.queue ++ [s.input] = ran ++ dropped ∧
        Ran now { s with queue := [], input := "" } ran t shown ∧
        (s.queue = [] → ran = [s.input]) ∧
        (t.Afresh ↔ s.session.cursor = .pastEnd ∨ ∃ line ∈ ran, Text.trim line ≠ "")) ∧
      ∃ t shown, s.handle now .interrupt = .ok (t, shown) ∧ t.input = "" ∧
        (t.Afresh ↔ s.session.cursor = .pastEnd) := by
  refine ⟨fun t shown h => ?_, s.setInput "", _, rfl, rfl, ?_⟩
  · obtain ⟨ran, dropped, hlines, hran, hone⟩ := exists_ran_of_submit h
    have hinput : t.input = "" := congrArg Shell.input hran.frame
    refine ⟨hinput, ran, dropped, hlines, hran, hone, ?_⟩
    have hkept : t.session.history ≠ [] := by
      rw [hran.history]
      exact List.append_ne_nil_of_left_ne_nil hhistory _
    rw [afresh_iff hkept, and_iff_right hinput, hran.cursor]
    by_cases hblank : entriesOf ran = []
    · have hnone : ¬∃ line ∈ ran, Text.trim line ≠ "" := fun ⟨line, hline, hne⟩ =>
        hne (entriesOf_eq_nil_iff.mp hblank line hline)
      rw [if_pos hblank, or_iff_left hnone]
    · have hsome : ∃ line ∈ ran, Text.trim line ≠ "" := by
        rw [entriesOf_eq_nil_iff] at hblank
        push Not at hblank
        exact hblank
      rw [if_neg hblank]
      exact iff_of_true rfl (.inr hsome)
  · rw [afresh_iff (s := s.setInput "") hhistory]
    exact and_iff_right rfl

set_option maxRecDepth 4000 in
/-- A line is recalled and submitted again, which starts afresh; the next line is given up. -/
theorem handle_afresh_iff_recalled :
    let s : Shell MemoryStore Offline := start {} ⟨{}, []⟩ ⟨⟨⟩, []⟩ {} ⟨0⟩
    ∃ r run t, s.dispatch ⟨0⟩ "mode" = .ok (r, run) ∧ r.handle ⟨0⟩ .historyBack = .ok (t, []) ∧
      t.session.history ≠ [] ∧ t.session.cursor = .line 0 ∧ t.input = "mode" ∧
        ∃ u rerun, t.handle ⟨0⟩ .submit = .ok (u, rerun) ∧ u.input = "" ∧ u.Afresh ∧
          u.session.history ≠ [] ∧
            ∃ v given, u.handle ⟨0⟩ .interrupt = .ok (v, given) ∧ v.Afresh := by
  intro s
  have hplay : ((s.dispatch ⟨0⟩ "mode").toOption.bind fun p =>
        (p.1.handle ⟨0⟩ .historyBack).toOption.bind fun q =>
          (q.1.handle ⟨0⟩ .submit).toOption.map fun r =>
            ((q.1.session.history, q.1.session.cursor, q.1.input, q.1.queue),
              r.1.session.history)) =
      some ((["mode"], .line 0, "mode", []), ["mode", "mode"]) := by
    decide +kernel
  obtain ⟨⟨r, run⟩, hfirst, hplay⟩ := Option.bind_eq_some_iff.mp hplay
  obtain ⟨⟨t, back⟩, hback, hplay⟩ := Option.bind_eq_some_iff.mp hplay
  obtain ⟨⟨u, rerun⟩, hagain, hvalues⟩ := Option.map_eq_some_iff.mp hplay
  simp only [Prod.mk.injEq] at hvalues
  obtain ⟨⟨hhistory, hcursor, hinput, hqueue⟩, hlater⟩ := hvalues
  obtain rfl : ([] : Display) = back := congrArg Prod.snd (Option.some.inj hback)
  have hsubmit := Step.eq_ok_of_toOption hagain
  have ht : t.session.history ≠ [] := by simp [hhistory]
  have hu : u.session.history ≠ [] := by simp [hlater]
  obtain ⟨hempty, ran, -, -, -, hone, hiff⟩ := (handle_afresh_iff ht ⟨0⟩).1 u rerun hsubmit
  have hafresh : u.Afresh := by
    refine hiff.mpr (.inr ⟨"mode", ?_, by decide +kernel⟩)
    rw [hone hqueue, hinput]
    exact List.mem_singleton.mpr rfl
  obtain ⟨v, given, hinterrupt, -, hkept⟩ := (handle_afresh_iff hu ⟨0⟩).2
  exact ⟨r, run, t, Step.eq_ok_of_toOption hfirst, Step.eq_ok_of_toOption hback, ht, hcursor,
    hinput, u, rerun, hsubmit, hempty, hafresh, hu, v, given, hinterrupt,
    hkept.mpr hafresh.cursor⟩

/-- While an earlier line is recalled, giving the line up or submitting a blank one leaves the
cursor on it, and the line before it is recalled next. -/
theorem not_afresh_browsing :
    ∃ t : Shell MemoryStore Offline, t.Reachable ∧ t.session.history = ["clear", "mode"] ∧
      t.session.cursor = .line 1 ∧
      (∃ u shown, t.handle ⟨0⟩ .interrupt = .ok (u, shown) ∧ u.input = "" ∧
        u.session.cursor = .line 1 ∧ ¬u.Afresh ∧
          ∃ v, u.handle ⟨0⟩ .historyBack = .ok (v, []) ∧ v.input = "clear") ∧
      ∃ u, (t.setInput " ").handle ⟨0⟩ .submit = .ok (u, []) ∧ u.input = "" ∧
        u.session.cursor = .line 1 ∧ ¬u.Afresh ∧
          ∃ v, u.handle ⟨0⟩ .historyBack = .ok (v, []) ∧ v.input = "clear" := by
  let s : Shell MemoryStore Offline := start {} ⟨{}, []⟩ ⟨⟨⟩, []⟩ {} ⟨0⟩
  have hrun : (((s.submit "clear").submit "mode").processQueue ⟨0⟩).toOption.map
        (fun p => (p.1.session.history, p.1.session.cursor, p.1.queue)) =
      some (["clear", "mode"], .pastEnd, []) := by
    decide +kernel
  obtain ⟨⟨t, shown⟩, hqueue, hvalues⟩ := Option.map_eq_some_iff.mp hrun
  simp only [Prod.mk.injEq] at hvalues
  obtain ⟨hhistory, hcursor, hnone⟩ := hvalues
  have hqueue := Step.eq_ok_of_toOption hqueue
  have hreach : t.Reachable :=
    (((Reachable.start ..).submit "clear").submit "mode").processQueue hqueue
  have hnewest : t.session.history.getLast? = some "mode" := by rw [hhistory]; rfl
  have hback := Session.historyBack_of_pastEnd hcursor hnewest
  -- the shell on whose editable line the newest line has been recalled
  let b : Shell MemoryStore Offline := { t with
    session := t.session.historyBack.2
    input := t.session.historyBack.1.getD t.input }
  have hb : b.session = { t.session with cursor := .line 1 } := by
    simp only [b, hback, hhistory, List.length_cons, List.length_nil]
  have hagain : b.session.historyBack = (some "clear", { b.session with cursor := .line 0 }) := by
    rw [Session.historyBack_of_line (i := 1) (by rw [hb]) (by simp [hb, hhistory]), hb]
    simp [hhistory]
  have hstays : ∀ u : Shell MemoryStore Offline, u = { b with input := "" } →
      u.input = "" ∧ u.session.cursor = .line 1 ∧ ¬u.Afresh ∧
        ∃ v, u.handle ⟨0⟩ .historyBack = .ok (v, []) ∧ v.input = "clear" := by
    rintro u rfl
    have hplace : ({ b with input := "" } : Shell MemoryStore Offline).session.cursor =
        .line 1 := by
      rw [hb]
    refine ⟨rfl, hplace, fun h => ?_, _, handle_historyBack _ _, ?_⟩
    · rw [h.cursor] at hplace
      cases hplace
    · simp only [hagain, Option.getD_some]
  refine ⟨b, hreach.handle (t.handle_historyBack ⟨0⟩), ?_, ?_, ⟨_, _, rfl, hstays _ rfl⟩, _, ?_,
    hstays { b with input := "" } rfl⟩
  · rw [hb, hhistory]
  · rw [hb]
  · have hline : (b.setInput "").queue = [] := hnone
    have hsubmit : (b.setInput " ").handle ⟨0⟩ .submit = (b.setInput "").runLine ⟨0⟩ " " := rfl
    rw [hsubmit, runLine_eq_dispatch hline]
    exact dispatch_of_blank (by decide +kernel)

end Shell
end DevConsole
