import DevConsole.Proofs.Command.Statistics
import DevConsole.Proofs.Shell.Queue
import DevConsole.Proofs.Text.Lines
import DevConsole.Proofs.Text.Words

/-!
# Statistics of a session

The history of every reachable shell consists of lines without blanks around them, none of them
empty (`Reachable.entered`). So each has a first word, which is what stands before its first blank.
`stats` counts these words in a table, and shows the first five in the ranking of the table
(`Reachable.statistics`).
-/

namespace DevConsole

open Net

variable {σ ν : Type}

/-! ## The lines shown -/

namespace Utility

/-- The lines of the statistics. -/
def statsLines (total : Nat) (mode : Mode) (top : List (String × Nat)) : List String :=
  ["--- Usage Statistics ---", "Total commands: " ++ toString total,
    "Current mode: " ++ mode.name, "", "Top 5 commands:"] ++
      top.map fun entry => "  " ++ entry.1 ++ ": " ++ toString entry.2

theorem statsText_eq {s : Session} {c : Counts} (h : useCounts s.history = .ok c) :
    statsText s = .ok (Text.joinWith "\n"
      (statsLines s.history.length s.mode ((ranked c.table.toList).take 5))) := by
  rw [statsText, h]
  rfl

/-- Nothing that is shown has a line feed in it. -/
theorem newline_not_mem_statsLines {total : Nat} {mode : Mode} {top : List (String × Nat)}
    (htop : ∀ entry ∈ top, Text.IsWord entry.1) :
    ∀ line ∈ statsLines total mode top, '\n' ∉ line.toList := by
  have hmode : '\n' ∉ mode.name.toList := by cases mode <;> decide
  have htotal := (Text.inline_toString total).1
  intro line hline
  rcases List.mem_append.mp hline with hhead | hentry
  · simp only [List.mem_cons, List.not_mem_nil, or_false] at hhead
    rcases hhead with rfl | rfl | rfl | rfl | rfl
    · decide
    · rw [String.toList_append, List.mem_append, not_or]
      exact ⟨by decide, htotal⟩
    · rw [String.toList_append, List.mem_append, not_or]
      exact ⟨by decide, hmode⟩
    · decide
    · decide
  · obtain ⟨entry, hmem, rfl⟩ := List.mem_map.mp hentry
    have hname : '\n' ∉ entry.1.toList := fun h =>
      absurd ((htop entry hmem).2 _ h) (by decide)
    simp only [String.toList_append, List.mem_append, not_or]
    exact ⟨⟨⟨by decide, hname⟩, by decide⟩, (Text.inline_toString entry.2).1⟩

end Utility

namespace Shell

variable {s t : Shell σ ν} {raw : String}

/-- A text of lines is shown line by line. -/
theorem answer_joinWith {lines : List String} (hne : lines ≠ [])
    (h : ∀ line ∈ lines, '\n' ∉ line.toList) :
    answer (Text.joinWith "\n" lines) = Display.ofLines (lines.map Line.plain) := by
  rw [answer, Text.splitOn_joinWith hne h]

/-! ## The history -/

variable [Backend σ] [Client ν]

/-- Lines as they are recorded: without blanks around them, and none of them empty. -/
def Entered (history : List String) : Prop := ∀ line ∈ history, Text.trim line = line ∧ line ≠ ""

theorem entered_kept : Kept fun s : Shell σ ν => Entered s.session.history where
  alike h hst line hline := h line (hst.session ▸ hline)
  line {s t now raw shown} h hs := by
    intro line hline
    rw [history_dispatch hs] at hline
    rcases List.mem_append.mp hline with hold | hnew
    · exact h line hold
    · obtain ⟨hmem, hne⟩ := List.mem_filter.mp hnew
      obtain rfl := List.mem_singleton.mp hmem
      exact ⟨Text.trim_trim raw, of_decide_eq_true hne⟩
  event h he hs line hline := by
    rw [handle_eq he hs] at hline
    exact h line hline
  tick h hs line hline := by
    rw [tick_eq hs] at hline
    exact h line hline

theorem Reachable.entered (h : s.Reachable) : Entered s.session.history :=
  entered_kept.of_reachable (fun _ _ _ _ _ _ hline => nomatch hline) h

/-! ## What is shown -/

/-- What a line of a history starts with, up to its first blank. -/
def firstWords (history : List String) : List String :=
  history.map fun line => (Text.cutAtBlank line).1

theorem map_firstWord {history : List String} (h : Entered history) :
    history.map Text.firstWord = firstWords history :=
  List.map_congr_left fun line hline => (Text.firstWord_eq (h line hline).1 (h line hline).2).1

theorem isWord_of_mem_firstWords {history : List String} {name : String} (h : Entered history)
    (hname : name ∈ firstWords history) : Text.IsWord name := by
  rw [← map_firstWord h] at hname
  obtain ⟨line, hline, rfl⟩ := List.mem_map.mp hname
  exact (Text.firstWord_eq (h line hline).1 (h line hline).2).2

theorem dispatch_stats (hcalls : s.Calls (Text.trim raw) (.utility .stats)) {text : String}
    (htext : Utility.statsText (s.recorded (Text.trim raw)).session = .ok text) (now : Instant) :
    s.dispatch now raw =
      .ok (s.recorded (Text.trim raw), s.echo (Text.trim raw) :: answer text) := by
  have hrun : (Utility.runStats : Action σ ν Output) (s.recorded (Text.trim raw)).toMachine = _ :=
    Utility.runStats_of_statsText htext
  have hcommand : (Builtin.utility .stats).run (s.callBy now (Text.trim raw)) =
      (Utility.runStats : Action σ ν Output) := rfl
  rw [dispatch_of_calls hcalls, hcommand, perform, hrun]
  rfl

/-- The statistics of a session are true. Every use finds its place in the table, which has every
first word once, with the number of lines that start with it, and in the order of first use; the
numbers add up to the number of lines. What is shown are the first five entries of the ranking, and
fewer only if there are no more. -/
theorem Reachable.statistics (h : s.Reachable)
    (hcalls : s.Calls (Text.trim raw) (.utility .stats)) (now : Instant) :
    let history := s.session.history ++ [Text.trim raw]
    let names := firstWords history
    ∃ counts, Utility.useCounts history = .ok counts ∧
      Utility.Tabulates names counts.table.toList ∧
      (counts.table.toList.map Prod.fst).Nodup ∧
      (counts.table.toList.map Prod.snd).sum = history.length ∧
      ∃ ranking, Utility.Ranks names counts.table.toList ranking ∧
        (∀ other, Utility.Ranks names counts.table.toList other → other = ranking) ∧
        (ranking.take 5).length = min 5 names.toFinset.card ∧
        s.dispatch now raw = .ok (s.recorded (Text.trim raw), s.echo (Text.trim raw) ::
          Display.ofLines ((Utility.statsLines history.length s.session.mode
            (ranking.take 5)).map Line.plain)) := by
  intro history names
  have hentries : Entered history := by
    intro line hline
    rcases List.mem_append.mp hline with hold | hnew
    · exact h.entered line hold
    · obtain rfl := List.mem_singleton.mp hnew
      exact ⟨Text.trim_trim raw, ne_empty_of_calls hcalls⟩
  obtain ⟨counts, hcounts, htable⟩ := Utility.exists_useCounts history
  rw [map_firstWord hentries] at htable
  have hranks := htable.ranks_ranked
  have hsum := htable.sum_counts.trans (List.length_map _)
  refine ⟨counts, hcounts, htable, htable.nodup_names, hsum, _, hranks,
    fun _ hother => hother.unique hranks, ?_, ?_⟩
  · have hcard : (Utility.ranked counts.table.toList).length = names.toFinset.card := by
      rw [hranks.perm.length_eq, List.card_toFinset, ← htable.perm_dedup.length_eq,
        List.length_map]
    rw [List.length_take, hcard]
  · have hwords : ∀ entry ∈ (Utility.ranked counts.table.toList).take 5,
        Text.IsWord entry.1 := by
      intro entry hentry
      have hmem := hranks.perm.mem_iff.mp (List.mem_of_mem_take hentry)
      exact isWord_of_mem_firstWords hentries ((htable.mem_iff entry.1 entry.2).mp hmem).1
    have hfeeds : ∀ line ∈ Utility.statsLines history.length s.session.mode
        ((Utility.ranked counts.table.toList).take 5), '\n' ∉ line.toList :=
      Utility.newline_not_mem_statsLines hwords
    have hshown := answer_joinWith (by simp [Utility.statsLines]) hfeeds
    rw [dispatch_stats hcalls (Utility.statsText_eq hcounts), ← hshown]
    rfl

set_option maxRecDepth 4000 in
/-- Two lines start with the same word, with an ideographic space behind it in one of them, and one
of the six words is not among the first five. -/
theorem statistics_words :
    let lines := ["b x", "A", "c", "d", "e", "b\u3000y z"]
    ∃ t : Shell MemoryStore Offline, t.Reachable ∧ t.session.history = lines ∧
      t.Calls (Text.trim " Stats ") (.utility .stats) ∧
      ∃ counts, Utility.useCounts (lines ++ ["Stats"]) = .ok counts ∧
        Utility.Tabulates (firstWords (lines ++ ["Stats"])) counts.table.toList ∧
      ∃ t', t.dispatch ⟨0⟩ " Stats " = .ok (t', t.echo (Text.trim " Stats ") ::
        Display.ofLines (["--- Usage Statistics ---", "Total commands: 7", "Current mode: tools",
          "", "Top 5 commands:", "  b: 2", "  A: 1", "  c: 1", "  d: 1", "  e: 1"].map
            Line.plain)) := by
  intro lines
  let s : Shell MemoryStore Offline :=
    start {} ⟨{ entries := [(Key.mode, "tools")] }, []⟩ ⟨⟨⟩, []⟩ {} ⟨0⟩
  have hrun : (s.submitAll lines |>.processQueue ⟨0⟩).toOption.map
      (fun p => (p.1.session.history, p.1.session.mode)) = some (lines, .utilities) := by
    decide +kernel
  obtain ⟨⟨t, shown⟩, hqueue, hvalues⟩ := Option.map_eq_some_iff.mp hrun
  simp only [Prod.mk.injEq] at hvalues
  obtain ⟨hhistory, hmode⟩ := hvalues
  have hsubmit : (s.submitAll lines).Reachable :=
    ((((((Reachable.start ..).submit "b x").submit "A").submit "c").submit "d").submit "e").submit
      "b\u3000y z"
  have ht : t.Reachable := hsubmit.processQueue (Step.eq_ok_of_toOption hqueue)
  have hcalls : t.Calls (Text.trim " Stats ") (.utility .stats) :=
    ⟨by decide +kernel, .inr (congrArg some hmode.symm)⟩
  have hline : Text.trim " Stats " = "Stats" := by decide +kernel
  obtain ⟨counts, hcounts, htable, -, -, ranking, -, hunique, -, hshown⟩ :=
    ht.statistics hcalls ⟨0⟩
  rw [hhistory, hline] at hcounts htable hunique
  rw [hhistory, hmode] at hshown
  have hranks : Utility.Ranks (firstWords (lines ++ ["Stats"])) counts.table.toList
      [("b", 2), ("A", 1), ("c", 1), ("d", 1), ("e", 1), ("Stats", 1)] := by
    rw [Utility.table_of_useCounts hcounts]
    exact ⟨by decide +kernel, by decide +kernel⟩
  obtain rfl := hunique _ hranks
  have hlines : Utility.statsLines (lines ++ [Text.trim " Stats "]).length .utilities
        ([("b", 2), ("A", 1), ("c", 1), ("d", 1), ("e", 1), ("Stats", 1)].take 5) =
      ["--- Usage Statistics ---", "Total commands: 7", "Current mode: tools", "",
        "Top 5 commands:", "  b: 2", "  A: 1", "  c: 1", "  d: 1", "  e: 1"] := by
    decide +kernel
  exact ⟨t, ht, hhistory, hcalls, counts, hcounts, htable, _, hlines ▸ hshown⟩

end Shell

end DevConsole
