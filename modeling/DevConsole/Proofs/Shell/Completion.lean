import DevConsole.Proofs.Command.Answer
import DevConsole.Proofs.Command.Completion
import DevConsole.Proofs.Shell.Queue
import DevConsole.Proofs.Text.Integer

/-!
# Completed lines

Where there is one name only that the editable line may become, completing it puts this name there,
with a blank behind it (`Shell.TabCompletes`). The name is that of a built-in command, so that the
line is answered by the command when it is submitted, unless a line that was queued before it has
changed the mode (`coherent_completion`, `not_answered_queued`).
-/

namespace DevConsole

namespace Text

/-- A blank behind a text does not matter when it is trimmed. -/
theorem trim_append_blank (text : String) : trim (text ++ " ") = trim text := by
  have hblank : " ".toList = [' '] := String.toList_ofList
  have hchars : ∀ cs : List Char, trimChars (cs ++ [' ']) = trimChars cs := by
    intro cs
    rw [trimChars, trimStartChars, List.dropWhile_append, trimChars, trimStartChars]
    split
    · rename_i hnone
      rw [List.isEmpty_iff.mp hnone]
      decide
    · rw [trimEndChars_eq, List.rdropWhile_concat_pos _ _ _ (by decide), trimEndChars_eq]
  rw [trim, String.toList_append, hblank, hchars, trim]

/-- A text without blanks is cut behind its end. -/
theorem cutAtBlank_of_forall {text : String} (h : ∀ c ∈ text.toList, isBlank c = false) :
    cutAtBlank text = (text, "") := by
  have htake : text.toList.takeWhile (!isBlank ·) = text.toList :=
    List.takeWhile_eq_self_iff.mpr fun c hc => by simp [h c hc]
  have hdrop : text.toList.dropWhile (!isBlank ·) = [] :=
    List.dropWhile_eq_nil_iff.mpr fun c hc => by simp [h c hc]
  rw [cutAtBlank, htake, hdrop, String.ofList_toList]
  rfl

end Text

namespace Shell

open Net

variable {σ ν : Type} {s t u v : Shell σ ν} {now : Instant} {name line : String} {c : Builtin}
  {lines : List String} {shown : Display}

/-! ## Answers of commands -/

/-- Something that is shown says that a command is unknown. -/
def SaysUnknown (shown : Display) : Prop :=
  ∃ name, .write (.error (Error.commandNotFound name).message) ∈ shown

theorem not_saysUnknown (h : ∀ line, .write line ∈ shown → line.IsDistinct) :
    ¬SaysUnknown shown :=
  fun ⟨name, hname⟩ => (h _ hname rfl).ne_commandNotFound name rfl

theorem isDistinct_of_render {output : Output} (h : output.IsDistinct) {line : Line}
    (hline : .write line ∈ (s.render output).2) : line.IsDistinct := by
  cases output with
  | text text =>
    obtain ⟨_, hplain, heq⟩ := List.mem_map.mp hline
    obtain ⟨_, -, rfl⟩ := List.mem_map.mp hplain
    cases heq
    exact Line.isDistinct_plain
  | lines ls =>
    obtain ⟨_, hmem, heq⟩ := List.mem_map.mp hline
    cases heq
    exact h _ hmem
  | nothing => cases hline
  | clear => cases List.mem_singleton.mp hline
  | exit farewell =>
    cases List.mem_singleton.mp hline
    exact Line.isDistinct_success
  | launch program =>
    obtain ⟨_, hsystem, heq⟩ := List.mem_map.mp hline
    obtain ⟨_, -, rfl⟩ := List.mem_map.mp hsystem
    cases heq
    exact Line.isDistinct_system

theorem isDistinct_of_perform {action : Action σ ν Output} (h : action.Answers s.toMachine)
    (hperform : s.perform action = .ok (t, shown)) {line : Line} (hline : .write line ∈ shown) :
    line.IsDistinct := by
  unfold perform at hperform
  split at hperform
  · rename_i output m hrun
    obtain rfl : (render { s with toMachine := m } output).2 = shown :=
      congrArg Prod.snd (Except.ok.inj hperform)
    exact isDistinct_of_render (h.of_ok hrun) hline
  · rename_i e m hrun
    obtain rfl : [.write (.error e.message)] = shown :=
      congrArg Prod.snd (Except.ok.inj hperform)
    obtain rfl := DisplayEvent.write.inj (List.mem_singleton.mp hline)
    exact Line.isDistinct_error.mpr (h.of_refused hrun)
  · cases hperform

variable [Backend σ] [Client ν]

/-- A line whose first word is found is not answered with the error for an unknown command. -/
theorem not_saysUnknown_dispatch {raw : String}
    (hfound : (s.found? (Text.trim raw)).isSome = true)
    (h : s.dispatch now raw = .ok (t, shown)) : ¬SaysUnknown shown := by
  refine not_saysUnknown fun line hline => ?_
  cases dispatched h with
  | blank => cases hline
  | unknown _ hnone =>
    rw [hnone] at hfound
    cases hfound
  | @called c _ answer _ _ _ hperform =>
    rcases List.mem_cons.mp hline with hecho | hline
    · cases hecho
      exact Line.isDistinct_plain
    · exact isDistinct_of_perform c.answers_run hperform hline

/-- Of some lines and a last one, all but the last are run first; then the last one is run, unless
the session has ended. -/
theorem exists_runAll_of_append_singleton
    (h : runAll now (lines ++ [line]) s = .ok (v, shown)) : ∃ u early answer,
      runAll now lines s = .ok (u, early) ∧ shown = early ++ answer ∧
        (u.exitRequested = true ∧ v = u ∧ answer = [] ∨
          u.dispatch now line = .ok (v, answer)) := by
  induction lines generalizing s shown with
  | nil =>
    refine ⟨s, [], shown, rfl, rfl, .inr ?_⟩
    obtain ⟨u, first, hd, ⟨-, rfl, rfl⟩ | ⟨-, more, hrest, rfl⟩⟩ := runAll_cons_eq_ok_iff.mp h
    · exact hd
    · cases hrest
      rw [List.append_nil]
      exact hd
  | cons earlier rest ih =>
    obtain ⟨u, first, hd, ⟨hexit, rfl, rfl⟩ | ⟨hstay, more, hrest, rfl⟩⟩ :=
      runAll_cons_eq_ok_iff.mp h
    · exact ⟨_, _, [], runAll_cons_eq_ok_iff.mpr ⟨_, _, hd, .inl ⟨hexit, rfl, rfl⟩⟩,
        (List.append_nil _).symm, .inl ⟨hexit, rfl, rfl⟩⟩
    · obtain ⟨r, shown, answer, hearly, rfl, hend⟩ := ih hrest
      exact ⟨r, first ++ shown, answer,
        runAll_cons_eq_ok_iff.mpr ⟨_, _, hd, .inr ⟨hstay, shown, hearly, rfl⟩⟩,
        (List.append_assoc ..).symm, hend⟩

/-! ## One candidate -/

section

omit [Backend σ] [Client ν]

/-- The candidate starts with what is typed, and it is the name of a command that can be called. -/
theorem exists_builtin_of_unique (h : s.autocomplete s.input = .unique name) :
    s.input.toList <+: name.toList ∧
      ∃ c : Builtin, builtins.resolve? name s.session.mode = some c.registered ∧
        c.info.name = name := by
  have hname : name ∈ builtins.completions s.input s.session.mode := by
    unfold autocomplete at h
    split at h <;> cases h
    rename_i hone
    rw [hone]
    exact List.mem_singleton.mpr rfl
  obtain ⟨hlower, hstarts, hfound⟩ := (Builtin.coherent_builtins.mem_completions _ _ _).mp hname
  obtain ⟨found, hfound⟩ := Option.isSome_iff_exists.mp hfound
  obtain ⟨c, rfl, hc, -⟩ := Registry.resolve?_builtins hfound
  exact ⟨hstarts, c, hfound, hc.trans hlower⟩

/-- Behind the name of a command nothing can be completed. -/
theorem autocomplete_name_blank (s : Shell σ ν) (c : Builtin) :
    s.autocomplete (c.info.name ++ " ") = .none := by
  have hnone : builtins.completions (c.info.name ++ " ") s.session.mode = [] := by
    refine List.eq_nil_iff_forall_not_mem.mpr fun name hname => ?_
    obtain ⟨hlower, hstarts, hfound⟩ := (Builtin.coherent_builtins.mem_completions _ _ _).mp hname
    obtain ⟨found, hfound⟩ := Option.isSome_iff_exists.mp hfound
    obtain ⟨c', -, hc', -⟩ := Registry.resolve?_builtins hfound
    -- the name would have a blank in it
    have hblank : ' ' ∈ c'.info.name.toList := by
      rw [hc', hlower]
      refine hstarts.subset ?_
      rw [String.toList_append]
      exact List.mem_append_right _ (by decide +kernel)
    have hno := c'.not_isBlank_of_mem_name ' ' hblank
    exact absurd hno (by decide)
  unfold autocomplete
  rw [hnone]

theorem found?_name (s : Shell σ ν) (c : Builtin) :
    s.found? c.info.name = builtins.resolve? c.info.name s.session.mode := by
  have hname : (Words.ofLine c.info.name).name = c.info.name := by
    rw [Words.ofLine, Text.cutAtBlank_of_forall c.not_isBlank_of_mem_name]
    exact c.lower_name
  rw [found?, hname]

theorem complete_of_none (h : s.autocomplete s.input = .none) : s.complete = (s, []) := by
  unfold complete
  rw [h]

theorem complete_of_unique (h : s.autocomplete s.input = .unique name) :
    s.complete = (s.setInput (name ++ " "), []) := by
  unfold complete
  rw [h]

/-- The one way to go on from `cal` in the mode a shell starts in. -/
theorem autocomplete_cal (h : s.session.mode = .development) :
    s.autocomplete "cal" = .unique "calc" := by
  have hcal : builtins.completions "cal" .development = ["calc"] := by cbv
  rw [autocomplete, h, hcal]

end

/-- What becomes of a line that is completed to the only candidate. -/
structure TabCompletes (s : Shell σ ν) (now : Instant) (name : String) : Prop where
  /-- The candidate stands on the editable line, with a blank behind it. -/
  completed : s.handle now .complete = .ok (s.setInput (name ++ " "), [])
  /-- The line starts with what was typed. -/
  starts : s.input.toList <+: (name ++ " ").toList
  /-- It is not completed any further. -/
  again : (s.setInput (name ++ " ")).handle now .complete = .ok (s.setInput (name ++ " "), [])
  /-- When it is submitted, the queued lines are run first, and then the line, unless one of them
  ended the session. Its own answer is not that the command is unknown, if they leave the mode as
  it is or the command is one of all modes. -/
  answered : ∀ v shown, (s.setInput (name ++ " ")).handle now .submit = .ok (v, shown) →
    ∃ u early answer,
      runAll now s.queue { s with queue := [], input := "" } = .ok (u, early) ∧
        shown = early ++ answer ∧
        (u.exitRequested = true ∧ v = u ∧ answer = [] ∨
          u.dispatch now (name ++ " ") = .ok (v, answer)) ∧
        (u.session.mode = s.session.mode ∨ (builtins.globals.find? name).isSome = true →
          ¬SaysUnknown answer)
  /-- Where nothing is queued, nothing that is shown says that a command is unknown. -/
  alone : s.queue = [] → ∀ v shown,
    (s.setInput (name ++ " ")).handle now .submit = .ok (v, shown) → ¬SaysUnknown shown

/-- What is answered when the name of a command is submitted that can be called in the mode that the
session is in. -/
theorem answer_of_submit (hfound : builtins.resolve? c.info.name s.session.mode = some c.registered)
    (h : (s.setInput (c.info.name ++ " ")).handle now .submit = .ok (v, shown)) :
    ∃ u early answer, runAll now s.queue { s with queue := [], input := "" } = .ok (u, early) ∧
      shown = early ++ answer ∧
      (u.exitRequested = true ∧ v = u ∧ answer = [] ∨
        u.dispatch now (c.info.name ++ " ") = .ok (v, answer)) ∧
      (u.session.mode = s.session.mode ∨ (builtins.globals.find? c.info.name).isSome = true →
        ¬SaysUnknown answer) := by
  have hrun : runAll now (s.queue ++ [c.info.name ++ " "]) { s with queue := [], input := "" } =
    .ok (v, shown) := (processQueue_eq_runAll ..).symm.trans h
  obtain ⟨u, early, answer, hearly, hshown, hend⟩ := exists_runAll_of_append_singleton hrun
  refine ⟨u, early, answer, hearly, hshown, hend, fun hmode => ?_⟩
  rcases hend with ⟨-, -, rfl⟩ | hdispatch
  · exact not_saysUnknown fun line hline => absurd hline List.not_mem_nil
  · refine not_saysUnknown_dispatch ?_ hdispatch
    rw [Text.trim_append_blank, Text.trim_of_forall c.not_isBlank_of_mem_name, found?_name]
    rcases hmode with hmode | hglobal
    · rw [hmode, hfound]
      rfl
    · rw [Registry.resolve?, c.lower_name, Option.isSome_or, hglobal, Bool.true_or]

theorem tabCompletes_of_unique (h : s.autocomplete s.input = .unique name) (now : Instant) :
    s.TabCompletes now name := by
  obtain ⟨hstarts, c, hfound, rfl⟩ := exists_builtin_of_unique h
  refine ⟨congrArg Except.ok (complete_of_unique h), ?_,
    congrArg Except.ok (complete_of_none (autocomplete_name_blank _ c)),
    fun v shown => answer_of_submit hfound, fun hqueue v shown hv => ?_⟩
  · rw [String.toList_append]
    exact hstarts.trans (List.prefix_append _ _)
  · obtain ⟨u, early, answer, hearly, rfl, -, hmode⟩ := answer_of_submit hfound hv
    rw [hqueue] at hearly
    cases hearly
    exact hmode (.inl rfl)

/-- However commands have been registered, completing, listing and looking up names agree; and in a
shell, whose commands have been registered too, a line is completed to the only candidate. -/
theorem coherent_completion {α : Type} (gs : List (Registry.Registration α)) :
    Registry.Coherent gs (Registry.ofRegistrations gs) ∧
      builtins = Registry.ofRegistrations Builtin.registrations ∧
        ∀ (s : Shell σ ν) (now : Instant) (name : String),
          s.autocomplete s.input = .unique name → s.TabCompletes now name :=
  ⟨Registry.coherent_ofRegistrations gs, Builtin.builtins_eq_ofRegistrations,
    fun _ now _ h => tabCompletes_of_unique h now⟩

/-- Of three commands of one name the last one of all modes is found; `cal` becomes `calc`, which is
answered by the command. -/
theorem coherent_completion_calc :
    let gs : List (Registry.Registration Nat) :=
      [⟨none, ⟨⟨"Sum", "", ""⟩, 1⟩⟩, ⟨none, ⟨⟨"SUM", "", ""⟩, 2⟩⟩,
        ⟨some .utilities, ⟨⟨"sum", "", ""⟩, 3⟩⟩]
    let s : Shell MemoryStore Offline := (start {} ⟨{}, []⟩ ⟨⟨⟩, []⟩ {} ⟨0⟩).setInput "cal"
    ((Registry.ofRegistrations gs).resolve? "sUM" .utilities).map Registered.action = some 2 ∧
      "sum" ∈ (Registry.ofRegistrations gs).completions "s" .utilities ∧
        s.autocomplete s.input = .unique "calc" ∧ s.TabCompletes ⟨0⟩ "calc" ∧
          ∃ v shown, (s.setInput "calc ").handle ⟨0⟩ .submit = .ok (v, shown) ∧
            ¬SaysUnknown shown := by
  intro gs s
  have hcoherent := (coherent_completion (σ := MemoryStore) (ν := Offline) gs).1
  have hunique : s.autocomplete s.input = .unique "calc" := autocomplete_cal rfl
  have htab : s.TabCompletes ⟨0⟩ "calc" := (coherent_completion gs).2.2 s ⟨0⟩ "calc" hunique
  have hfound : ((Registry.ofRegistrations gs).resolve? "sUM" .utilities).map Registered.action =
      some 2 := by
    rw [hcoherent.last]
    decide +kernel
  have hsum : "sum" ∈ (Registry.ofRegistrations gs).completions "s" .utilities := by
    rw [hcoherent.mem_completions]
    decide +kernel
  have hsubmit : ((s.setInput "calc ").handle ⟨0⟩ .submit).toOption.isSome = true := by
    decide +kernel
  obtain ⟨⟨v, shown⟩, hv⟩ := Option.isSome_iff_exists.mp hsubmit
  have hv := Step.eq_ok_of_toOption hv
  exact ⟨hfound, hsum, hunique, htab, v, shown, hv, htab.alone rfl v shown hv⟩

/-- A queued line changes the mode after a name has been completed: the command is unknown by the
time when its line is run. -/
theorem not_answered_queued :
    ∃ s : Shell MemoryStore Offline, s.Reachable ∧ s.queue = ["mode fs"] ∧
      s.autocomplete s.input = .unique "calc" ∧
        ∃ v shown, (s.setInput "calc ").handle ⟨0⟩ .submit = .ok (v, shown) ∧
          SaysUnknown shown := by
  let s : Shell MemoryStore Offline :=
    ((start {} ⟨{}, []⟩ ⟨⟨⟩, []⟩ {} ⟨0⟩).submit "mode fs").setInput "cal"
  have hreach : s.Reachable := ((Reachable.start ..).submit "mode fs").setInput "cal"
  have hunique : s.autocomplete s.input = .unique "calc" := autocomplete_cal rfl
  have hrun : ((s.setInput "calc ").handle ⟨0⟩ .submit).toOption.map
        (fun p => p.2.contains (.write (.error (Error.commandNotFound "calc").message))) =
      some true := by
    decide +kernel
  obtain ⟨⟨v, shown⟩, hv, hsays⟩ := Option.map_eq_some_iff.mp hrun
  refine ⟨s, hreach, rfl, hunique, v, shown, Step.eq_ok_of_toOption hv, "calc", ?_⟩
  exact List.contains_iff_mem.mp hsays

end Shell
end DevConsole
