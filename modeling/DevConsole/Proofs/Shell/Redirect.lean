import DevConsole.Proofs.Files.Redirect
import DevConsole.Proofs.Shell.Reachable

/-!
# Writing a file and showing it

`echo` takes the name of a file from all that stands behind the sign, `cat` from the first word
behind it. `echo` writes exactly where the rest of its line has the form of a redirect, and gives
the words of any other rest back (`dispatch_echo`). A line of `echo` that is put together of a text
and a name, and answered as if the text had been written under this name, has done so
(`change_of_echo`). `cat` shows what the first word of a name leads to (`dispatch_cat`). So a text
that has been written is shown again under every name without blanks (`dispatch_cat_of_echo`). Under
a name with blanks it is there too, but not shown by `cat` (`dispatch_cat_blank`).
-/

namespace DevConsole.Shell

open Files Net

variable {σ ν : Type} {s s' : Shell σ ν} {now : Instant} {c : Builtin} {raw text name : String}

/-! ## Answers -/

theorem answer_inj {a b : String} (h : answer a = answer b) : a = b := by
  have hline : Function.Injective Line.plain := fun _ _ he => congrArg Line.text he
  have hwrite : Function.Injective DisplayEvent.write := fun _ _ => DisplayEvent.write.inj
  have hchars : Function.Injective String.ofList := fun _ _ => String.ofList_injective
  have hpieces : a.toList.splitOn '\n' = b.toList.splitOn '\n' :=
    List.map_injective_iff.mpr hchars
      (List.map_injective_iff.mpr hline (List.map_injective_iff.mpr hwrite h))
  have hjoin := congrArg (List.intercalate ['\n']) hpieces
  rw [List.intercalate_splitOn, List.intercalate_splitOn] at hjoin
  exact String.toList_inj.mp hjoin

theorem answer_ne_error (text e : String) : answer text ≠ [.write (.error e)] := fun h =>
  error_not_mem_answer text e (h ▸ List.mem_cons_self)

/-! ## Lines of a name and more -/

/-- A line is taken apart into its first word and the trimmed rest. -/
theorem ofLine_trim {word rest : String} (h : Text.Opens raw word rest) :
    Words.ofLine (Text.trim raw) = ⟨Text.lower word, Text.trim rest⟩ := by
  obtain ⟨hfirst, hrest⟩ := h.cutAtBlank_trim
  rw [Words.ofLine]
  dsimp only
  rw [hfirst, hrest]

theorem ofLine_trim_name (c : Builtin) (rest : String) :
    Words.ofLine (Text.trim (c.info.name ++ " " ++ rest)) = ⟨c.info.name, Text.trim rest⟩ := by
  have hblank : " ".toList = [' '] := String.toList_ofList
  have hopens : Text.Opens ("" ++ c.info.name ++ (" " ++ rest)) c.info.name (" " ++ rest) :=
    .mk (by simp) c.isWord_name (by simp [hblank, Text.isBlank])
  have hrest : Text.trim (" " ++ rest) = Text.trim rest := by
    rw [Text.trim, String.toList_append, hblank, Text.trimChars,
      Text.trimStartChars_append (by simp [Text.isBlank]), ← Text.trimChars, Text.trim]
  have hline := ofLine_trim hopens
  rwa [c.lower_name, hrest, String.empty_append, ← String.append_assoc] at hline

/-! ## Writing -/

variable [Backend σ] [Client ν]

/-- `echo` writes what is redirected into its file, and gives back the words of any other line. -/
theorem meets_echo (call : Call) (m : Machine σ ν) :
    ((Builtin.filing .echo).run call).Meets m
      (fun output m' =>
        (Redirect.parse? call.rest = none ∧ output = .text (Text.joinWith " " call.args) ∧
          m' = m) ∨
          ∃ r tree, Redirect.parse? call.rest = some r ∧
            m.volume.tree.change ⟨m.session.cwd, r.name, .writeFile r.content⟩ = .ok tree ∧
              output = .text ("Written to " ++ r.name) ∧ m' = (Effect.files tree).apply m)
      fun e m' => ∃ r f, Redirect.parse? call.rest = some r ∧
        m.volume.tree.change ⟨m.session.cwd, r.name, .writeFile r.content⟩ = .error f ∧
          e = .files f ∧ m' = m := by
  have hrun : (Builtin.filing .echo).run call = (Filing.runEcho call : Action σ ν Output) := rfl
  rw [hrun, Filing.runEcho]
  split
  · rename_i hparse
    exact .inl ⟨hparse, rfl, rfl⟩
  · rename_i r hparse
    simp only [Action.meets_bind, Filing.meets_cwd, Action.meets_writeFile, Action.meets_pure]
    exact ⟨fun tree htree => .inr ⟨r, tree, hparse, htree, rfl, rfl⟩,
      fun f hf => ⟨r, f, hparse, hf, rfl, trivial⟩⟩

theorem completes_echo (call : Call) (m : Machine σ ν) :
    ((Builtin.filing .echo).run call).Completes m fun _ _ => True := by
  have hrun : (Builtin.filing .echo).run call = (Filing.runEcho call : Action σ ν Output) := rfl
  rw [hrun, Filing.runEcho]
  split <;> simp [Filing.cwd]

/-- A line whose command is `echo`, that is put together of a text and a name, and that is answered
as a redirect to this name, has written the text under it. -/
theorem change_of_echo (hcalls : s.Calls (Text.trim raw) (.filing .echo))
    (hrest : (Words.ofLine (Text.trim raw)).rest = Text.trim ("\"" ++ text ++ "\" > " ++ name))
    (h : s.dispatch now raw =
      .ok (s', s.echo (Text.trim raw) :: answer ("Written to " ++ name))) :
    Text.trim name = name ∧ name ≠ "" ∧ s'.session.mode = s.session.mode ∧
      s'.session.cwd = s.session.cwd ∧
        s.volume.tree.change ⟨s.session.cwd, name, .writeFile text⟩ = .ok s'.volume.tree := by
  obtain ⟨call, hcall, hargs, hout⟩ := dispatched_of_calls hcalls (fun call => meets_echo call _) h
  rcases hout with
    ⟨output, m, more, ⟨hparse, rfl, -⟩ | ⟨r, tree, hparse, htree, rfl, rfl⟩, hrender, hshown⟩ |
      ⟨e, -, -, -, hshown⟩
  · -- the words of the line start with a quote
    obtain rfl : answer (Text.joinWith " " call.args) = more := congrArg Prod.snd hrender
    have htext := answer_inj (List.cons.inj hshown).2
    obtain ⟨rest, hquote⟩ : ∃ rest, (Text.trim ("\"" ++ text ++ "\" > " ++ name)).toList =
        '"' :: rest := by
      have hchars : ("\"" ++ text ++ "\" > " ++ name).toList =
          '"' :: (text ++ "\" > " ++ name).toList := by simp
      rw [Text.trim, String.toList_ofList, hchars, Text.trimChars,
        Text.trimStartChars_of_cons (by decide)]
      exact Text.exists_trimEndChars_cons (by decide) _
    have hhead := Text.head?_joinWith_words hquote (by decide)
    rw [hargs, argsOf, hrest] at htext
    rw [← htext] at hhead
    simp at hhead
  · cases hrender
    have hname : r.name = name := by
      have htext := answer_inj (List.cons.inj hshown).2
      exact (String.append_right_inj _).mp htext.symm
    rw [hcall, hrest] at hparse
    obtain rfl := Redirect.eq_of_parse? hparse hname
    obtain ⟨htrim, hne⟩ := Redirect.name_of_parse? (Text.trim_trim _) hparse
    exact ⟨htrim, hne, rfl, rfl, htree⟩
  · exact absurd (List.cons.inj hshown).2 (answer_ne_error _ _)

/-- What `echo` does with the rest of its line. A redirect runs one write under the trimmed name,
and its answer says so or tells why it failed. With any other rest nothing is written, and the words
of the rest are given back. -/
theorem dispatch_echo {word rest : String} (hmode : s.session.mode = .filesystem)
    (hopens : Text.Opens raw word rest) (hword : Text.lower word = "echo") (now : Instant) :
    (∀ r, Redirect.Form (Text.trim rest) r →
      s.dispatch now raw =
        match Volume.writeFile s.session.cwd r.name r.content (s.volume, s.store) with
        | .ok _ (volume, store) => .ok ({ s.recorded (Text.trim raw) with volume, store },
            s.echo (Text.trim raw) :: answer ("Written to " ++ r.name))
        | .error e (volume, store) => .ok ({ s.recorded (Text.trim raw) with volume, store },
            [s.echo (Text.trim raw), .write (.error (Error.files e).message)])) ∧
      ((∀ r, ¬Redirect.Form (Text.trim rest) r) →
        s.dispatch now raw = .ok (s.recorded (Text.trim raw),
          s.echo (Text.trim raw) :: answer (Text.joinWith " " (Text.words (Text.trim rest))))) := by
  have hline : Words.ofLine (Text.trim raw) = ⟨"echo", Text.trim rest⟩ := by
    rw [ofLine_trim hopens, hword]
  have hform : ∀ r, Redirect.parse? (Text.trim rest) = some r ↔ Redirect.Form (Text.trim rest) r :=
    fun r => Redirect.parse?_eq_some_iff
  have hwrite : ∀ r : Redirect,
      Volume.writeFile s.session.cwd r.name r.content (s.volume, s.store) = _ := fun r =>
    Change.perform_eq_change ⟨s.session.cwd, r.name, .writeFile r.content⟩ s.volume s.store
  have hcalls : s.Calls (Text.trim raw) (.filing .echo) :=
    ⟨congrArg Words.name hline, .inr (congrArg some hmode.symm)⟩
  obtain ⟨s', shown, h⟩ : ∃ s' shown, s.dispatch now raw = .ok (s', shown) :=
    exists_dispatch_of_completes hcalls fun call _ => completes_echo call _
  obtain ⟨call, hrest, hargs, hout⟩ := dispatched_of_calls hcalls (fun call => meets_echo call _) h
  rw [hline] at hrest
  rw [argsOf, hline] at hargs
  rw [hrest] at hout
  rw [h]
  rcases hout with
    ⟨output, m, more, ⟨hnone, rfl, rfl⟩ | ⟨r, tree, hsome, htree, rfl, rfl⟩, hrender, rfl⟩ |
      ⟨e, m, ⟨r, f, hsome, htree, rfl, rfl⟩, rfl, rfl⟩
  · refine ⟨fun r hr => ?_, fun _ => ?_⟩
    · rw [(hform r).mpr hr] at hnone
      cases hnone
    · cases hrender
      rw [hargs]
      rfl
  · refine ⟨fun r' hr => ?_, fun hno => absurd ((hform r).mp hsome) (hno r)⟩
    obtain rfl := Option.some.inj (hsome.symm.trans ((hform r').mpr hr))
    have htree : s.volume.tree.change ⟨s.session.cwd, r.name, .writeFile r.content⟩ = .ok tree :=
      htree
    cases hrender
    rw [hwrite, htree]
    rfl
  · refine ⟨fun r' hr => ?_, fun hno => absurd ((hform r).mp hsome) (hno r)⟩
    obtain rfl := Option.some.inj (hsome.symm.trans ((hform r').mpr hr))
    have htree : s.volume.tree.change ⟨s.session.cwd, r.name, .writeFile r.content⟩ = .error f :=
      htree
    rw [hwrite, htree]
    rfl

set_option maxRecDepth 4000 in
/-- A text keeps its two blanks, and the name loses those around it. -/
theorem dispatch_echo_blanks :
    let s : Shell MemoryStore Offline :=
      start {} ⟨{ entries := [(Key.mode, "fs")] }, []⟩ ⟨⟨⟩, []⟩ {} ⟨0⟩
    let rest := "   \"" ++ "a  b" ++ "\" >  my file "
    s.session.mode = .filesystem ∧ Text.Opens (" " ++ "EcHo" ++ rest) "EcHo" rest ∧
      Text.lower "EcHo" = "echo" ∧ Redirect.Form (Text.trim rest) ⟨"a  b", "my file"⟩ ∧
        ∃ volume store, Volume.writeFile s.session.cwd "my file" "a  b" (s.volume, s.store) =
            .ok () (volume, store) ∧
          s.dispatch ⟨0⟩ (" " ++ "EcHo" ++ rest) =
            .ok ({ s.recorded (Text.trim (" " ++ "EcHo" ++ rest)) with volume, store },
              s.echo (Text.trim (" " ++ "EcHo" ++ rest)) ::
                answer ("Written to " ++ "my file")) := by
  intro s rest
  have hmode : s.session.mode = .filesystem := by decide +kernel
  have hbefore : " ".toList.all Text.isBlank = true := by decide +kernel
  have hfull : "EcHo".toList.all (!Text.isBlank ·) = true := by decide +kernel
  have hafter : rest.toList.head?.all Text.isBlank = true := by decide +kernel
  have hopens : Text.Opens (" " ++ "EcHo" ++ rest) "EcHo" rest := by
    refine .mk (List.all_eq_true.mp hbefore) ⟨by decide, ?_⟩ ((Option.all_eq_true _ _).mp hafter)
    simpa only [List.all_eq_true, Bool.not_eq_true'] using hfull
  have hword : Text.lower "EcHo" = "echo" := by decide +kernel
  have hrest : Text.trim rest = "\"" ++ "a  b" ++ "\"" ++ " " ++ ">" ++ "  " ++ "my file" := by
    decide +kernel
  have hform : Redirect.Form (Text.trim rest) ⟨"a  b", "my file"⟩ := by
    have hname : Text.trim "my file" = "my file" := by decide +kernel
    have hmore : "  ".toList.all Text.isBlank = true := by decide +kernel
    rw [hrest, ← hname]
    exact .mk (by decide) (by decide) (List.all_eq_true.mp hbefore) (List.all_eq_true.mp hmore)
      (by decide) (by decide)
  have hwrite : (s.volume.tree.change
      ⟨s.session.cwd, "my file", .writeFile "a  b"⟩).toOption.isSome = true := by decide +kernel
  obtain ⟨tree, htree⟩ : ∃ tree,
      s.volume.tree.change ⟨s.session.cwd, "my file", .writeFile "a  b"⟩ = .ok tree := by
    cases hresult : s.volume.tree.change ⟨s.session.cwd, "my file", .writeFile "a  b"⟩ with
    | ok tree => exact ⟨tree, rfl⟩
    | error e =>
      rw [hresult] at hwrite
      cases hwrite
  have hrun : Volume.writeFile s.session.cwd "my file" "a  b" (s.volume, s.store) =
      .ok () (s.volume.commit tree s.store) := by
    have hperform := Change.perform_eq_change ⟨s.session.cwd, "my file", .writeFile "a  b"⟩
      s.volume s.store
    rwa [htree] at hperform
  have hline := (dispatch_echo hmode hopens hword ⟨0⟩).1 _ hform
  rw [hrun] at hline
  exact ⟨hmode, hopens, hword, hform, _, _, hrun, hline⟩

/-! ## Showing -/

/-- What is shown of a file that is read: its lines, or why it cannot be read. -/
def contentShown : Except FileError String → Display
  | .ok text => answer text
  | .error e => [.write (.error (Error.files e).message)]

theorem completes_cat (call : Call) (m : Machine σ ν) :
    ((Builtin.filing .cat).run call).Completes m fun _ _ => True := by
  have hrun : (Builtin.filing .cat).run call = (Filing.runCat call.args : Action σ ν Output) := rfl
  simp [hrun, Filing.runCat, Filing.cwd]

/-- `cat` shows the file that its first argument leads to. -/
theorem meets_cat (call : Call) (m : Machine σ ν) :
    ((Builtin.filing .cat).run call).Meets m
      (fun output m' => m' = m ∧ ∀ first more, call.args = first :: more → ∃ text,
        m.volume.tree.read (Path.resolve first m.session.cwd) = .ok text ∧ output = .text text)
      fun e m' => m' = m ∧ ∀ first more, call.args = first :: more → ∃ f,
        m.volume.tree.read (Path.resolve first m.session.cwd) = .error f ∧ e = .files f := by
  have hrun : (Builtin.filing .cat).run call = (Filing.runCat call.args : Action σ ν Output) := rfl
  rw [hrun, Filing.runCat]
  simp only [Action.meets_bind, Action.meets_required, Filing.meets_cwd, Action.meets_readTree,
    Action.meets_pure]
  cases call.args with
  | nil => simp
  | cons first more => simp +contextual

/-- A line of `cat` and a name shows the file that the first word of the name leads to. -/
theorem dispatch_cat {first : String} {more : List String} (hmode : s.session.mode = .filesystem)
    (hname : Text.trim name = name) (hfirst : Text.words name = first :: more) (now : Instant) :
    s.dispatch now ("cat " ++ name) = .ok (s.recorded (Text.trim ("cat " ++ name)),
      s.echo (Text.trim ("cat " ++ name)) ::
        contentShown (s.volume.tree.read (Path.resolve first s.session.cwd))) := by
  have hline : Words.ofLine (Text.trim ("cat " ++ name)) = ⟨"cat", name⟩ := by
    have hcat := ofLine_trim_name (.filing .cat) name
    rw [hname] at hcat
    exact hcat
  have hcalls : s.Calls (Text.trim ("cat " ++ name)) (.filing .cat) :=
    ⟨congrArg Words.name hline, .inr (congrArg some hmode.symm)⟩
  obtain ⟨s', shown, h⟩ : ∃ s' shown, s.dispatch now ("cat " ++ name) = .ok (s', shown) :=
    exists_dispatch_of_completes hcalls fun call _ => completes_cat call _
  rw [h]
  obtain ⟨call, -, hargs, hout⟩ := dispatched_of_calls hcalls (fun call => meets_cat call _) h
  rw [argsOf, hline, hfirst] at hargs
  rcases hout with ⟨output, m, more, ⟨rfl, hout⟩, hrender, rfl⟩ | ⟨e, m, ⟨rfl, he⟩, rfl, rfl⟩
  · obtain ⟨text, hread, rfl⟩ := hout _ _ hargs
    have hsame : s.volume.tree.read (Path.resolve first s.session.cwd) = .ok text := hread
    cases hrender
    rw [hsame]
    rfl
  · obtain ⟨f, hread, rfl⟩ := he _ _ hargs
    have hsame : s.volume.tree.read (Path.resolve first s.session.cwd) = .error f := hread
    rw [hsame]
    rfl

/-! ## Writing and showing -/

/-- Where a line of `echo` has been answered as a redirect to a name, this name leads to the text.
`cat` with the name then shows what the first word of the name leads to, which is the text if the
name has no blanks in it. -/
theorem dispatch_cat_of_echo (h : s.Reachable) (hmode : s.session.mode = .filesystem)
    (hwritten : s.dispatch now ("echo \"" ++ text ++ "\" > " ++ name) =
      .ok (s', s.echo (Text.trim ("echo \"" ++ text ++ "\" > " ++ name)) ::
        answer ("Written to " ++ name))) :
    s'.volume.tree.read ⟨s.session.cwd.segments ++ [name]⟩ = .ok text ∧
      (∃ first more, Text.words name = first :: more ∧ ∀ later,
        s'.dispatch later ("cat " ++ name) = .ok (s'.recorded (Text.trim ("cat " ++ name)),
          s'.echo (Text.trim ("cat " ++ name)) ::
            contentShown (s'.volume.tree.read (Path.resolve first s.session.cwd)))) ∧
      ((∀ c ∈ name.toList, Text.isBlank c = false) → ∀ later,
        s'.dispatch later ("cat " ++ name) = .ok (s'.recorded (Text.trim ("cat " ++ name)),
          s'.echo (Text.trim ("cat " ++ name)) :: answer text)) := by
  have hline : Words.ofLine (Text.trim ("echo \"" ++ text ++ "\" > " ++ name)) =
      ⟨"echo", Text.trim ("\"" ++ text ++ "\" > " ++ name)⟩ := by
    have hecho := ofLine_trim_name (.filing .echo) ("\"" ++ text ++ "\" > " ++ name)
    have hsame : "echo \"" ++ text ++ "\" > " ++ name =
        "echo" ++ " " ++ ("\"" ++ text ++ "\" > " ++ name) :=
      String.toList_inj.mp (by simp)
    rw [hsame]
    exact hecho
  have hcalls : s.Calls (Text.trim ("echo \"" ++ text ++ "\" > " ++ name)) (.filing .echo) :=
    ⟨congrArg Words.name hline, .inr (congrArg some hmode.symm)⟩
  obtain ⟨hname, hne, hmode', hcwd, hchange⟩ :=
    change_of_echo hcalls (congrArg Words.rest hline) hwritten
  have hread := h.toMachine_grounded.tree.read_of_change hchange
  refine ⟨hread, ?_, fun hword later => ?_⟩
  · obtain ⟨first, more, hfirst⟩ := Text.exists_words_cons hname hne
    refine ⟨first, more, hfirst, fun later => ?_⟩
    rw [dispatch_cat (hmode'.trans hmode) hname hfirst, hcwd]
  · have hwords : Text.words name = [name] := Text.IsWord.words_eq ⟨hne, hword⟩
    have hvalid : Path.validName name = true := Tree.validName_of_change hchange
    rw [dispatch_cat (hmode'.trans hmode) hname hwords, Path.resolve_name hvalid, hcwd, hread]
    rfl

set_option maxRecDepth 4000 in
/-- A text of two words is written and shown again. -/
theorem dispatch_cat_of_echo_greeting :
    let s : Shell MemoryStore Offline :=
      start {} ⟨{ entries := [(Key.mode, "fs")] }, []⟩ ⟨⟨⟩, []⟩ {} ⟨0⟩
    let line := "echo \"" ++ "hi there" ++ "\" > " ++ "greeting.txt"
    s.Reachable ∧ s.session.mode = .filesystem ∧
      (∀ c ∈ "greeting.txt".toList, Text.isBlank c = false) ∧
      ∃ s', s.dispatch ⟨0⟩ line =
          .ok (s', s.echo (Text.trim line) :: answer ("Written to " ++ "greeting.txt")) ∧
        s'.volume.tree.read ⟨["home", "user", "greeting.txt"]⟩ = .ok "hi there" ∧
        ∃ u, s'.dispatch ⟨0⟩ ("cat " ++ "greeting.txt") =
          .ok (u, s'.echo (Text.trim ("cat " ++ "greeting.txt")) :: answer "hi there") := by
  intro s line
  have hmode : s.session.mode = .filesystem := by decide +kernel
  have hall : "greeting.txt".toList.all (!Text.isBlank ·) = true := by decide +kernel
  have hword : ∀ c ∈ "greeting.txt".toList, Text.isBlank c = false := fun c hc => by
    simpa only [Bool.not_eq_true'] using List.all_eq_true.mp hall c hc
  have hrun : (s.dispatch ⟨0⟩ line).toOption.map Prod.snd =
      some (s.echo (Text.trim line) :: answer ("Written to " ++ "greeting.txt")) := by
    decide +kernel
  obtain ⟨⟨s', shown⟩, hwritten, rfl⟩ := Option.map_eq_some_iff.mp hrun
  have hwritten := Step.eq_ok_of_toOption hwritten
  have hreachable : s.Reachable := .start ..
  obtain ⟨hread, -, hshow⟩ := dispatch_cat_of_echo hreachable hmode hwritten
  have hcwd : s.session.cwd.segments ++ ["greeting.txt"] = ["home", "user", "greeting.txt"] := by
    decide +kernel
  rw [hcwd] at hread
  exact ⟨hreachable, hmode, hword, s', hwritten, hread, _, hshow hword ⟨0⟩⟩

set_option maxRecDepth 4000 in
/-- A name of two words is accepted for writing, and the text stands under it. But `cat` looks for
the first word only, and finds nothing. -/
theorem dispatch_cat_blank :
    ∃ s s' u : Shell MemoryStore Offline, s.Reachable ∧ s.session.mode = .filesystem ∧
      s.dispatch ⟨0⟩ ("echo \"" ++ "hi" ++ "\" > " ++ "my file") =
        .ok (s', s.echo (Text.trim ("echo \"" ++ "hi" ++ "\" > " ++ "my file")) ::
          answer ("Written to " ++ "my file")) ∧
      s'.dispatch ⟨0⟩ ("cat " ++ "my file") = .ok (u, [s'.echo "cat my file",
        .write (.error "Not found: /home/user/my")]) := by
  let s : Shell MemoryStore Offline :=
    start {} ⟨{ entries := [(Key.mode, "fs")] }, []⟩ ⟨⟨⟩, []⟩ {} ⟨0⟩
  have hrun : ((s.dispatch ⟨0⟩ ("echo \"" ++ "hi" ++ "\" > " ++ "my file")).toOption.bind
        fun p => (p.1.dispatch ⟨0⟩ ("cat " ++ "my file")).toOption.map fun q =>
          (p.2 == s.echo (Text.trim ("echo \"" ++ "hi" ++ "\" > " ++ "my file")) ::
              answer ("Written to " ++ "my file") &&
            q.2 == [p.1.echo "cat my file", .write (.error "Not found: /home/user/my")])) =
      some true := by
    decide +kernel
  obtain ⟨⟨s', written⟩, hwritten, hplay⟩ := Option.bind_eq_some_iff.mp hrun
  obtain ⟨⟨u, shown⟩, hshown, hvalues⟩ := Option.map_eq_some_iff.mp hplay
  simp only [Bool.and_eq_true, beq_iff_eq] at hvalues
  obtain ⟨rfl, rfl⟩ := hvalues
  exact ⟨s, s', u, .start .., by decide +kernel, Step.eq_ok_of_toOption hwritten,
    Step.eq_ok_of_toOption hshown⟩

end DevConsole.Shell
