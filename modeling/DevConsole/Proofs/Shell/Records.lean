import DevConsole.Proofs.Command.Records
import DevConsole.Proofs.Shell.Reachable

/-!
# Notes and tasks over a session

`Shell.ledgerAfter` says what a line does to notes and tasks that are kept as plain lists. The
stored texts follow: after every line they stand for what the line makes of the lists
(`kept_of_dispatch`), and so they do from the start of a session on (`Keeps.kept`). Only lines that
add, finish or clear write these texts; a list, an export, and any line with an error in its answer
leave them as they are, byte for byte (`get?_of_quiet`).
-/

namespace DevConsole.Shell

open Files Net

variable {σ ν : Type} [Backend σ] [Client ν] {s s' t : Shell σ ν} {now : Instant}
  {raw line : String} {shown : Display} {c : Builtin} {l : Ledger} {up : σ → Prop}

/-- What a line does to notes and tasks. -/
def ledgerAfter (s : Shell σ ν) (line : String) (l : Ledger) : Ledger :=
  if s.Calls line (.utility .note) then l.note (argsOf line)
  else if s.Calls line (.utility .task) then l.task (argsOf line)
  else l

/-! ## Lines of the two commands -/

/-- How a line of `note` or `task` comes out: the entries are listed, or there are other ones, or
the line is refused, where `same` holds. -/
inductive Comes (s : Shell σ ν) (line entries : String) (e : Effect) (same : Prop) :
    Shell σ ν → Display → Prop
  | listed {rest : List String} : argsOf line = "list" :: rest →
      Comes s line entries e same (s.recorded line) (s.echo line :: answer entries)
  | stored {text : String} : (∀ rest, argsOf line ≠ "list" :: rest) →
      Comes s line entries e same
        { s.recorded line with toMachine := e.apply (s.recorded line).toMachine }
        (s.echo line :: answer text)
  | refused {error : Error} : (∀ rest, argsOf line ≠ "list" :: rest) → same →
      Comes s line entries e same (s.recorded line)
        [s.echo line, .write (.error error.message)]

namespace Comes

variable {entries : String} {e : Effect} {same : Prop} {rest : List String}

omit [Client ν] in
theorem shown_of_list (h : s.Comes line entries e same s' shown)
    (hlist : argsOf line = "list" :: rest) : shown = s.echo line :: answer entries := by
  cases h with
  | listed => rfl
  | stored hother => exact absurd hlist (hother rest)
  | refused hother => exact absurd hlist (hother rest)

omit [Client ν] in
theorem kept (h : s.Comes line entries e (l = .ofStore s.store) s' shown)
    (hlist : ∀ rest, argsOf line = "list" :: rest → l = .ofStore s.store)
    (hstored : Ledger.Kept s.store (e.apply (s.recorded line).toMachine).store l) :
    Ledger.Kept s.store s'.store l := by
  cases h with
  | listed hargs =>
    rw [hlist _ hargs]
    exact .of_same rfl rfl
  | stored => exact hstored
  | refused _ hsame =>
    rw [hsame]
    exact .of_same rfl rfl

end Comes

theorem comes_of_dispatch {entries : String} (e : List String → Effect)
    (same : List String → Prop) (hcalls : s.Calls (Text.trim raw) c)
    (h : ∀ call, (c.run call).Meets (s.recorded (Text.trim raw)).toMachine
      (Answered call.args entries (e call.args) (s.recorded (Text.trim raw)).toMachine)
      fun _ m' => m' = (s.recorded (Text.trim raw)).toMachine ∧
        (∀ rest, call.args ≠ "list" :: rest) ∧ same call.args)
    (hd : s.dispatch now raw = .ok (s', shown)) :
    s.Comes (Text.trim raw) entries (e (argsOf (Text.trim raw))) (same (argsOf (Text.trim raw)))
      s' shown := by
  obtain ⟨call, -, hargs, hout⟩ := dispatched_of_calls hcalls h hd
  rw [hargs] at hout
  rcases hout with
    ⟨output, m, more, hanswered, hrender, rfl⟩ | ⟨e, m, ⟨rfl, hother, hsame⟩, rfl, rfl⟩
  · cases hanswered with
    | listed hlist =>
      cases hrender
      exact .listed hlist
    | stored hother =>
      cases hrender
      exact .stored hother
  · exact .refused hother hsame

theorem comes_of_note (hcalls : s.Calls (Text.trim raw) (.utility .note))
    (hd : s.dispatch now raw = .ok (s', shown)) :
    s.Comes (Text.trim raw) (Ledger.listing "--- Notes ---" (Ledger.ofStore s.store).notes)
      (.notes ((Ledger.ofStore s.store).note (argsOf (Text.trim raw))).notes)
      ((Ledger.ofStore s.store).note (argsOf (Text.trim raw)) = .ofStore s.store) s' shown := by
  have hmeets := fun call => Ledger.meets_note call (s.recorded (Text.trim raw)).toMachine
  have hstore : (s.recorded (Text.trim raw)).store = s.store := rfl
  rw [hstore] at hmeets
  exact comes_of_dispatch (fun args => .notes ((Ledger.ofStore s.store).note args).notes)
    (fun args => (Ledger.ofStore s.store).note args = .ofStore s.store) hcalls hmeets hd

theorem comes_of_task (hcalls : s.Calls (Text.trim raw) (.utility .task))
    (hd : s.dispatch now raw = .ok (s', shown)) :
    s.Comes (Text.trim raw)
      (Ledger.listing "--- Tasks ---" ((Ledger.ofStore s.store).tasks.map Ledger.entryOf))
      (.tasks ((Ledger.ofStore s.store).task (argsOf (Text.trim raw))).tasks)
      ((Ledger.ofStore s.store).task (argsOf (Text.trim raw)) = .ofStore s.store) s' shown := by
  have hmeets := fun call => Ledger.meets_task call (s.recorded (Text.trim raw)).toMachine
  have hstore : (s.recorded (Text.trim raw)).store = s.store := rfl
  rw [hstore] at hmeets
  exact comes_of_dispatch (fun args => .tasks ((Ledger.ofStore s.store).task args).tasks)
    (fun args => (Ledger.ofStore s.store).task args = .ofStore s.store) hcalls hmeets hd

/-! ## Stored texts -/

/-- A text that one command owns is the same after every line of another one. -/
theorem get?_of_not_calls {key : String} (hsep : Backend.Separate σ)
    (hown : (key, c) ∈ Builtin.owners) (hcalls : ¬s.Calls (Text.trim raw) c)
    (hd : s.dispatch now raw = .ok (s', shown)) : s'.store.get? key = s.store.get? key := by
  by_contra hne
  obtain ⟨c', ws, hcalls', hwrites, w, hw, rfl⟩ :=
    ((footprint s now).1 raw s' shown hd).texts hsep key hne
  obtain rfl := hwrites.eq_owner hw hown
  exact hcalls hcalls'

/-- The line lists something, exports something, or has an error in its answer. -/
def Quiet (s : Shell σ ν) (line : String) (shown : Display) : Prop :=
  (∃ rest, argsOf line = "list" :: rest) ∨ s.Calls line (.utility .exporting) ∨
    ∃ e, DisplayEvent.write (.error e) ∈ shown

omit [Client ν] in
theorem Comes.store_of_quiet {entries : String} {e : Effect} {same : Prop}
    (h : s.Comes line entries e same s' shown) (hc : ¬s.Calls line (.utility .exporting))
    (hquiet : s.Quiet line shown) : s'.store = s.store := by
  cases h with
  | listed => rfl
  | stored hother =>
    rcases hquiet with ⟨rest, hlist⟩ | hexport | ⟨e, hmem⟩
    · exact absurd hlist (hother rest)
    · exact absurd hexport hc
    · rcases List.mem_cons.mp hmem with hecho | hanswer
      · cases hecho
      · exact absurd hanswer (error_not_mem_answer _ e)
  | refused => rfl

theorem get?_of_comes {key : String} (hsep : Backend.Separate σ)
    (hown : (key, c) ∈ Builtin.owners) (hne : c ≠ .utility .exporting)
    (hcomes : s.Calls (Text.trim raw) c →
      ∃ entries e same, s.Comes (Text.trim raw) entries e same s' shown)
    (hd : s.dispatch now raw = .ok (s', shown)) (hquiet : s.Quiet (Text.trim raw) shown) :
    s'.store.get? key = s.store.get? key := by
  by_cases hcalls : s.Calls (Text.trim raw) c
  · obtain ⟨entries, e, same, h⟩ := hcomes hcalls
    rw [h.store_of_quiet (fun hexport => hne (hcalls.unique hexport)) hquiet]
  · exact get?_of_not_calls hsep hown hcalls hd

/-- Such a line leaves the texts of notes and tasks as they are. -/
theorem get?_of_quiet (hsep : Backend.Separate σ) (hd : s.dispatch now raw = .ok (s', shown))
    (hquiet : s.Quiet (Text.trim raw) shown) :
    s'.store.get? Key.notes = s.store.get? Key.notes ∧
      s'.store.get? Key.tasks = s.store.get? Key.tasks := by
  constructor
  · exact get?_of_comes (c := .utility .note) hsep (by decide) (by decide)
      (fun hcalls => ⟨_, _, _, comes_of_note hcalls hd⟩) hd hquiet
  · exact get?_of_comes (c := .utility .task) hsep (by decide) (by decide)
      (fun hcalls => ⟨_, _, _, comes_of_task hcalls hd⟩) hd hquiet

/-- The stored texts stand for what the line makes of notes and tasks. -/
theorem kept_of_dispatch (h : Backend.Dependable up) (hs : up s.store.backend)
    (hd : s.dispatch now raw = .ok (s', shown)) :
    Ledger.Kept s.store s'.store (s.ledgerAfter (Text.trim raw) (.ofStore s.store)) := by
  unfold ledgerAfter
  split
  · rename_i hcalls
    refine (comes_of_note hcalls hd).kept (fun rest hlist => ?_) (.setNotes h hs ?_)
    · rw [hlist]
      rfl
    · exact Ledger.tasks_note _ _
  · rename_i hnote
    split
    · rename_i hcalls
      refine (comes_of_task hcalls hd).kept (fun rest hlist => ?_) (.setTasks h hs ?_)
      · rw [hlist]
        rfl
      · exact Ledger.notes_task _ _
    · rename_i htask
      exact .of_same (get?_of_not_calls h.separate (by decide) hnote hd)
        (get?_of_not_calls h.separate (by decide) htask hd)

/-! ## One line -/

/-- A line of `export` is refused, or the stored text is in a file of the working directory. -/
theorem exported_of_dispatch (h : s.Reachable)
    (hcalls : s.Calls (Text.trim raw) (.utility .exporting))
    (hd : s.dispatch now raw = .ok (s', shown)) :
    (∃ e : Error, shown = [s.echo (Text.trim raw), .write (.error e.message)]) ∨
      ∃ word rest key file label, argsOf (Text.trim raw) = word :: rest ∧
        (word, key, file, label) ∈ Ledger.exports ∧
          shown = s.echo (Text.trim raw) :: answer (label ++ " exported to " ++
            (⟨s.session.cwd.segments ++ [file]⟩ : Files.Path).render ++ ".") ∧
            s'.volume.tree.read ⟨s.session.cwd.segments ++ [file]⟩ =
              .ok ((s.store.get? key).getD "[]") := by
  obtain ⟨call, -, hargs, hout⟩ :=
    dispatched_of_calls hcalls (fun call => Ledger.meets_export call _) hd
  rcases hout with ⟨output, m, more, hexported, hrender, rfl⟩ | ⟨e, m, -, rfl, rfl⟩
  · cases hexported with
    | written hword hmem hchange =>
      cases hrender
      rw [hargs] at hword
      exact .inr ⟨_, _, _, _, _, hword, hmem, rfl,
        h.toMachine_grounded.tree.read_of_change hchange⟩
  · exact .inl ⟨e, rfl⟩

/-- What a line without blanks around it does where `l` are notes and tasks before it. -/
structure Records (s : Shell σ ν) (l : Ledger) (line : String) (s' : Shell σ ν)
    (shown : Display) : Prop where
  /-- The stored texts stand for what the line makes of notes and tasks. -/
  kept : Ledger.Kept s.store s'.store (s.ledgerAfter line l)
  notesListed : s.Calls line (.utility .note) → ∀ rest, argsOf line = "list" :: rest →
    shown = s.echo line :: answer (Ledger.listing "--- Notes ---" l.notes)
  tasksListed : s.Calls line (.utility .task) → ∀ rest, argsOf line = "list" :: rest →
    shown = s.echo line :: answer (Ledger.listing "--- Tasks ---" (l.tasks.map Ledger.entryOf))
  /-- An export is refused, or the stored text is in a file of the working directory. -/
  exported : s.Calls line (.utility .exporting) →
    (∃ e : Error, shown = [s.echo line, .write (.error e.message)]) ∨
      ∃ word rest key file label, argsOf line = word :: rest ∧
        (word, key, file, label) ∈ Ledger.exports ∧
          shown = s.echo line :: answer (label ++ " exported to " ++
            (⟨s.session.cwd.segments ++ [file]⟩ : Files.Path).render ++ ".") ∧
            s'.volume.tree.read ⟨s.session.cwd.segments ++ [file]⟩ =
              .ok ((s.store.get? key).getD "[]")
  /-- Lists, exports and errors leave the stored texts as they are. -/
  quiet : s.Quiet line shown →
    s'.store.get? Key.notes = s.store.get? Key.notes ∧
      s'.store.get? Key.tasks = s.store.get? Key.tasks

theorem records_of_dispatch (h : Backend.Dependable up) (hs : up s.store.backend)
    (hr : s.Reachable) (hd : s.dispatch now raw = .ok (s', shown)) :
    s.Records (.ofStore s.store) (Text.trim raw) s' shown where
  kept := kept_of_dispatch h hs hd
  notesListed hcalls _ hlist := (comes_of_note hcalls hd).shown_of_list hlist
  tasksListed hcalls _ hlist := (comes_of_task hcalls hd).shown_of_list hlist
  exported hcalls := exported_of_dispatch hr hcalls hd
  quiet := get?_of_quiet h.separate hd

/-! ## A session -/

/-- `t` is what becomes of a shell that is started on a store, by lines that are run, while time
goes on and what lies outside the shell changes; `l` is what the lines make of the notes and tasks
in the store. -/
inductive Keeps (store : Store σ) : Ledger → Shell σ ν → Prop
  | start (config : Config) (network : Network ν) (clock : Clock) (random : Random) :
      Keeps store (.ofStore store) (start config store network clock random)
  | line {l : Ledger} {t t' : Shell σ ν} {now : Instant} {raw : String} {shown : Display} :
      Keeps store l t → t.dispatch now raw = .ok (t', shown) →
      Keeps store (t.ledgerAfter (Text.trim raw) l) t'
  | tick {l : Ledger} {t t' : Shell σ ν} {now : Instant} {shown : Display} :
      Keeps store l t → t.tick now = .ok (t', shown) → Keeps store l t'
  | outside {l : Ledger} {t : Shell σ ν} (network : Network ν) (clock : Clock)
      (random : Random) : Keeps store l t → Keeps store l { t with network, clock, random }

namespace Keeps

variable {store : Store σ}

theorem reachable (hrun : Keeps store l t) : t.Reachable := by
  induction hrun with
  | start config network clock random => exact .start config store network clock random
  | line _ hd ih => exact ih.dispatch hd
  | tick _ hd ih => exact ih.tick hd
  | outside network clock random _ ih => exact ih.outside network clock random

theorem kept (hrun : Keeps store l t) (h : Backend.Dependable up) (hs : up store.backend) :
    up t.store.backend ∧ Ledger.Kept store t.store l := by
  induction hrun with
  | start config network clock random =>
    have hnotes := get?_start h.separate (by decide : Key.notes ≠ Key.fs) config store network
      clock random
    have htasks := get?_start h.separate (by decide : Key.tasks ≠ Key.fs) config store network
      clock random
    exact ⟨up_start h hs config network clock random, .of_same hnotes htasks⟩
  | line _ hd ih =>
    obtain ⟨hup, hkept⟩ := ih
    have hline := kept_of_dispatch h hup hd
    rw [hkept.ofStore_eq] at hline
    exact ⟨up_dispatch h hup hd, hkept.trans hline⟩
  | tick _ hd ih =>
    rw [tick_eq hd]
    exact ih
  | outside _ _ _ _ ih => exact ih

/-- From the start of a session on, the stored texts stand for what the lines have made of the notes
and tasks that were there. Lines of `note`, `task` and `export` come to an end, and every line that
is run keeps to the lists. -/
theorem records (hrun : Keeps store l t) (h : Backend.Dependable up) (hs : up store.backend) :
    Ledger.Kept store t.store l ∧
      (∀ now raw, t.Calls (Text.trim raw) (.utility .note) ∨
          t.Calls (Text.trim raw) (.utility .task) ∨
          t.Calls (Text.trim raw) (.utility .exporting) →
        ∃ t' shown, t.dispatch now raw = .ok (t', shown)) ∧
      ∀ now raw t' shown, t.dispatch now raw = .ok (t', shown) →
        t.Records l (Text.trim raw) t' shown := by
  obtain ⟨hup, hkept⟩ := hrun.kept h hs
  refine ⟨hkept, ?_, fun now raw t' shown hd => ?_⟩
  · rintro now raw (hcalls | hcalls | hcalls)
    · exact exists_dispatch_of_completes hcalls fun call _ => Ledger.completes_note call _
    · exact exists_dispatch_of_completes hcalls fun call _ => Ledger.completes_task call _
    · exact exists_dispatch_of_completes hcalls fun call _ => Ledger.completes_export call _
  · rw [← hkept.ofStore_eq]
    exact records_of_dispatch h hup hrun.reachable hd

set_option maxRecDepth 4000 in
/-- Notes that cannot be read count as none. The first of two tasks is marked. -/
theorem records_marked :
    let store : Store MemoryStore :=
      ⟨{ entries := [(Key.mode, "tools"), (Key.notes, "?"),
          (Key.tasks, "[\x7b\"text\":\"brew tea\",\"done\":false\x7d]")] }, []⟩
    ∃ t t' shown, Keeps store ⟨["buy milk"], [⟨"brew tea", false⟩]⟩ (t : Shell _ Offline) ∧
      Ledger.Kept store t.store ⟨["buy milk"], [⟨"brew tea", false⟩]⟩ ∧
      t.Calls "task done 1" (.utility .task) ∧ t.dispatch ⟨0⟩ "task done 1" = .ok (t', shown) ∧
        t.Records ⟨["buy milk"], [⟨"brew tea", false⟩]⟩ "task done 1" t' shown ∧
        t.ledgerAfter "task done 1" ⟨["buy milk"], [⟨"brew tea", false⟩]⟩ =
          ⟨["buy milk"], [⟨"brew tea", true⟩]⟩ := by
  intro store
  let s : Shell MemoryStore Offline := Shell.start {} store ⟨⟨⟩, []⟩ {} ⟨0⟩
  have hup : store.backend.failReads = false ∧ store.backend.failWrites = false := ⟨rfl, rfl⟩
  have hadd : Text.trim "note add buy  milk" = "note add buy  milk" := by decide +kernel
  have hdone : Text.trim "task done 1" = "task done 1" := by decide +kernel
  have hstart : s.ledgerAfter "note add buy  milk" (.ofStore store) =
      ⟨["buy milk"], [⟨"brew tea", false⟩]⟩ := by
    decide +kernel
  have hrun : (s.dispatch ⟨0⟩ "note add buy  milk").toOption.map (fun p =>
        (p.1.ledgerAfter "task done 1" ⟨["buy milk"], [⟨"brew tea", false⟩]⟩,
          decide (p.1.Calls "task done 1" (.utility .task)))) =
      some (⟨["buy milk"], [⟨"brew tea", true⟩]⟩, true) := by
    decide +kernel
  obtain ⟨⟨t, shown⟩, hfirst, hvalues⟩ := Option.map_eq_some_iff.mp hrun
  simp only [Prod.mk.injEq, decide_eq_true_eq] at hvalues
  obtain ⟨hafter, hcalls⟩ := hvalues
  have hkeeps : Keeps store ⟨["buy milk"], [⟨"brew tea", false⟩]⟩ t := by
    have hbegun : Keeps store (.ofStore store) s := .start ..
    have hline := hbegun.line (Step.eq_ok_of_toOption hfirst)
    rw [hadd, hstart] at hline
    exact hline
  obtain ⟨hkept, hends, hrecords⟩ := hkeeps.records MemoryStore.dependable hup
  obtain ⟨t', shown', hd⟩ := hends ⟨0⟩ "task done 1" (by rw [hdone]; exact .inr (.inl hcalls))
  have hmarked := hrecords _ _ _ _ hd
  rw [hdone] at hmarked
  exact ⟨t, t', shown', hkeeps, hkept, hcalls, hd, hmarked, hafter⟩

end Keeps
end DevConsole.Shell
