import DevConsole.Proofs.Command.Footprint
import DevConsole.Proofs.Files.Directory
import DevConsole.Proofs.Json.Decoding

/-!
# Notes and tasks as plain lists

A `Ledger` holds notes and tasks as plain lists, and `Ledger.note` and `Ledger.task` say what the
arguments of the two commands do to them. `Ledger.ofStore` reads a ledger off a store, where a text
that cannot be read counts as none. The lists are read back from the texts that they are stored as
(`decodeNotes?_encodeNotes`, `decodeList?_encodeList`), so that the commands do to the store what is
done to the ledger (`meets_note`, `meets_task`). Exporting writes a stored text into a file as it is
(`meets_export`).
-/

namespace DevConsole

open Files Net

/-- Notes and tasks. -/
structure Ledger where
  notes : List String
  tasks : List Task
  deriving DecidableEq, Repr

namespace Ledger

/-- The tasks with the one of a number done, counting from one. -/
def finish (tasks : List Task) (number : Nat) : List Task :=
  tasks.mapIdx fun i t => if i + 1 = number then { t with done := true } else t

/-- What the arguments of `note` do. -/
def note (l : Ledger) : List String → Ledger
  | "add" :: word :: words => { l with notes := l.notes ++ [Text.joinWith " " (word :: words)] }
  | "clear" :: _ => { l with notes := [] }
  | _ => l

/-- What the arguments of `task` do. -/
def task (l : Ledger) : List String → Ledger
  | "add" :: word :: words =>
    { l with tasks := l.tasks ++ [⟨Text.joinWith " " (word :: words), false⟩] }
  | "done" :: number :: _ =>
    match Text.natural64? number with
    | some n => { l with tasks := finish l.tasks n }
    | none => l
  | "clear" :: _ => { l with tasks := [] }
  | _ => l

/-- Entries with numbers before them, from a number on. -/
def numberedFrom : Nat → List String → List String
  | _, [] => []
  | n, entry :: rest => (toString n ++ ". " ++ entry) :: numberedFrom (n + 1) rest

/-- Entries under a heading, numbered from one. -/
def listing (heading : String) (entries : List String) : String :=
  Text.joinWith "\n" (heading :: numberedFrom 1 entries)

/-- A task as an entry: whether it is done, and its text. -/
def entryOf (t : Task) : String := (if t.done then "[x] " else "[ ] ") ++ t.text

/-! ## Numbers -/

theorem numberedFrom_eq (n : Nat) (entries : List String) :
    numberedFrom n entries = entries.mapIdx fun i entry => toString (n + i) ++ ". " ++ entry := by
  induction entries generalizing n with
  | nil => rfl
  | cons entry rest ih =>
    rw [numberedFrom, ih, List.mapIdx_cons]
    simp only [Nat.add_zero, Nat.add_assoc, Nat.add_comm 1]

theorem numbered_eq_listing (heading : String) (entries : List String) :
    Utility.numbered heading entries = listing heading entries := by
  rw [Utility.numbered, listing, numberedFrom_eq]
  simp only [Nat.add_comm 1]

/-- Nothing but the task of the number is marked. -/
theorem getElem?_finish (tasks : List Task) (number i : Nat) :
    (finish tasks number)[i]? =
      tasks[i]?.map fun t => if i + 1 = number then { t with done := true } else t := by
  rw [finish, List.getElem?_mapIdx]

theorem finish_eq_self {tasks : List Task} {number : Nat}
    (h : ¬(1 ≤ number ∧ number ≤ tasks.length)) : finish tasks number = tasks := by
  apply List.ext_getElem?
  intro i
  rw [getElem?_finish]
  by_cases hi : i < tasks.length
  · have hne : i + 1 ≠ number := by omega
    simp [hne]
  · simp [List.getElem?_eq_none (Nat.le_of_not_lt hi)]

/-- Marking succeeds for the numbers of the tasks. -/
theorem finish?_eq (tasks : List Task) (number : Nat) :
    Task.finish? tasks number =
      if 1 ≤ number ∧ number ≤ tasks.length then some (finish tasks number) else none := by
  cases number with
  | zero => rfl
  | succ i =>
    have hsame : tasks.modify i (fun t => { t with done := true }) = finish tasks (i + 1) := by
      apply List.ext_getElem?
      intro j
      rw [getElem?_finish, List.getElem?_modify]
      by_cases hij : i = j
      · simp [hij]
      · simp [hij, Ne.symm hij]
    have hbound : i < tasks.length ↔ 1 ≤ i + 1 ∧ i + 1 ≤ tasks.length := by omega
    rw [Task.finish?, hsame]
    exact if_congr hbound rfl rfl

end Ledger

/-! ## Texts -/

theorem Utility.decodeNotes?_encodeNotes (notes : List String) :
    decodeNotes? (encodeNotes notes).compact = some notes := by
  have hplain : Json.Plain (encodeNotes notes) := .array fun v hv => by
    obtain ⟨text, -, rfl⟩ := List.mem_map.mp hv
    exact .string text
  have hdepth : (encodeNotes notes).depth ≤ Json.maxDepth := by
    have hitems : Json.depthItems (notes.map Json.string) ≤ 0 :=
      Json.depthItems_le_iff.mpr fun v hv => by
        obtain ⟨text, -, rfl⟩ := List.mem_map.mp hv
        exact Nat.le_refl 0
    rw [encodeNotes, Json.depth, Json.maxDepth]
    omega
  rw [decodeNotes?, Json.read_compact hplain, if_pos hdepth]
  exact Json.list?_array_map fun _ _ => rfl

theorem Task.decodeList?_encodeList (tasks : List Task) :
    decodeList? (encodeList tasks).compact = some tasks := by
  have hplain : Json.Plain (encodeList tasks) := .array fun v hv => by
    obtain ⟨t, -, rfl⟩ := List.mem_map.mp hv
    refine .object fun m hm => ?_
    simp only [List.mem_cons, List.not_mem_nil, or_false] at hm
    rcases hm with rfl | rfl
    · exact .string t.text
    · exact .bool t.done
  rw [decodeList?, Json.parse_compact hplain]
  exact Json.list?_array_map fun _ _ => rfl

/-! ## What is stored -/

namespace Ledger

/-- `entries` are what a text under a name stands for that was `before` at first: the text is the
same as then, where one that cannot be read counts as no entries, or it decodes to them. -/
def KeptAs {α : Type} (decode : String → Option (List α)) (before after : Option String)
    (entries : List α) : Prop :=
  after = before ∧ entries = (before.bind decode).getD [] ∨ after.bind decode = some entries

section KeptAs

variable {α : Type} {decode : String → Option (List α)} {a b c : Option String} {xs ys : List α}

theorem KeptAs.getD_eq (h : KeptAs decode a b xs) : (b.bind decode).getD [] = xs := by
  rcases h with ⟨rfl, rfl⟩ | hdecode
  · rfl
  · rw [hdecode, Option.getD_some]

theorem KeptAs.trans (h : KeptAs decode a b xs) (h' : KeptAs decode b c ys) :
    KeptAs decode a c ys := by
  rcases h' with ⟨rfl, rfl⟩ | hdecode
  · rw [h.getD_eq]
    exact h
  · exact .inr hdecode

end KeptAs

variable {σ : Type} [Backend σ]

/-- The ledger in a store; a text that cannot be read counts as no entries. -/
def ofStore (s : Store σ) : Ledger where
  notes := ((s.get? Key.notes).bind Utility.decodeNotes?).getD []
  tasks := ((s.get? Key.tasks).bind Task.decodeList?).getD []

/-- `l` is what the store holds after another one. -/
structure Kept (before after : Store σ) (l : Ledger) : Prop where
  notes : KeptAs Utility.decodeNotes? (before.get? Key.notes) (after.get? Key.notes) l.notes
  tasks : KeptAs Task.decodeList? (before.get? Key.tasks) (after.get? Key.tasks) l.tasks

namespace Kept

variable {before s after : Store σ} {l l' : Ledger}

theorem of_same (hnotes : after.get? Key.notes = before.get? Key.notes)
    (htasks : after.get? Key.tasks = before.get? Key.tasks) : Kept before after (ofStore before) :=
  ⟨.inl ⟨hnotes, rfl⟩, .inl ⟨htasks, rfl⟩⟩

theorem ofStore_eq (h : Kept before after l) : ofStore after = l := by
  rw [ofStore, h.notes.getD_eq, h.tasks.getD_eq]

theorem trans (h : Kept before s l) (h' : Kept s after l') : Kept before after l' :=
  ⟨h.notes.trans h'.notes, h.tasks.trans h'.tasks⟩

variable {up : σ → Prop}

/-- Storing other notes leaves the tasks alone. -/
theorem setNotes (h : Backend.Dependable up) (hs : up before.backend)
    (hl : l.tasks = (ofStore before).tasks) :
    Kept before (before.setJson Key.notes (Utility.encodeNotes l.notes)) l where
  notes := .inr (by
    rw [Store.setJson, Store.get?_set h.reliable hs, Option.bind_some,
      Utility.decodeNotes?_encodeNotes])
  tasks := .inl ⟨Store.get?_set_of_ne h.separate _ (by decide), hl⟩

/-- Storing other tasks leaves the notes alone. -/
theorem setTasks (h : Backend.Dependable up) (hs : up before.backend)
    (hl : l.notes = (ofStore before).notes) :
    Kept before (before.setJson Key.tasks (Task.encodeList l.tasks)) l where
  notes := .inl ⟨Store.get?_set_of_ne h.separate _ (by decide), hl⟩
  tasks := .inr (by
    rw [Store.setJson, Store.get?_set h.reliable hs, Option.bind_some,
      Task.decodeList?_encodeList])

end Kept
end Ledger

/-! ## What the commands do -/

variable {σ ν : Type} [Backend σ] {m : Machine σ ν} {args : List String}

/-- How a call of `note` or `task` comes out that is not refused: the entries are listed, or there
are other ones, and the answer says so. -/
inductive Answered (args : List String) (entries : String) (e : Effect) (m : Machine σ ν) :
    Output → Machine σ ν → Prop
  | listed {rest : List String} : args = "list" :: rest →
      Answered args entries e m (.text entries) m
  | stored {text : String} : (∀ rest, args ≠ "list" :: rest) →
      Answered args entries e m (.text text) (e.apply m)

theorem Answered.of_word {word entries text : String} {rest : List String} {e : Effect}
    (h : word ≠ "list") :
    Answered (word :: rest) entries e m (.text text) (e.apply m) :=
  .stored fun _ he => h (List.cons.inj he).1

/-- The kinds of entries that can be exported: the word for them, the name that they are stored
under, the file that they are written into, and what they are called. -/
def Ledger.exports : List (String × String × String × String) :=
  [("notes", Key.notes, "notes.json", "Notes"), ("tasks", Key.tasks, "tasks.json", "Tasks")]

/-- How a call of `export` comes out that is not refused: the stored text is written into the file,
or a list without entries where none is stored. -/
inductive Exported (args : List String) (m : Machine σ ν) : Output → Machine σ ν → Prop
  | written {word key file label : String} {rest : List String} {tree : Tree} :
      args = word :: rest → (word, key, file, label) ∈ Ledger.exports →
      m.volume.tree.change ⟨m.session.cwd, file, .writeFile ((m.store.get? key).getD "[]")⟩ =
        .ok tree →
      Exported args m
        (.text (label ++ " exported to " ++
          (⟨m.session.cwd.segments ++ [file]⟩ : Files.Path).render ++ "."))
        ((Effect.files tree).apply m)

namespace Ledger

theorem tasks_note (l : Ledger) (args : List String) : (l.note args).tasks = l.tasks := by
  unfold note
  split <;> rfl

theorem notes_task (l : Ledger) (args : List String) : (l.task args).notes = l.notes := by
  unfold task
  split
  · rfl
  · split <;> rfl
  · rfl
  · rfl

theorem note_eq_self {l : Ledger} (hadd : ∀ word words, args ≠ "add" :: word :: words)
    (hclear : ∀ rest, args ≠ "clear" :: rest) : l.note args = l := by
  unfold note
  split
  · exact absurd rfl (hadd _ _)
  · exact absurd rfl (hclear _)
  · rfl

theorem task_eq_self {l : Ledger} (hadd : ∀ word words, args ≠ "add" :: word :: words)
    (hdone : ∀ number rest, args ≠ "done" :: number :: rest)
    (hclear : ∀ rest, args ≠ "clear" :: rest) : l.task args = l := by
  unfold task
  split
  · exact absurd rfl (hadd _ _)
  · exact absurd rfl (hdone _ _)
  · exact absurd rfl (hclear _)
  · rfl

/-- A task is marked if one has the number. -/
theorem task_done (l : Ledger) (number : String) (rest : List String) :
    l.task ("done" :: number :: rest) =
      { l with
        tasks := ((Text.natural64? number).bind (Task.finish? l.tasks)).getD l.tasks } := by
  cases hn : Text.natural64? number with
  | none => simp [task, hn]
  | some n =>
    have htask : l.task ("done" :: number :: rest) = { l with tasks := finish l.tasks n } := by
      simp [task, hn]
    rw [htask, Option.bind_some, finish?_eq]
    split
    · rfl
    · rename_i hout
      rw [finish_eq_self hout]
      rfl

variable [Client ν]

/-- `note` lists the notes, or does to them what the ledger says; a refusal changes nothing. -/
theorem meets_note (call : Call) (m : Machine σ ν) :
    ((Builtin.utility .note).run call).Meets m
      (Answered call.args (listing "--- Notes ---" (ofStore m.store).notes)
        (.notes ((ofStore m.store).note call.args).notes) m)
      fun _ m' => m' = m ∧ (∀ rest, call.args ≠ "list" :: rest) ∧
        (ofStore m.store).note call.args = ofStore m.store := by
  have hrun : (Builtin.utility .note).run call = (Utility.runNote call.args : Action σ ν Output) :=
    rfl
  rw [hrun, Utility.runNote]
  simp only [Action.meets_bind, Action.meets_get]
  split
  · rename_i hargs
    rw [hargs]
    exact .of_word (by decide)
  · rename_i hargs
    rw [hargs, numbered_eq_listing]
    exact .listed rfl
  · rename_i hargs
    rw [hargs]
    exact .of_word (by decide)
  · rename_i hadd hlist hclear
    exact ⟨rfl, hlist, note_eq_self hadd hclear⟩

/-- `task` lists the tasks, or does to them what the ledger says; a refusal changes nothing. -/
theorem meets_task (call : Call) (m : Machine σ ν) :
    ((Builtin.utility .task).run call).Meets m
      (Answered call.args (listing "--- Tasks ---" ((ofStore m.store).tasks.map entryOf))
        (.tasks ((ofStore m.store).task call.args).tasks) m)
      fun _ m' => m' = m ∧ (∀ rest, call.args ≠ "list" :: rest) ∧
        (ofStore m.store).task call.args = ofStore m.store := by
  have hrun : (Builtin.utility .task).run call = (Utility.runTask call.args : Action σ ν Output) :=
    rfl
  rw [hrun, Utility.runTask]
  simp only [Action.meets_bind, Action.meets_get]
  split
  · rename_i hargs
    rw [hargs]
    exact .of_word (by decide)
  · rename_i number rest hargs
    have hother : ∀ more, "done" :: number :: rest ≠ "list" :: more := fun more he =>
      absurd (List.cons.inj he).1 (by decide)
    have hstored : Utility.storedTasks m.store = (ofStore m.store).tasks := rfl
    simp only [Action.meets_bind, Action.meets_required]
    rw [hargs, task_done, hstored]
    refine ⟨fun tasks htasks => ?_, fun hnone => ⟨trivial, hother, ?_⟩⟩
    · rw [htasks, Option.getD_some]
      exact .stored hother
    · rw [hnone, Option.getD_none]
  · rename_i hargs
    rw [hargs, numbered_eq_listing]
    exact .listed rfl
  · rename_i hargs
    rw [hargs]
    exact .of_word (by decide)
  · rename_i hadd hdone hlist hclear
    exact ⟨rfl, hlist, task_eq_self hadd hdone hclear⟩

/-- `export` writes the stored text into the file of its kind. -/
theorem meets_export (call : Call) (m : Machine σ ν) :
    ((Builtin.utility .exporting).run call).Meets m (Exported call.args m) fun _ m' => m' = m := by
  have hrun : (Builtin.utility .exporting).run call =
      (Utility.runExport call.args : Action σ ν Output) := rfl
  have hlist : ∀ {word rest key file label}, call.args = word :: rest →
      (word, key, file, label) ∈ exports → (Utility.exportList key file label).Meets m
        (Exported call.args m) fun _ m' => m' = m := by
    intro word rest key file label hargs hmem
    rw [Utility.meets_exportList_iff]
    exact ⟨fun tree htree => .written hargs hmem htree, fun _ _ => rfl⟩
  rw [hrun]
  unfold Utility.runExport
  split
  · rename_i hargs
    exact hlist hargs (.head _)
  · rename_i hargs
    exact hlist hargs (.tail _ (.head _))
  · exact rfl

theorem completes_note (call : Call) (m : Machine σ ν) :
    ((Builtin.utility .note).run call).Completes m fun _ _ => True := by
  have hrun : (Builtin.utility .note).run call = (Utility.runNote call.args : Action σ ν Output) :=
    rfl
  rw [hrun, Utility.runNote]
  simp only [Action.completes_bind, Action.completes_get]
  split <;> simp [Utility.putNotes]

theorem completes_task (call : Call) (m : Machine σ ν) :
    ((Builtin.utility .task).run call).Completes m fun _ _ => True := by
  have hrun : (Builtin.utility .task).run call = (Utility.runTask call.args : Action σ ν Output) :=
    rfl
  rw [hrun, Utility.runTask]
  simp only [Action.completes_bind, Action.completes_get]
  split <;> simp [Utility.putTasks]

theorem completes_export (call : Call) (m : Machine σ ν) :
    ((Builtin.utility .exporting).run call).Completes m fun _ _ => True := by
  have hrun : (Builtin.utility .exporting).run call =
      (Utility.runExport call.args : Action σ ν Output) := rfl
  rw [hrun]
  unfold Utility.runExport
  split <;> simp [Utility.exportList]

end Ledger
end DevConsole
