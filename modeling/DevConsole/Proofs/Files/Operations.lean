import DevConsole.Proofs.Entries
import DevConsole.Proofs.Files.Arena
import DevConsole.Proofs.Files.Change

/-!
# What the operations come to

`Arena.edit` is what an edit makes of the arena, as a function of the directory's cell. The
operations of `Files.Volume` work in steps and touch the arena before they know how they will end: a
removal takes the name out of its directory first, a new node gets its cell before its name. Yet
each comes to its edit (`Change.perform_eq`): accepted, it has put the edited arena in place and
saved it once; refused, it has left everything as it was and saved nothing. Neither the outcome nor
the tree depends on the store (`Change.perform_eq_change`).
-/

namespace DevConsole.Files

section
variable {ε τ α β : Type} {a : α} {e : ε} {s s' : τ} {x : EStateM ε τ α} {f : α → EStateM ε τ β}

theorem bind_of_ok (h : x s = .ok a s') : (x >>= f) s = f a s' := by
  simp only [bind, EStateM.bind, h]

theorem bind_of_error (h : x s = .error e s') : (x >>= f) s = .error e s' := by
  simp only [bind, EStateM.bind, h]

end

namespace Arena

/-- The arena with a node under a new name of the directory in cell `dir`. -/
def addChild (a : Arena) (dir : NodeId) (name : String) (n : Node) : Except FileError Arena :=
  match a.node dir with
  | .file _ => .error (.notADirectory name)
  | .directory children =>
    if children.contains name then .error (.alreadyExists name)
    else .ok ((a.alloc n).put dir (.directory (children.insert name a.nextId)))

/-- What an edit does to the arena, given the cell of its directory. -/
def edit (a : Arena) (dir : NodeId) (name : String) : Edit → Except FileError Arena
  | .makeDirectory => a.addChild dir name (.directory [])
  | .createFile => a.addChild dir name (.file "")
  | .writeFile content =>
    match (a.node dir).children.find? name with
    | none => a.addChild dir name (.file content)
    | some id =>
      if (a.node id).isDirectory then .error (.notAFile name) else .ok (a.put id (.file content))
  | .remove =>
    match (a.node dir).children.find? name with
    | none => .error (.notFound name)
    | some id =>
      let a := a.put dir (.directory ((a.node dir).children.erase name))
      .ok (Tree.freeAll a.cells.size [id] a)

/-- A cell that reads as a directory is live. -/
theorem node?_of_node_directory {a : Arena} {id : NodeId} {children : Entries NodeId}
    (h : a.node id = .directory children) : a.node? id = some (.directory children) := by
  unfold node at h
  cases hn : a.node? id with
  | none => simp [hn] at h
  | some n =>
    rw [hn] at h
    exact congrArg some h

/-- The steps of an insertion come to the new entry, or to nothing. -/
theorem insertChild_eq (a : Arena) (dir : NodeId) (name : String) (n : Node) :
    Tree.insertChild dir name n a =
      match a.addChild dir name n with
      | .ok a' => .ok a.nextId a'
      | .error e => .error e a := by
  have hget : ∀ a : Arena, (get : EStateM FileError Arena Arena) a = .ok a a := fun _ => rfl
  cases hdir : a.node dir with
  | file content =>
    simp only [addChild, hdir, Tree.insertChild, bind_of_ok (hget _)]
    rfl
  | directory children =>
    cases hc : children.contains name with
    | true =>
      simp only [addChild, hdir, hc, if_true, Tree.insertChild, bind_of_ok (hget _)]
      rfl
    | false =>
      -- the new node has a cell of its own, so that the directory is still what it was
      have hnode := node?_of_node_directory hdir
      have hne : dir ≠ a.nextId := fun he => a.not_live_nextId (he ▸ live_of_node? hnode)
      have hdir' : (a.alloc n).node dir = .directory children :=
        node_of_node? (by rw [node?_alloc, if_neg hne, hnode])
      have halloc : (modify (·.alloc n) : EStateM FileError Arena PUnit) a =
          .ok ⟨⟩ (a.alloc n) := rfl
      simp only [addChild, hdir, hc, if_neg Bool.false_ne_true, Tree.insertChild,
        bind_of_ok (hget _), bind_of_ok halloc, hdir']
      rfl

/-- Taking out a name that the directory does not have changes nothing. -/
theorem takeChild_eq {a : Arena} {dir : NodeId} {children : Entries NodeId}
    (h : a.node dir = .directory children) (name : String) :
    Tree.takeChild dir name a = .ok (children.find? name)
      (match children.find? name with
        | none => a
        | some _ => a.put dir (.directory (children.erase name))) := by
  have hget : ∀ a : Arena, (get : EStateM FileError Arena Arena) a = .ok a a := fun _ => rfl
  simp only [Tree.takeChild, bind_of_ok (hget a), h]
  cases hf : children.find? name with
  | some id => rfl
  | none =>
    have hput : a.put dir (.directory (children.erase name)) = a := by
      rw [Entries.erase_of_find?_eq_none hf, put_eq_self (node?_of_node_directory h)]
    exact congrArg _ hput

end Arena

namespace Tree

theorem node_of_directoryAt {t : Tree} {p : Path} {dir : NodeId} (h : t.directoryAt p = .ok dir) :
    ∃ children, t.arena.node dir = .directory children := by
  unfold directoryAt at h
  split at h
  · cases h
  · split at h
    · rename_i hd
      cases h
      cases hn : t.arena.node dir with
      | directory children => exact ⟨children, rfl⟩
      | file content =>
        rw [hn] at hd
        cases hd
    · cases h

end Tree

/-! ## The operations -/

namespace Volume

variable {σ : Type} {v : Volume} {s : Store σ}

theorem checkName_run {name : String} (h : Path.validName name = true) :
    (MonadExcept.ofExcept (Path.checkName name) : Operation σ Unit) (v, s) = .ok () (v, s) := by
  rw [Path.checkName, if_pos h]
  rfl

theorem ask_run {α : Type} {f : Tree → Except FileError α} {x : α} (h : f v.tree = .ok x) :
    ask f (v, s) = .ok x (v, s) := by
  show (MonadExcept.ofExcept (f v.tree) : Operation σ α) (v, s) = .ok x (v, s)
  rw [h]
  rfl

theorem onArena_insertChild (dir : NodeId) (name : String) (n : Node) :
    onArena (Tree.insertChild dir name n) (v, s) =
      match v.tree.arena.addChild dir name n with
      | .ok a => .ok v.tree.arena.nextId ({ v with tree := { v.tree with arena := a } }, s)
      | .error e => .error e (v, s) := by
  rw [onArena, Arena.insertChild_eq]
  cases v.tree.arena.addChild dir name n <;> rfl

theorem onArena_takeChild {dir : NodeId} {children : Entries NodeId}
    (h : v.tree.arena.node dir = .directory children) (name : String) :
    onArena (Tree.takeChild dir name) (v, s) = .ok (children.find? name)
      (match children.find? name with
        | none => (v, s)
        | some _ =>
          let arena := v.tree.arena.put dir (.directory (children.erase name))
          ({ v with tree := { v.tree with arena } }, s)) := by
  rw [onArena, Arena.takeChild_eq h]
  cases children.find? name <;> rfl

/-- An operation that ends with a new entry saves it, unless the entry is refused. -/
theorem insertChild_persist [Backend σ] (dir : NodeId) (name : String) (n : Node) :
    (do let _ ← onArena (Tree.insertChild dir name n); persist : Operation σ Unit) (v, s) =
      match v.tree.arena.addChild dir name n with
      | .ok a => .ok () (v.commit { v.tree with arena := a } s)
      | .error e => .error e (v, s) := by
  have hrun := onArena_insertChild (v := v) (s := s) dir name n
  cases h : v.tree.arena.addChild dir name n with
  | ok a =>
    rw [h] at hrun
    exact bind_of_ok hrun
  | error e =>
    rw [h] at hrun
    exact bind_of_error hrun

end Volume

namespace Change

variable {σ : Type} [Backend σ] {v : Volume} {s : Store σ} {c : Change}

theorem perform_of_name (hn : Path.validName c.name = false) :
    c.perform (v, s) = .error (.invalidName c.name) (v, s) := by
  have hcheck : (MonadExcept.ofExcept (Path.checkName c.name) : Operation σ Unit) (v, s) =
      .error (.invalidName c.name) (v, s) := by
    rw [Path.checkName, hn]
    rfl
  unfold perform
  cases c.edit <;> exact bind_of_error hcheck

theorem perform_of_directoryAt {e : FileError} (hn : Path.validName c.name = true)
    (hd : v.tree.directoryAt c.cwd = .error e) : c.perform (v, s) = .error e (v, s) := by
  have hask : Volume.ask (·.directoryAt c.cwd) (v, s) = .error e (v, s) := by
    show (MonadExcept.ofExcept (v.tree.directoryAt c.cwd) : Operation σ NodeId) (v, s) =
      .error e (v, s)
    rw [hd]
    rfl
  unfold perform
  cases c.edit <;> exact (bind_of_ok (Volume.checkName_run hn)).trans (bind_of_error hask)

/-- An operation comes to its edit: accepted, the edited arena is in place and saved once; refused,
nothing has changed. -/
theorem perform_eq {dir : NodeId} (hn : Path.validName c.name = true)
    (hd : v.tree.directoryAt c.cwd = .ok dir) :
    c.perform (v, s) =
      match v.tree.arena.edit dir c.name c.edit with
      | .ok a => .ok () (v.commit { v.tree with arena := a } s)
      | .error e => .error e (v, s) := by
  obtain ⟨children, hdir⟩ := Tree.node_of_directoryAt hd
  have hcheck := Volume.checkName_run (v := v) (s := s) hn
  have hask : Volume.ask (·.directoryAt c.cwd) (v, s) = .ok dir (v, s) := Volume.ask_run hd
  cases he : c.edit with
  | makeDirectory =>
    simp only [perform, he, Volume.makeDirectory, bind_of_ok hcheck, bind_of_ok hask]
    exact Volume.insertChild_persist dir c.name _
  | createFile =>
    simp only [perform, he, Volume.createFile, bind_of_ok hcheck, bind_of_ok hask]
    exact Volume.insertChild_persist dir c.name _
  | writeFile content =>
    have hget : (get : Operation σ (Volume × Store σ)) (v, s) = .ok (v, s) (v, s) := rfl
    simp only [perform, he, Volume.writeFile, bind_of_ok hcheck, bind_of_ok hask, bind_of_ok hget,
      Arena.edit]
    cases hf : Entries.find? c.name (v.tree.arena.node dir).children with
    | none => exact Volume.insertChild_persist dir c.name _
    | some id =>
      cases hid : v.tree.arena.node id with
      | directory below => simp only [hid, Node.isDirectory, if_true]; rfl
      | file old => simp only [hid, Node.isDirectory]; rfl
  | remove =>
    simp only [perform, he, Volume.remove, bind_of_ok hcheck, bind_of_ok hask,
      bind_of_ok (Volume.onArena_takeChild hdir c.name), Arena.edit, hdir, Node.children]
    cases Entries.find? c.name children <;> rfl

end Change

namespace Tree

variable {t : Tree} {c : Change}

/-- A change of a tree is the edit at the cell of its directory. -/
theorem change_eq {dir : NodeId} (hn : Path.validName c.name = true)
    (hd : t.directoryAt c.cwd = .ok dir) :
    t.change c = (t.arena.edit dir c.name c.edit).map fun a => { t with arena := a } := by
  simp only [change, perform, Change.perform_eq (v := ⟨t, false⟩) hn hd]
  cases t.arena.edit dir c.name c.edit <;> rfl

theorem change_eq_error_of_name (hn : Path.validName c.name = false) :
    t.change c = .error (.invalidName c.name) := by
  simp only [change, perform, Change.perform_of_name hn]

theorem change_eq_error_of_directoryAt {e : FileError} (hn : Path.validName c.name = true)
    (hd : t.directoryAt c.cwd = .error e) : t.change c = .error e := by
  simp only [change, perform, Change.perform_of_directoryAt (v := ⟨t, false⟩) hn hd]

theorem validName_of_change {t' : Tree} (h : t.change c = .ok t') :
    Path.validName c.name = true := by
  cases hn : Path.validName c.name with
  | true => rfl
  | false =>
    rw [change_eq_error_of_name hn] at h
    cases h

end Tree

/-- Neither the outcome of an operation nor the tree it leaves depends on the store. An accepted
operation ends with one saving of its tree, a refused one has done nothing. -/
theorem Change.perform_eq_change {σ : Type} [Backend σ] (c : Change) (v : Volume) (s : Store σ) :
    c.perform (v, s) =
      match v.tree.change c with
      | .ok tree => .ok () (v.commit tree s)
      | .error e => .error e (v, s) := by
  cases hn : Path.validName c.name with
  | false => rw [perform_of_name hn, Tree.change_eq_error_of_name hn]
  | true =>
    cases hd : v.tree.directoryAt c.cwd with
    | error e => rw [perform_of_directoryAt hn hd, Tree.change_eq_error_of_directoryAt hn hd]
    | ok dir =>
      rw [perform_eq hn hd, Tree.change_eq hn hd]
      cases v.tree.arena.edit dir c.name c.edit <;> rfl

namespace Tree

/-- A refused change leaves the tree as it was, an accepted one the tree it gives. -/
theorem step_eq (t : Tree) (c : Change) :
    t.step c =
      match t.change c with
      | .ok t' => t'
      | .error _ => t := by
  rw [step, perform, Change.perform_eq_change]
  cases t.change c <;> rfl

theorem enter_run (t : Tree) (text : String) (cwd : Path) :
    t.enter text cwd =
      match t.directoryAt (Path.resolve text cwd) with
      | .ok _ => .ok () (Path.resolve text cwd)
      | .error e => .error e cwd := by
  have hget : (get : EStateM FileError Path Path) cwd = .ok cwd cwd := rfl
  simp only [enter, bind_of_ok hget]
  cases t.directoryAt (Path.resolve text cwd) <;> rfl

theorem changeDirectory_eq (t : Tree) (cwd : Path) (text : String) :
    t.changeDirectory cwd text =
      (t.directoryAt (Path.resolve text cwd)).map fun _ => Path.resolve text cwd := by
  rw [changeDirectory, enter_run]
  cases t.directoryAt (Path.resolve text cwd) <;> rfl

/-- A move that is refused leaves the working directory where it is. -/
theorem enter_eq (t : Tree) (text : String) (cwd : Path) :
    t.enter text cwd =
      match t.changeDirectory cwd text with
      | .ok target => .ok () target
      | .error e => .error e cwd := by
  rw [enter_run, changeDirectory_eq]
  cases t.directoryAt (Path.resolve text cwd) <;> rfl

end Tree

theorem Volume.change_eq {σ : Type} [Backend σ] (v : Volume) (c : Change) (s : Store σ) :
    v.change c s =
      match v.tree.change c with
      | .ok tree => v.commit tree s
      | .error _ => (v, s) := by
  rw [change, Change.perform_eq_change]
  cases v.tree.change c <;> rfl

end DevConsole.Files
