import DevConsole.Files.Volume
import DevConsole.Proofs.Files.Document
import DevConsole.Store.Memory

/-!
# Changes of a tree

A `Change` is one of the four operations that change a tree, with its arguments, and
`Change.perform` runs it. `Tree.change` is what comes of it for a tree alone, no store being
attached. `Document.change` is the same change described on the nested document: the name is
checked, then the path of the directory, then the entry, and where nothing is refused the entries of
that one directory are replaced.

`Document.Refuses` and `Change.entryAfter` describe the same outcome once more, path by path:
`change_eq_error_iff` says when a change is refused and with which error, `entryAt?_change` that an
accepted change touches nothing but what it names.
-/

namespace DevConsole.Files

/-- What a change does to the entry it names. -/
inductive Edit where
  | makeDirectory
  | createFile
  | writeFile (content : String)
  | remove
  deriving DecidableEq, Repr

/-- A change of the entry `name` of the directory `cwd`. -/
structure Change where
  cwd : Path
  name : String
  edit : Edit
  deriving DecidableEq, Repr

/-- Runs the operation of a change. -/
def Change.perform {σ : Type} [Backend σ] (c : Change) : Operation σ Unit :=
  match c.edit with
  | .makeDirectory => Volume.makeDirectory c.cwd c.name
  | .createFile => Volume.createFile c.cwd c.name
  | .writeFile content => Volume.writeFile c.cwd c.name content
  | .remove => Volume.remove c.cwd c.name

namespace Tree

/-- A change of a tree that is not attached to a store; an empty one lies beside it. -/
def perform (t : Tree) (c : Change) : EStateM.Result FileError (Volume × Store MemoryStore) Unit :=
  c.perform (⟨t, false⟩, ⟨{}, []⟩)

/-- The tree after a change, or why it is refused. -/
def change (t : Tree) (c : Change) : Except FileError Tree :=
  match t.perform c with
  | .ok _ (v, _) => .ok v.tree
  | .error e _ => .error e

/-- The tree after a change, whether or not it is refused. -/
def step (t : Tree) (c : Change) : Tree :=
  match t.perform c with
  | .ok _ (v, _) => v.tree
  | .error _ (v, _) => v.tree

/-- The trees that can come about: the fresh ones, loaded or built from a document as a directory
lists it, and whatever changes make of them. -/
inductive Reachable : Tree → Prop
  | new : Reachable new
  | ofDefaultLayout : Reachable ofDefaultLayout
  | ofDocument (d : Document) : Reachable (ofDocument d)
  | load {σ : Type} [Backend σ] (s : Store σ) : Reachable (Volume.load s).1.tree
  | step {t : Tree} (c : Change) : Reachable t → Reachable (t.step c)

end Tree

namespace Volume

variable {σ : Type} [Backend σ]

/-- What an accepted change leaves behind: its tree is in place and has been saved. -/
def commit (v : Volume) (tree : Tree) (s : Store σ) : Volume × Store σ :=
  let v := { v with tree }
  (v, v.save s)

/-- The volume and its store after a change, whether or not it is refused. -/
def change (v : Volume) (c : Change) (s : Store σ) : Volume × Store σ :=
  match c.perform (v, s) with
  | .ok _ p => p
  | .error _ p => p

/-- Runs changes one after the other. -/
def run (cs : List Change) (p : Volume × Store σ) : Volume × Store σ :=
  cs.foldl (fun p c => p.1.change c p.2) p

end Volume

namespace Document

/-! ## Operations on a nested document -/

/-- Follows names down a document; a failure carries the text of the whole path. -/
def follow (whole : String) : Document → List String → Except FileError Document
  | d, [] => .ok d
  | .file _, _ :: _ => .error (.notADirectory whole)
  | .dir children, name :: rest =>
    match Entries.find? name children with
    | none => .error (.notFound whole)
    | some child => follow whole child rest

def lookup (d : Document) (p : Path) : Except FileError Document := d.follow p.render p.segments

/-- The entries of the directory at a path. -/
def directoryAt (d : Document) (p : Path) : Except FileError (Entries Document) :=
  match d.lookup p with
  | .error e => .error e
  | .ok (.dir children) => .ok children
  | .ok (.file _) => .error (.notADirectory p.render)

def contains (d : Document) (p : Path) : Bool := (d.lookup p).toOption.isSome

def isDirectory (d : Document) (p : Path) : Bool :=
  match d.lookup p with
  | .ok (.dir _) => true
  | _ => false

def list (d : Document) (p : Path) : Except FileError (List Listed) :=
  (d.directoryAt p).map fun children => children.map fun e => ⟨e.1, e.2.isDir⟩

def read (d : Document) (p : Path) : Except FileError String :=
  match d.lookup p with
  | .error e => .error e
  | .ok (.file content) => .ok content
  | .ok (.dir _) => .error (.notAFile p.render)

/-- The document with another one in the place of what a path leads to. -/
def replace : Document → List String → Document → Document
  | _, [], new => new
  | .file content, _ :: _, _ => .file content
  | .dir children, name :: rest, new =>
    match Entries.find? name children with
    | none => .dir children
    | some child => .dir (Entries.insert name (replace child rest new) children)

end Document

/-- What an edit makes of the entries of its directory. -/
def Edit.apply (name : String) (children : Entries Document) :
    Edit → Except FileError (Entries Document)
  | .makeDirectory =>
    match children.find? name with
    | none => .ok (children.insert name .emptyDir)
    | some _ => .error (.alreadyExists name)
  | .createFile =>
    match children.find? name with
    | none => .ok (children.insert name (.file ""))
    | some _ => .error (.alreadyExists name)
  | .writeFile content =>
    match children.find? name with
    | some (.dir _) => .error (.notAFile name)
    | _ => .ok (children.insert name (.file content))
  | .remove =>
    match children.find? name with
    | none => .error (.notFound name)
    | some _ => .ok (children.erase name)

/-- The document after a change, or why the change is refused. -/
def Document.change (d : Document) (c : Change) : Except FileError Document := do
  Path.checkName c.name
  let children ← d.directoryAt c.cwd
  let children ← c.edit.apply c.name children
  return d.replace c.cwd.segments (.dir children)

/-! ## The outcome, path by path -/

/-- The path of the entry that a change names. -/
def Change.target (c : Change) : List String := c.cwd.segments ++ [c.name]

/-- What an edit leaves under the name: an empty directory, a file or nothing. -/
def Edit.result : Edit → Option Document
  | .makeDirectory => some .emptyDir
  | .createFile => some (.file "")
  | .writeFile content => some (.file content)
  | .remove => none

/-- What stands at a path after a change of `d`: the result of the edit at the target, nothing below
it, and everywhere else what stood there before. -/
def Change.entryAfter (c : Change) (d : Document) (path : List String) : Option Document.Entry :=
  if path = c.target then c.edit.result.map Document.entry
  else if c.target <+: path then none
  else d.entryAt? path

namespace Document

/-- Why a path leads to no directory: the first name that is missing, or a file, be it on the way or
at the end. -/
inductive NoDirectory (d : Document) (p : Path) : FileError → Prop
  | missing {above below : List String} {name : String} :
      p.segments = above ++ name :: below → d.entryAt? above = some .directory →
      d.entryAt? (above ++ [name]) = none → NoDirectory d p (.notFound p.render)
  | blocked {above below : List String} {content : String} :
      p.segments = above ++ below → d.entryAt? above = some (.file content) →
      NoDirectory d p (.notADirectory p.render)

/-- Why a change is refused: its name, then the path of its directory, then the entry. -/
inductive Refuses (d : Document) (c : Change) : FileError → Prop
  | name : Path.validName c.name = false → Refuses d c (.invalidName c.name)
  | path {e : FileError} :
      Path.validName c.name = true → d.NoDirectory c.cwd e → Refuses d c e
  | present :
      Path.validName c.name = true → d.entryAt? c.cwd.segments = some .directory →
      c.edit = .makeDirectory ∨ c.edit = .createFile → d.entryAt? c.target ≠ none →
      Refuses d c (.alreadyExists c.name)
  | directory {content : String} :
      Path.validName c.name = true → d.entryAt? c.cwd.segments = some .directory →
      c.edit = .writeFile content → d.entryAt? c.target = some .directory →
      Refuses d c (.notAFile c.name)
  | absent :
      Path.validName c.name = true → d.entryAt? c.cwd.segments = some .directory →
      c.edit = .remove → d.entryAt? c.target = none → Refuses d c (.notFound c.name)

/-! ## Following a path -/

theorem follow_eq_ok_iff {whole : String} {d e : Document} {path : List String} :
    d.follow whole path = .ok e ↔ d.at? path = some e := by
  induction path generalizing d with
  | nil => cases d <;> simp [follow]
  | cons name rest ih =>
    cases d with
    | file content => simp [follow, at?_cons, children]
    | dir entries =>
      simp only [follow, at?_cons, children]
      cases Entries.find? name entries with
      | none => simp
      | some child => exact ih

theorem follow_eq_error {whole : String} {d : Document} {path : List String} {e : FileError}
    (h : d.follow whole path = .error e) :
    (∃ above name below, path = above ++ name :: below ∧ d.entryAt? above = some .directory ∧
      d.entryAt? (above ++ [name]) = none ∧ e = .notFound whole) ∨
    (∃ above name below content, path = above ++ name :: below ∧
      d.entryAt? above = some (.file content) ∧ e = .notADirectory whole) := by
  induction path generalizing d with
  | nil => cases d <;> cases h
  | cons name rest ih =>
    cases d with
    | file content =>
      cases h
      exact .inr ⟨[], name, rest, content, rfl, rfl, rfl⟩
    | dir entries =>
      simp only [follow] at h
      cases hf : Entries.find? name entries with
      | none =>
        rw [hf] at h
        cases h
        exact .inl ⟨[], name, rest, rfl, rfl, by simp [entryAt?, at?_cons, children, hf], rfl⟩
      | some child =>
        rw [hf] at h
        have hchild : ∀ path, (dir entries).entryAt? (name :: path) = child.entryAt? path :=
          fun path => by simp [entryAt?, at?_cons, children, hf]
        rcases ih h with ⟨above, n, below, rfl, hd, hn, he⟩ | ⟨above, n, below, c, rfl, hc, he⟩
        · exact .inl ⟨name :: above, n, below, rfl, (hchild _).trans hd, (hchild _).trans hn, he⟩
        · exact .inr ⟨name :: above, n, below, c, rfl, (hchild _).trans hc, he⟩

theorem entryAt?_append (d : Document) (path rest : List String) :
    d.entryAt? (path ++ rest) = (d.at? path).bind fun e => e.entryAt? rest := by
  rw [entryAt?, at?_append, Option.map_bind]
  rfl

/-- Below a file there is nothing. -/
theorem entryAt?_append_of_file {d : Document} {above : List String} {content : String}
    (h : d.entryAt? above = some (.file content)) (name : String) (below : List String) :
    d.entryAt? (above ++ name :: below) = none := by
  obtain ⟨e, he, hc⟩ := Option.map_eq_some_iff.1 h
  cases e with
  | dir entries => cases hc
  | file content => rw [entryAt?_append, he]; simp [entryAt?, at?_cons, children]

theorem entryAt?_append_of_none {d : Document} {above : List String} (h : d.entryAt? above = none)
    (below : List String) : d.entryAt? (above ++ below) = none := by
  simp only [entryAt?, Option.map_eq_none_iff] at h
  simp [entryAt?_append, h]

theorem lookup_eq_ok_iff {d e : Document} {p : Path} :
    d.lookup p = .ok e ↔ d.at? p.segments = some e := follow_eq_ok_iff

theorem directoryAt_eq_ok_iff {d : Document} {p : Path} {entries : Entries Document} :
    d.directoryAt p = .ok entries ↔ d.at? p.segments = some (.dir entries) := by
  rw [← lookup_eq_ok_iff (d := d) (p := p), directoryAt]
  cases d.lookup p with
  | error e => simp
  | ok x => cases x <;> simp

/-- A directory stands at a path exactly if its entries are found. -/
theorem entryAt?_eq_directory_iff {d : Document} {p : Path} :
    d.entryAt? p.segments = some .directory ↔ ∃ entries, d.directoryAt p = .ok entries := by
  simp only [directoryAt_eq_ok_iff, entryAt?, Option.map_eq_some_iff]
  constructor
  · rintro ⟨e, he, hd⟩
    cases e with
    | dir entries => exact ⟨entries, he⟩
    | file content => cases hd
  · rintro ⟨entries, he⟩
    exact ⟨.dir entries, he, rfl⟩

theorem NoDirectory.entryAt?_ne {d : Document} {p : Path} {e : FileError} (h : d.NoDirectory p e) :
    d.entryAt? p.segments ≠ some .directory := by
  cases h with
  | @missing above below name hp _ hn =>
    rw [hp, List.append_cons, entryAt?_append_of_none hn]
    simp
  | @blocked above below content hp hc =>
    rw [hp]
    cases below with
    | nil => simp [hc]
    | cons name below => simp [entryAt?_append_of_file hc]

theorem NoDirectory.unique {d : Document} {p : Path} {e e' : FileError} (h : d.NoDirectory p e)
    (h' : d.NoDirectory p e') : e = e' := by
  suffices ∀ {above below above' below' : List String} {name content : String},
      above ++ name :: below = above' ++ below' → d.entryAt? (above ++ [name]) = none →
      d.entryAt? above = some .directory → d.entryAt? above' = some (.file content) → False by
    cases h with
    | missing hp hd hn =>
      cases h' with
      | missing => rfl
      | blocked hp' hc => exact (this (hp.symm.trans hp') hn hd hc).elim
    | blocked hp hc =>
      cases h' with
      | missing hp' hd hn => exact (this (hp'.symm.trans hp) hn hd hc).elim
      | blocked => rfl
  intro above below above' below' name content hp hn hd hc
  -- one of the two ways is the beginning of the other
  rcases List.append_eq_append_iff.1 hp with ⟨more, rfl, h⟩ | ⟨more, rfl, h⟩
  · cases more with
    | nil =>
      rw [List.append_nil, hd] at hc
      cases hc
    | cons m more =>
      simp only [List.cons_append, List.cons.injEq] at h
      obtain ⟨rfl, rfl⟩ := h
      rw [List.append_cons, entryAt?_append_of_none hn] at hc
      cases hc
  · cases more with
    | nil =>
      rw [List.append_nil, hc] at hd
      cases hd
    | cons m more =>
      rw [entryAt?_append_of_file hc] at hd
      cases hd

/-- Where there is no directory, the error is the one that the path shows. -/
theorem directoryAt_eq_error_iff {d : Document} {p : Path} {e : FileError} :
    d.directoryAt p = .error e ↔ d.NoDirectory p e := by
  have hno : ∀ {e}, d.directoryAt p = .error e → d.NoDirectory p e := by
    intro e h
    unfold directoryAt at h
    split at h
    · rename_i e' hl
      cases h
      rcases follow_eq_error hl with
        ⟨above, name, below, hp, hd, hn, rfl⟩ | ⟨above, name, below, content, hp, hc, rfl⟩
      · exact .missing hp hd hn
      · exact .blocked hp hc
    · cases h
    · rename_i content hl
      cases h
      exact .blocked (List.append_nil _).symm (by rw [entryAt?, lookup_eq_ok_iff.1 hl]; rfl)
  refine ⟨hno, fun h => ?_⟩
  cases hd : d.directoryAt p with
  | error e' => rw [h.unique (hno hd)]
  | ok entries => exact absurd (entryAt?_eq_directory_iff.2 ⟨entries, hd⟩) h.entryAt?_ne

/-! ## Replacing a part -/

theorem replace_cons {entries : Entries Document} {name : String} {child : Document}
    (h : Entries.find? name entries = some child) (rest : List String) (new : Document) :
    (dir entries).replace (name :: rest) new =
      .dir (Entries.insert name (child.replace rest new) entries) := by
  simp [replace, h]

theorem at?_replace_append {d old : Document} {path : List String} (h : d.at? path = some old)
    (new : Document) (rest : List String) :
    (d.replace path new).at? (path ++ rest) = new.at? rest := by
  induction path generalizing d with
  | nil => cases d <;> rfl
  | cons name path ih =>
    rw [at?_cons] at h
    obtain ⟨child, hf, hc⟩ := Option.bind_eq_some_iff.1 h
    cases d with
    | file content => cases hf
    | dir entries =>
      have hf : Entries.find? name entries = some child := hf
      rw [replace_cons hf, List.cons_append, at?_cons]
      simp only [children, Entries.find?_insert, if_true, Option.bind_some]
      exact ih hc

/-- Off the path everything stands as before, on the way to it a directory. -/
theorem entryAt?_replace {d old : Document} {path : List String} (h : d.at? path = some old)
    (new : Document) {other : List String} (ho : ¬path <+: other) :
    (d.replace path new).entryAt? other = d.entryAt? other := by
  induction path generalizing d other with
  | nil => exact absurd List.nil_prefix ho
  | cons name path ih =>
    rw [at?_cons] at h
    obtain ⟨child, hf, hc⟩ := Option.bind_eq_some_iff.1 h
    cases d with
    | file content => cases hf
    | dir entries =>
      have hf : Entries.find? name entries = some child := hf
      rw [replace_cons hf]
      cases other with
      | nil => rfl
      | cons m other =>
        simp only [entryAt?, at?_cons, children, Entries.find?_insert]
        by_cases hm : m = name
        · subst hm
          rw [if_pos rfl, hf]
          exact ih hc fun hp => ho (List.cons_prefix_cons.2 ⟨rfl, hp⟩)
        · rw [if_neg hm]

/-! ## The outcome of a change -/

theorem change_eq {d : Document} {c : Change} (hn : Path.validName c.name = true)
    {entries : Entries Document} (hd : d.directoryAt c.cwd = .ok entries) :
    d.change c =
      (c.edit.apply c.name entries).map fun new => d.replace c.cwd.segments (.dir new) := by
  cases ha : c.edit.apply c.name entries <;>
    simp [change, Path.checkName, hn, hd, ha, bind, Except.bind, pure, Except.pure, Except.map]

theorem change_eq_error_of_name {d : Document} {c : Change} (hn : Path.validName c.name = false) :
    d.change c = .error (.invalidName c.name) := by
  simp only [change, Path.checkName, hn]
  rfl

theorem change_eq_error_of_directoryAt {d : Document} {c : Change} {e : FileError}
    (hn : Path.validName c.name = true) (hd : d.directoryAt c.cwd = .error e) :
    d.change c = .error e := by
  simp only [change, Path.checkName, hn, if_true, hd]
  rfl

theorem entryAt?_target {d : Document} {c : Change} {entries : Entries Document}
    (hd : d.directoryAt c.cwd = .ok entries) :
    d.entryAt? c.target = (entries.find? c.name).map entry := by
  rw [Change.target, entryAt?_append, directoryAt_eq_ok_iff.1 hd]
  simp only [Option.bind_some, entryAt?, at?_cons, children]
  cases entries.find? c.name <;> simp

theorem apply_eq_error_iff {name : String} {entries : Entries Document} {edit : Edit}
    {e : FileError} :
    edit.apply name entries = .error e ↔
      ((edit = .makeDirectory ∨ edit = .createFile) ∧ (entries.find? name).map entry ≠ none ∧
        e = .alreadyExists name) ∨
      (∃ content, edit = .writeFile content ∧ (entries.find? name).map entry = some .directory ∧
        e = .notAFile name) ∨
      (edit = .remove ∧ (entries.find? name).map entry = none ∧ e = .notFound name) := by
  cases edit <;> rcases hf : entries.find? name with _ | _ | _ <;>
    simp [Edit.apply, hf, entry, eq_comm]

theorem find?_apply {name : String} {entries new : Entries Document} {edit : Edit}
    (ho : entries.Ordered) (h : edit.apply name entries = .ok new) (other : String) :
    new.find? other = if other = name then edit.result else entries.find? other := by
  have herase : (entries.erase name).find? other =
      if other = name then none else entries.find? other := by
    split
    · rename_i he
      rw [he, ho.find?_erase_self]
    · rename_i hne
      exact Entries.find?_erase_of_ne hne entries
  cases edit <;> rcases hf : entries.find? name with _ | _ | _ <;>
    simp only [Edit.apply, hf, Except.ok.injEq, reduceCtorEq] at h <;> subst h <;>
    simp only [Entries.find?_insert, herase, Edit.result]

/-- The name is checked before the tree is looked at, then the path of the directory, and then the
entry. -/
theorem change_eq_error_iff {d : Document} {c : Change} {e : FileError} :
    d.change c = .error e ↔ d.Refuses c e := by
  constructor
  · intro h
    cases hn : Path.validName c.name with
    | false =>
      rw [change_eq_error_of_name hn] at h
      cases h
      exact .name hn
    | true =>
      cases hd : d.directoryAt c.cwd with
      | error e' =>
        rw [change_eq_error_of_directoryAt hn hd] at h
        cases h
        exact .path hn (directoryAt_eq_error_iff.1 hd)
      | ok entries =>
        have hcwd := entryAt?_eq_directory_iff.2 ⟨entries, hd⟩
        have ha : c.edit.apply c.name entries = .error e := by
          rw [change_eq hn hd] at h
          cases ha : c.edit.apply c.name entries <;> rw [ha] at h <;> cases h
          rfl
        rw [apply_eq_error_iff, ← entryAt?_target hd] at ha
        rcases ha with ⟨he, ht, rfl⟩ | ⟨content, he, ht, rfl⟩ | ⟨he, ht, rfl⟩
        · exact .present hn hcwd he ht
        · exact .directory hn hcwd he ht
        · exact .absent hn hcwd he ht
  · intro h
    have hentry : Path.validName c.name = true → d.entryAt? c.cwd.segments = some .directory →
        ((c.edit = .makeDirectory ∨ c.edit = .createFile) ∧ d.entryAt? c.target ≠ none ∧
          e = .alreadyExists c.name) ∨
        (∃ content, c.edit = .writeFile content ∧ d.entryAt? c.target = some .directory ∧
          e = .notAFile c.name) ∨
        (c.edit = .remove ∧ d.entryAt? c.target = none ∧ e = .notFound c.name) →
        d.change c = .error e := by
      intro hn hcwd he
      obtain ⟨entries, hd⟩ := entryAt?_eq_directory_iff.1 hcwd
      rw [entryAt?_target hd, ← apply_eq_error_iff] at he
      rw [change_eq hn hd, he]
      rfl
    cases h with
    | name hn => exact change_eq_error_of_name hn
    | path hn hp => exact change_eq_error_of_directoryAt hn (directoryAt_eq_error_iff.2 hp)
    | present hn hcwd he ht => exact hentry hn hcwd (.inl ⟨he, ht, rfl⟩)
    | directory hn hcwd he ht => exact hentry hn hcwd (.inr (.inl ⟨_, he, ht, rfl⟩))
    | absent hn hcwd he ht => exact hentry hn hcwd (.inr (.inr ⟨he, ht, rfl⟩))

/-- What an accepted change has checked and done. -/
theorem change_eq_ok {d d' : Document} {c : Change} (h : d.change c = .ok d') :
    ∃ entries new, Path.validName c.name = true ∧ d.directoryAt c.cwd = .ok entries ∧
      c.edit.apply c.name entries = .ok new ∧ d' = d.replace c.cwd.segments (.dir new) := by
  cases hn : Path.validName c.name with
  | false =>
    rw [change_eq_error_of_name hn] at h
    cases h
  | true =>
    cases hd : d.directoryAt c.cwd with
    | error e =>
      rw [change_eq_error_of_directoryAt hn hd] at h
      cases h
    | ok entries =>
      rw [change_eq hn hd] at h
      cases ha : c.edit.apply c.name entries with
      | error e =>
        rw [ha] at h
        cases h
      | ok new =>
        rw [ha] at h
        cases h
        exact ⟨entries, new, rfl, rfl, ha, rfl⟩

/-- An accepted change leaves its result at the target, nothing below it, and everything else as it
was. -/
theorem entryAt?_change {d d' : Document} {c : Change} (ho : d.Ordered) (h : d.change c = .ok d')
    (path : List String) : d'.entryAt? path = c.entryAfter d path := by
  obtain ⟨entries, new, -, hd, ha, rfl⟩ := change_eq_ok h
  have hat := directoryAt_eq_ok_iff.1 hd
  have hentries : entries.Ordered := (ordered_dir.1 (ho.at? hat)).1
  unfold Change.entryAfter Change.target
  by_cases hp : c.cwd.segments <+: path
  · obtain ⟨rest, rfl⟩ := hp
    have hnew : (d.replace c.cwd.segments (.dir new)).entryAt? (c.cwd.segments ++ rest) =
        (dir new).entryAt? rest := by rw [entryAt?, at?_replace_append hat, entryAt?]
    have hold : d.entryAt? (c.cwd.segments ++ rest) = (dir entries).entryAt? rest := by
      rw [entryAt?_append, hat, Option.bind_some]
    rw [hnew, hold]
    simp only [List.append_right_inj, List.prefix_append_right_inj]
    cases rest with
    | nil => simp [entryAt?, entry]
    | cons m below =>
      simp only [entryAt?, at?_cons, children, find?_apply hentries ha, List.cons.injEq,
        List.cons_prefix_cons, List.nil_prefix, and_true]
      by_cases hm : m = c.name
      · subst hm
        cases c.edit <;> cases below <;>
          simp [Edit.result, at?_cons, children, emptyDir]
      · simp [hm, Ne.symm hm]
  · have hpt : ¬c.cwd.segments ++ [c.name] <+: path := fun hpre =>
      hp ((List.prefix_append _ _).trans hpre)
    have hne : path ≠ c.cwd.segments ++ [c.name] := fun he => hpt (he ▸ List.prefix_rfl)
    rw [if_neg hne, if_neg hpt, entryAt?_replace hat _ hp]

end Document

end DevConsole.Files
