import DevConsole.Files.Tree
import DevConsole.Files.Archive
import DevConsole.Store.Basic

/-!
# Volumes

A `Volume` is a tree together with the decision whether it is written through: every change of an
attached volume ends with storing its whole document. The writing has no say in what the change
does.

An `Operation` works on a volume and its store. Those that change the tree check, in this order: the
name, the path of the directory, the entry itself.
-/

namespace DevConsole.Files

structure Volume where
  tree : Tree
  attached : Bool := false
  deriving Repr

/-- What is done to a volume and its store. It gives a value or a refusal, and what was changed
before a refusal stays changed. -/
abbrev Operation (σ α : Type) := EStateM FileError (Volume × Store σ) α

namespace Volume

variable {σ α : Type}

/-- What looking at the tree gives. -/
def ask (f : Tree → Except FileError α) : Operation σ α := do
  MonadExcept.ofExcept (f (← get).1.tree)

/-- Works on the nodes of the tree. -/
def onArena (f : EStateM FileError Arena α) : Operation σ α := fun (v, s) =>
  match f v.tree.arena with
  | .ok a arena => .ok a ({ v with tree := { v.tree with arena } }, s)
  | .error e arena => .error e ({ v with tree := { v.tree with arena } }, s)

variable [Backend σ]

/-! ## Writing through -/

/-- Stores the document of an attached volume. -/
def save (v : Volume) (s : Store σ) : Store σ :=
  if v.attached then s.set Key.fs v.tree.toDocument.render else s

def persist : Operation σ Unit := modify fun (v, s) => (v, v.save s)

/-! ## Changes -/

def makeDirectory (cwd : Path) (name : String) : Operation σ Unit := do
  MonadExcept.ofExcept (Path.checkName name)
  let dir ← ask (·.directoryAt cwd)
  let _ ← onArena (Tree.insertChild dir name (.directory []))
  persist

def createFile (cwd : Path) (name : String) : Operation σ Unit := do
  MonadExcept.ofExcept (Path.checkName name)
  let dir ← ask (·.directoryAt cwd)
  let _ ← onArena (Tree.insertChild dir name (.file ""))
  persist

/-- Writes a file of `cwd`, new or in place of its earlier content. -/
def writeFile (cwd : Path) (name content : String) : Operation σ Unit := do
  MonadExcept.ofExcept (Path.checkName name)
  let dir ← ask (·.directoryAt cwd)
  let a := (← get).1.tree.arena
  match (a.node dir).children.find? name with
  | some id =>
    match a.node id with
    | .file _ => onArena (modify (·.put id (.file content)))
    | .directory _ => throw (.notAFile name)
  | none =>
    let _ ← onArena (Tree.insertChild dir name (.file content))
  persist

/-- Takes an entry out of `cwd` and frees everything below it. -/
def remove (cwd : Path) (name : String) : Operation σ Unit := do
  MonadExcept.ofExcept (Path.checkName name)
  let dir ← ask (·.directoryAt cwd)
  match ← onArena (Tree.takeChild dir name) with
  | none => throw (.notFound name)
  | some id => onArena (modify fun a => Tree.freeAll a.cells.size [id] a)
  persist

/-! ## Loading -/

/-- The document that a store holds, where it holds a readable one. -/
def stored? (s : Store σ) : Option Document :=
  match s.get? Key.fs with
  | none => none
  | some text => (Document.parse text).toOption

/-- The stored volume, or the default layout, which is then saved at once. -/
def load (s : Store σ) : Volume × Store σ :=
  match stored? s with
  | some root => (⟨Tree.ofDocument root, true⟩, s)
  | none =>
    let v : Volume := ⟨Tree.ofDefaultLayout, true⟩
    (v, v.save s)

/-- A summary of the volume. -/
def describe (v : Volume) : String :=
  "FilesystemTree \x7b nodes: " ++ toString v.tree.nodeCount ++ ", persistent: " ++
    (if v.attached then "true" else "false") ++ " \x7d"

end Volume

end DevConsole.Files
