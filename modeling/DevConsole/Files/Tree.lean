import DevConsole.Files.Arena
import DevConsole.Files.Document

/-!
# The file tree

A `Tree` is an arena of nodes with the cell of its root directory. Looking up follows a `Path` from
there. `insertChild`, `takeChild` and `freeAll` are the steps of which the operations of
`Files.Volume` are made; each works on the arena, given the cell of a directory.

`ofDocument` builds a tree, `toDocument` writes one out as a nested document. `walk` lists a
directory depth first, working off a stack of entries still to be visited.
-/

namespace DevConsole.Files

structure Tree where
  arena : Arena
  root : NodeId
  deriving Repr, Inhabited

/-- One row of a directory listing. -/
structure Listed where
  name : String
  isDirectory : Bool
  deriving DecidableEq, Repr

/-- One row of a depth-first walk. The entries of the walked directory have depth zero. -/
structure Visited where
  name : String
  depth : Nat
  isDirectory : Bool
  /-- Whether the entry is the last of its directory. -/
  isLast : Bool
  deriving DecidableEq, Repr

namespace Tree

/-- A root directory without entries. -/
def new : Tree := ⟨Arena.empty.alloc (.directory []), 0⟩

/-- The number of nodes, the root included. -/
def nodeCount (t : Tree) : Nat := t.arena.count

/-! ## Looking up -/

/-- Follows names down from a cell; a failure carries the text of the whole path. -/
def descend (a : Arena) (whole : String) : NodeId → List String → Except FileError NodeId
  | id, [] => .ok id
  | id, name :: rest =>
    match a.node id with
    | .file _ => .error (.notADirectory whole)
    | .directory children =>
      match children.find? name with
      | none => .error (.notFound whole)
      | some child => descend a whole child rest

def lookup (t : Tree) (p : Path) : Except FileError NodeId :=
  descend t.arena p.render t.root p.segments

/-- The cell of the directory at `p`. -/
def directoryAt (t : Tree) (p : Path) : Except FileError NodeId :=
  match t.lookup p with
  | .error e => .error e
  | .ok id => if (t.arena.node id).isDirectory then .ok id else .error (.notADirectory p.render)

def contains (t : Tree) (p : Path) : Bool := (t.lookup p).toOption.isSome

def isDirectory (t : Tree) (p : Path) : Bool :=
  match t.lookup p with
  | .error _ => false
  | .ok id => (t.arena.node id).isDirectory

/-- The entries of a directory, in the order of their names. -/
def list (t : Tree) (p : Path) : Except FileError (List Listed) :=
  (t.directoryAt p).map fun id =>
    (t.arena.node id).children.map fun (name, child) => ⟨name, (t.arena.node child).isDirectory⟩

/-- The content of a file. -/
def read (t : Tree) (p : Path) : Except FileError String :=
  match t.lookup p with
  | .error e => .error e
  | .ok id =>
    match t.arena.node id with
    | .file content => .ok content
    | .directory _ => .error (.notAFile p.render)

/-- Moves a working directory to what `text` leads to from there. -/
def enter (t : Tree) (text : String) : EStateM FileError Path Unit := do
  let target := Path.resolve text (← get)
  let _ ← MonadExcept.ofExcept (t.directoryAt target)
  set target

/-- Where someone in `cwd` is after moving to `text`. -/
def changeDirectory (t : Tree) (cwd : Path) (text : String) : Except FileError Path :=
  match t.enter text cwd with
  | .ok _ target => .ok target
  | .error e _ => .error e

/-! ## Walking -/

/-- An entry that a walk has still to visit. -/
structure Pending where
  name : String
  id : NodeId
  depth : Nat
  isLast : Bool

/-- The entries of a directory, ready to be visited in the order of their names. -/
def pendingOf (depth : Nat) : Entries NodeId → List Pending
  | [] => []
  | (name, id) :: rest => ⟨name, id, depth, rest.isEmpty⟩ :: pendingOf depth rest

/-- Visits the entry on top of the stack, then what lies below it, then the others. -/
def walkFrom (a : Arena) : Nat → List Pending → List Visited
  | 0, _ => []
  | _ + 1, [] => []
  | fuel + 1, top :: rest =>
    let n := a.node top.id
    ⟨top.name, top.depth, n.isDirectory, top.isLast⟩ ::
      walkFrom a fuel (pendingOf (top.depth + 1) n.children ++ rest)

/-- What lies below a directory, depth first. Each node is visited once, so that the number of cells
bounds the steps. -/
def walk (t : Tree) (p : Path) : Except FileError (List Visited) :=
  (t.directoryAt p).map fun id =>
    walkFrom t.arena t.arena.cells.size (pendingOf 0 (t.arena.node id).children)

/-! ## Changes of the arena -/

/-- Puts a node under a new name into the directory in cell `dir`, and gives the node's cell. -/
def insertChild (dir : NodeId) (name : String) (n : Node) : EStateM FileError Arena NodeId := do
  match (← get).node dir with
  | .file _ => throw (.notADirectory name)
  | .directory children => if children.contains name then throw (.alreadyExists name)
  let id := (← get).nextId
  modify (·.alloc n)
  match (← get).node dir with
  | .file _ => pure ()
  | .directory children => modify (·.put dir (.directory (children.insert name id)))
  return id

/-- Takes a name out of the directory in cell `dir`, and gives the cell that was under it. -/
def takeChild (dir : NodeId) (name : String) : EStateM FileError Arena (Option NodeId) := do
  match (← get).node dir with
  | .file _ => return none
  | .directory children =>
    modify (·.put dir (.directory (children.erase name)))
    return children.find? name

/-- Frees the cells on the stack and all below them. Of the entries of a directory the last one is
on top. -/
def freeAll : Nat → List NodeId → Arena → Arena
  | 0, _, a => a
  | _ + 1, [], a => a
  | fuel + 1, id :: rest, a =>
    freeAll fuel (((a.node id).children.map Prod.snd).reverse ++ rest) (a.free id)

/-! ## Documents -/

mutual

/-- Adds what a document holds below the directory in cell `dir`. Entries without a valid name
are left out. -/
def graft (dir : NodeId) : List (String × Document) → Arena → Arena
  | [], a => a
  | (name, d) :: rest, a => graft dir rest (graftEntry dir name d a)

def graftEntry (dir : NodeId) (name : String) : Document → Arena → Arena
  | .file content, a =>
    if Path.validName name then
      match insertChild dir name (.file content) a with
      | .ok _ a' => a'
      | .error _ a' => a'
    else a
  | .dir children, a =>
    if Path.validName name then
      match insertChild dir name (.directory []) a with
      | .ok id a' => graft id children a'
      | .error _ a' => a'
    else a

end

/-- The tree that a document describes; a file describes a root without entries. -/
def ofDocument : Document → Tree
  | .file _ => new
  | .dir children => { new with arena := graft new.root children new.arena }

def ofDefaultLayout : Tree := ofDocument defaultLayout

/-- The node of a cell and what lies below it, `fuel` levels deep. -/
def documentOf (a : Arena) : Nat → NodeId → Document
  | 0, _ => .file ""
  | fuel + 1, id =>
    match a.node id with
    | .file content => .file content
    | .directory children =>
      .dir (children.map fun (name, child) => (name, documentOf a fuel child))

/-- The tree as a nested document. No path is longer than the number of cells. -/
def toDocument (t : Tree) : Document := documentOf t.arena t.arena.cells.size t.root

end Tree

end DevConsole.Files
