import DevConsole.Store.Basic
import DevConsole.Store.Disk

/-!
# A store in one file

A `FileStore` keeps its entries in memory and writes the whole file anew on every change: it makes
the directories above the file, writes a scratch file beside it and moves that into place. Should
one of these steps fail, the change stays in memory. Removing a name that is not there writes
nothing.
-/

namespace DevConsole

structure FileStore where
  path : String
  entries : Entries String
  deriving Repr

/-- A step of saving that fails for a reason the file system does not show, such as a full disk. -/
inductive Fault where
  /-- Only the first `made` of the directories are made. -/
  | directories (made : Nat)
  /-- The scratch file is left with this content, or not at all. -/
  | scratch (left : Option String)
  | move
  deriving DecidableEq, Repr

namespace FileStore

/-- The entries that a state file holds: one object of texts. -/
def decode? (text : String) : Option (Entries String) :=
  (Json.read text).bind (Json.entries? Json.string?)

/-- The content of a state file. -/
def encode (entries : Entries String) : String :=
  (Json.object (entries.map fun (key, value) => (key, Json.string value))).pretty

section

variable {φ : Type} [FileSystem φ]

open FileSystem

/-- Opens a path. A file that is missing, unreadable or malformed gives a store without entries. -/
def load (fs : φ) (path : String) : FileStore :=
  ⟨path, ((read? fs (Location.parse path)).bind decode?).getD []⟩

def location (s : FileStore) : Location := Location.parse s.path

/-- The file that is written first. -/
def scratch (s : FileStore) : Location := s.location.withExtension "tmp"

/-- Saves the entries. -/
def flush (s : FileStore) (fs : φ) (fault : Option Fault := none) : Except Error Unit × φ :=
  let above := s.location.parent
  match fault with
  | some (.directories made) =>
    (.error (.io "interrupted"), (makeDirectories fs (above.first made)).2)
  | _ =>
    match makeDirectories fs above with
    | (.error e, fs) => (.error e, fs)
    | (.ok _, fs) =>
      match fault with
      | some (.scratch left) =>
        (.error (.io "interrupted"),
          match left with
          | none => fs
          | some content => (writeFile fs s.scratch content).2)
      | _ =>
        match writeFile fs s.scratch (encode s.entries) with
        | (.error e, fs) => (.error e, fs)
        | (.ok _, fs) =>
          match fault with
          | some _ => (.error (.io "interrupted"), fs)
          | none => rename fs s.scratch s.location

end

def get? (s : FileStore) (key : String) : Option String := s.entries.find? key

/-- The outcome of a change, the store and the file system after it. -/
structure Changed (φ : Type) where
  outcome : Except Error Unit
  store : FileStore
  disk : φ

variable {φ : Type} [FileSystem φ]

def set (s : FileStore) (fs : φ) (key value : String) (fault : Option Fault := none) : Changed φ :=
  let s := { s with entries := s.entries.insert key value }
  let (outcome, fs) := s.flush fs fault
  ⟨outcome, s, fs⟩

def remove (s : FileStore) (fs : φ) (key : String) (fault : Option Fault := none) : Changed φ :=
  if s.entries.contains key then
    let s := { s with entries := s.entries.erase key }
    let (outcome, fs) := s.flush fs fault
    ⟨outcome, s, fs⟩
  else ⟨.ok (), s, fs⟩

end FileStore

/-- A file store together with the disk that it writes to. -/
structure MountedStore where
  store : FileStore
  disk : Disk

instance : Backend MountedStore where
  get m key := .ok (m.store.get? key)
  set m key value :=
    let c := m.store.set m.disk key value
    (c.outcome, ⟨c.store, c.disk⟩)
  remove m key :=
    let c := m.store.remove m.disk key
    (c.outcome, ⟨c.store, c.disk⟩)

end DevConsole
