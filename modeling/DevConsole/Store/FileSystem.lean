import DevConsole.Error
import DevConsole.Text.Lines

/-!
# File systems

A `Location` is a path text cut into its steps: empty parts and `.` say nothing, `..` leads back up.
A `FileSystem` reads, writes and moves files at such locations and makes directories. Directories
above a location are made from the outermost missing one on, each by an operation of its own, so
that those that have been made stay when the next one cannot be made.
-/

namespace DevConsole

/-- The steps that a path text asks for. A slash at the end asks for a directory. -/
structure Location where
  absolute : Bool := false
  parts : List String
  wantsDirectory : Bool := false
  deriving DecidableEq, Repr

namespace Location

def parse (path : String) : Location :=
  let parts := Text.splitOn '/' path
  ⟨path.toList.head? = some '/', parts.filter fun part => part ≠ "" ∧ part ≠ ".",
    parts.getLast? = some "" ∨ parts.getLast? = some "."⟩

/-- The names of the directory where a way starts. -/
def start (l : Location) : List String := if l.absolute then ["/"] else []

/-- The location after so many of the steps. -/
def first (count : Nat) (l : Location) : Location := { l with parts := l.parts.take count }

/-- The location without its last step. -/
def parent (l : Location) : Location := { l with parts := l.parts.dropLast, wantsDirectory := true }

/-- The names of the directory above; what is above the working directory has no name of its own. -/
def namesAbove (names : List String) : List String :=
  if names = ["/"] then names
  else if names.all (· = "..") then names ++ [".."]
  else names.dropLast

/-- The path that a disk files these names under. -/
def pathOf (names : List String) : String := Text.joinWith "/" names

/-- A file name without its extension: what stands before its last point, if that is anything. -/
def stem (name : String) : String :=
  let afterPoint := name.toList.reverse.takeWhile (· ≠ '.')
  let before := (name.toList.reverse.drop (afterPoint.length + 1)).reverse
  if before.isEmpty then name else String.ofList before

/-- The same path with another extension. The old one is cut off the end first, which may leave
`..`; a path that leads up has no file name and stays as it is. -/
def withExtension (extension : String) (l : Location) : Location :=
  match l.parts.getLast? with
  | none => l
  | some name =>
    if name = ".." then l
    else
      let last :=
        if stem name = "." ∧ ¬l.wantsDirectory then ".." else stem name ++ "." ++ extension
      { l with parts := l.parts.dropLast ++ [last], wantsDirectory := false }

/-- A name has at most this many octets. -/
def maxName : Nat := 255

/-- A path has fewer octets than this. -/
def pathLimit : Nat := 4096

/-- Whether a file system takes the path at all. -/
def isAdmissible (l : Location) : Bool :=
  l.parts.all (fun part => !part.toList.contains '\x00') &&
    decide ((pathOf l.parts).utf8ByteSize < pathLimit)

end Location

/-- Why a way leads nowhere. -/
inductive Obstacle where
  /-- A directory on the way is missing. -/
  | missing
  /-- Something is already there. -/
  | present
  /-- The way leads through a file, or has a name that no file can have. -/
  | refused
  deriving DecidableEq, Repr

/-- What a store asks of a file system. -/
class FileSystem (φ : Type) where
  read? : φ → Location → Option String
  isDirectory : φ → Location → Bool
  /-- Makes one directory. -/
  makeDirectory : φ → Location → Except Obstacle φ
  /-- Writes a whole file, in place of one that may be there. -/
  writeFile : φ → Location → String → Except Error Unit × φ
  /-- Moves a file to another place, over a file that may be there. -/
  rename : φ → Location → Location → Except Error Unit × φ

namespace FileSystem

variable {φ : Type} [FileSystem φ]

/-- Makes a directory after those above it that are missing; the parts come from the last on. -/
def makeDirectoriesUp (fs : φ) (absolute : Bool) : List String → Except Error Unit × φ
  | [] => (.ok (), fs)
  | part :: rest =>
    let l : Location := ⟨absolute, (part :: rest).reverse, true⟩
    let unlessThere := fun (fs : φ) =>
      if isDirectory fs l then (.ok (), fs) else (.error (.io "not a directory"), fs)
    match makeDirectory fs l with
    | .ok fs => (.ok (), fs)
    | .error .missing =>
      match makeDirectoriesUp fs absolute rest with
      | (.error e, fs) => (.error e, fs)
      | (.ok _, fs) =>
        match makeDirectory fs l with
        | .ok fs => (.ok (), fs)
        | .error _ => unlessThere fs
    | .error _ => unlessThere fs

/-- Makes a directory and those above it that are missing. -/
def makeDirectories (fs : φ) (l : Location) : Except Error Unit × φ :=
  makeDirectoriesUp fs l.absolute l.parts.reverse

end FileSystem

end DevConsole
