import DevConsole.Entries
import DevConsole.Store.FileSystem

/-!
# Files on a disk

A `Disk` is the files and directories around a working directory, under their paths; the root of the
file system is the name `/`. Steps are taken one by one, so that a way through a directory that is
missing leads nowhere even if it leads back up. The operations fail as those of a file system do: a
file cannot be written over a directory or into one that is missing, and no name is too long. There
are no links on a disk, so a file has one path.
-/

namespace DevConsole

inductive DiskNode where
  | directory
  | file (content : String)
  deriving DecidableEq, Repr

/-- Files and directories under their paths. -/
abbrev Disk := Entries DiskNode

/-- The paths on the way, if nothing on it is missing. -/
def Location.visited (l : Location) : List String :=
  (List.range l.parts.length).map fun n =>
    pathOf ((l.parts.take (n + 1)).foldl
      (fun names part => if part = ".." then namesAbove names else names ++ [part]) l.start)

namespace Disk

/-- What is at a place. The working directory, those above it and the root are always there. -/
def at? (d : Disk) (names : List String) : Option DiskNode :=
  if names.all (· = "..") ∨ names = ["/"] then some .directory
  else d.find? (Location.pathOf names)

/-- One step on a way. -/
def step (d : Disk) (here : List String) (part : String) : Except Obstacle (List String) :=
  match d.at? here with
  | none => .error .missing
  | some (.file _) => .error .refused
  | some .directory =>
    if part = ".." then .ok (Location.namesAbove here)
    else if part.utf8ByteSize ≤ Location.maxName then .ok (here ++ [part])
    else .error .refused

/-- The names of the place where a way ends; that place itself may have nothing. -/
def follow (d : Disk) (l : Location) : Except Obstacle (List String) :=
  if l.isAdmissible then l.parts.foldlM d.step l.start else .error .refused

/-- What is at the end of a way. -/
def node? (d : Disk) (l : Location) : Option DiskNode :=
  match d.follow l with
  | .ok names => d.at? names
  | .error _ => none

def read? (d : Disk) (l : Location) : Option String :=
  match l.wantsDirectory, d.node? l with
  | false, some (.file content) => some content
  | _, _ => none

/-- Makes one directory. -/
def makeDirectory (d : Disk) (l : Location) : Except Obstacle Disk :=
  match d.follow l with
  | .error o => .error o
  | .ok names =>
    match d.at? names with
    | some _ => .error .present
    | none => .ok (Entries.insert (Location.pathOf names) .directory d)

def writeFile (d : Disk) (l : Location) (content : String) : Except Error Unit × Disk :=
  match d.follow l with
  | .error _ => (.error (.io "no such place"), d)
  | .ok names =>
    if l.wantsDirectory ∨ d.at? names = some .directory then (.error (.io "is a directory"), d)
    else if d.at? names.dropLast = some .directory then
      (.ok (), Entries.insert (Location.pathOf names) (.file content) d)
    else (.error (.io "no such directory"), d)

/-- Moves a file to another place, over a file that may be there. -/
def rename (d : Disk) (source target : Location) : Except Error Unit × Disk :=
  match d.follow source, d.follow target with
  | .ok sourceNames, .ok targetNames =>
    match d.at? sourceNames with
    | some (.file content) =>
      if target.wantsDirectory ∨ d.at? targetNames = some .directory then
        (.error (.io "is a directory"), d)
      else if sourceNames = targetNames then (.ok (), d)
      else
        (.ok (), Entries.insert (Location.pathOf targetNames) (.file content)
          (Entries.erase (Location.pathOf sourceNames) d))
    | _ => (.error (.io "no such file"), d)
  | _, _ => (.error (.io "no such place"), d)

end Disk

instance : FileSystem Disk where
  read? := Disk.read?
  isDirectory d l := decide (d.node? l = some .directory)
  makeDirectory := Disk.makeDirectory
  writeFile := Disk.writeFile
  rename := Disk.rename

end DevConsole
