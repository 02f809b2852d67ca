import DevConsole.Files.Error
import DevConsole.Text.Lines

/-!
# Paths

A `Path` is the list of names that lead from the root to an entry. `resolve` reads a path text from
a working directory: empty parts and `.` are dropped, `..` takes the last name away and does
nothing at the root. Resolving never fails, whether the entry exists is the tree's concern.
-/

namespace DevConsole.Files

/-- A path from the root, as the names on the way. -/
structure Path where
  segments : List String
  deriving DecidableEq, Repr

namespace Path

/-- The root directory. -/
def root : Path := ⟨[]⟩

def isRoot (p : Path) : Bool := p.segments.isEmpty

/-- The last name; the root has none. -/
def name? (p : Path) : Option String := p.segments.getLast?

/-- The directory above; the root is above itself. -/
def parent (p : Path) : Path := ⟨p.segments.dropLast⟩

/-- A slash before every name; the root is a single slash. -/
def render (p : Path) : String :=
  if p.segments.isEmpty then "/" else String.join (p.segments.map ("/" ++ ·))

/-- A name that a directory entry may have. -/
def validName (name : String) : Bool :=
  !(name == "" || name == "." || name == ".." || name.toList.contains '/')

def checkName (name : String) : Except FileError Unit :=
  if validName name then .ok () else .error (.invalidName name)

/-- The path of an entry of the directory `p`. -/
def join (p : Path) (name : String) : Except FileError Path :=
  (checkName name).map fun _ => ⟨p.segments ++ [name]⟩

/-- What one part of a path text does to the names gathered so far. -/
def follow (segments : List String) (part : String) : List String :=
  if part = "" ∨ part = "." then segments
  else if part = ".." then segments.dropLast
  else segments ++ [part]

/-- Whether a path text starts at the root. -/
def isAbsolute (text : String) : Bool := text.toList.head? == some '/'

/-- The path that `text` names for someone working in `cwd`. -/
def resolve (text : String) (cwd : Path) : Path :=
  ⟨(Text.splitOn '/' text).foldl follow (if isAbsolute text then [] else cwd.segments)⟩

/-- The path that `text` names from the root. -/
def parse (text : String) : Path := resolve text root

/-- Paths are ordered by their lists of names, name by name. -/
protected def compare (p q : Path) : Ordering := compareOfLessAndEq p.segments q.segments

end Path

end DevConsole.Files
