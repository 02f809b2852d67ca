import DevConsole.Entries
import DevConsole.Files.Path

/-!
# Nested documents

A `Document` is a tree of files and directories written out as one nested value. It is the form in
which a tree is saved, and the plain picture that the operations of `Files.Tree` are measured by.
`prune` leaves out the entries whose names no path can spell.
-/

namespace DevConsole.Files

/-- A file with its content, or a directory with its entries in the order of their names. -/
inductive Document where
  | file (content : String)
  | dir (children : List (String × Document))
  deriving Repr, Inhabited

namespace Document

def emptyDir : Document := .dir []

def isDir : Document → Bool
  | .dir _ => true
  | .file _ => false

mutual

def beq : Document → Document → Bool
  | .file a, .file b => a == b
  | .dir a, .dir b => beqChildren a b
  | _, _ => false

def beqChildren : List (String × Document) → List (String × Document) → Bool
  | [], [] => true
  | (n, a) :: as, (m, b) :: bs => n == m && beq a b && beqChildren as bs
  | _, _ => false

end

instance : BEq Document := ⟨beq⟩

mutual

/-- The number of nodes, this one included. -/
def size : Document → Nat
  | .file _ => 1
  | .dir children => 1 + sizeChildren children

def sizeChildren : List (String × Document) → Nat
  | [] => 0
  | (_, d) :: rest => size d + sizeChildren rest

end

mutual

/-- The document without the entries that have no valid name, at every level. -/
def prune : Document → Document
  | .file content => .file content
  | .dir children => .dir (pruneChildren children)

def pruneChildren : List (String × Document) → List (String × Document)
  | [] => []
  | (name, d) :: rest =>
    if Path.validName name then (name, prune d) :: pruneChildren rest else pruneChildren rest

end

end Document

/-- Content of the file that greets a new user. -/
def welcomeText : String := "Welcome to Dev Terminal System!\nType \"help\" to get started."

/-- The layout that a first session starts with. -/
def defaultLayout : Document :=
  .dir
    [("etc", .emptyDir),
     ("home", .dir
       [("user", .dir
         [("documents", .emptyDir), ("downloads", .emptyDir), ("projects", .emptyDir),
          ("welcome.txt", .file welcomeText)])]),
     ("var", .emptyDir)]

end DevConsole.Files
