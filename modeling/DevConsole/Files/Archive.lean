import DevConsole.Error
import DevConsole.Files.Document
import DevConsole.Json.Reader
import DevConsole.Json.Printer

/-!
# Saved documents

A document is saved as a JSON object with the root under the name `/`. A directory is an object
with `"type":"dir"` and its `children`, a file one with `"type":"file"` and its `content`. Reading
allows more than writing produces: missing children or content are empty, other members are
ignored, and a node may be the list of its type and its children or content. A node below the root
may give its type by number.
-/

namespace DevConsole.Files

namespace Document

/-- The name that the root is saved under. -/
def rootName : String := "/"

/-! ## Writing -/

mutual

def toJson : Document → Json
  | .dir children =>
    .object [("type", .string "dir"), ("children", .object (childrenToJson children))]
  | .file content => .object [("type", .string "file"), ("content", .string content)]

def childrenToJson : List (String × Document) → List (String × Json)
  | [] => []
  | (name, d) :: rest => (name, toJson d) :: childrenToJson rest

end

/-- The saved form of a root. -/
def render (root : Document) : String := (Json.object [(rootName, root.toJson)]).compact

/-! ## Reading -/

inductive Kind where
  | dir
  | file
  deriving DecidableEq, Repr

/-- The type of a node; only below the root may it be a number. -/
def Kind.ofJson? (belowRoot : Bool) : Json → Option Kind
  | .string "dir" => some .dir
  | .string "file" => some .file
  | .number (.natural n) =>
    if belowRoot then (if n = 0 then some .dir else if n = 1 then some .file else none) else none
  | _ => none

/-- A node of a type, given what is saved as its children or content. -/
def ofBody? (children? : Json → Option (Entries Document)) : Kind → Option Json → Option Document
  | .dir, none => some (.dir [])
  | .dir, some v => (children? v).map .dir
  | .file, none => some (.file "")
  | .file, some v => v.string?.map .file

/-- The name of the member that holds the children or the content. -/
def Kind.bodyName : Kind → String
  | .dir => "children"
  | .file => "content"

/-- A saved node, nested at most `levels` deep. -/
def ofJson? : Nat → Bool → Json → Option Document
  | 0, _, _ => none
  | levels + 1, belowRoot, v =>
    let children? := Json.entries? (ofJson? levels true)
    match v with
    | .object members => do
      let tag ← (← Json.member? "type" members)
      let kind ← Kind.ofJson? belowRoot tag
      ofBody? children? kind (← Json.member? kind.bodyName members)
    | .array (tag :: body) => do
      let kind ← Kind.ofJson? belowRoot tag
      match body with
      | [] => ofBody? children? kind none
      | [v] => ofBody? children? kind (some v)
      | _ => none
    | _ => none

/-- The root in a saved form. -/
def parse (text : String) : Except Error Document :=
  match (Json.read text).bind (Json.entries? (ofJson? (Json.maxDepth + 1) false)) with
  | none => .error (.json "not a filesystem document")
  | some top =>
    match top.find? rootName with
    | some (.dir children) => .ok (.dir children)
    | some (.file _) => .error (.store "filesystem document root is a file")
    | none => .error (.store "filesystem document has no root")

end Document

end DevConsole.Files
