import DevConsole.Entries

/-!
# JSON values

`Json` is a value as it stands in a text: the members of an object keep their order, and a name may
come twice. A piece that the grammar admits but that has no value, such as a number too large for a
`Float` or a string with half a surrogate pair, is `unreadable`; `sound` values contain none.
`canonical` sorts the members of every object and keeps the last of those with one name.
-/

namespace DevConsole

/-- Numbers without fraction and exponent stay whole where 64 bits hold them. -/
inductive Json.Number where
  | natural (n : Nat)
  /-- The number `-n`. -/
  | negative (n : Nat)
  | decimal (x : Float)
  deriving Repr

inductive Json where
  | null
  | bool (b : Bool)
  | number (n : Json.Number)
  | string (s : String)
  | array (items : List Json)
  | object (members : List (String × Json))
  | unreadable
  deriving Repr, Inhabited

namespace Json

/-- The deepest nesting of arrays and objects that is read. -/
def maxDepth : Nat := 127

mutual

/-- How deeply arrays and objects are nested. -/
def depth : Json → Nat
  | .array items => 1 + depthItems items
  | .object members => 1 + depthMembers members
  | _ => 0

def depthItems : List Json → Nat
  | [] => 0
  | v :: vs => max (depth v) (depthItems vs)

def depthMembers : List (String × Json) → Nat
  | [] => 0
  | (_, v) :: rest => max (depth v) (depthMembers rest)

end

mutual

/-- Whether every piece has a value. -/
def sound : Json → Bool
  | .unreadable => false
  | .array items => soundItems items
  | .object members => soundMembers members
  | _ => true

def soundItems : List Json → Bool
  | [] => true
  | v :: vs => sound v && soundItems vs

def soundMembers : List (String × Json) → Bool
  | [] => true
  | (_, v) :: rest => sound v && soundMembers rest

end

mutual

/-- Objects with their members in the order of the names, one for each name. -/
def canonical : Json → Json
  | .array items => .array (canonicalItems items)
  | .object members => .object (Entries.ofList (canonicalMembers members))
  | v => v

def canonicalItems : List Json → List Json
  | [] => []
  | v :: vs => canonical v :: canonicalItems vs

def canonicalMembers : List (String × Json) → List (String × Json)
  | [] => []
  | (name, v) :: rest => (name, canonical v) :: canonicalMembers rest

end

/-! ## Decoding -/

def string? : Json → Option String
  | .string s => some s
  | _ => none

def bool? : Json → Option Bool
  | .bool b => some b
  | _ => none

/-- A whole number from zero up; `1.0` is none. -/
def natural? : Json → Option Nat
  | .number (.natural n) => some n
  | _ => none

/-- A list whose items all decode. -/
def list? {α : Type} (decode : Json → Option α) : Json → Option (List α)
  | .array items => items.mapM decode
  | _ => none

/-- A map whose values all decode; of two values under one name the later one stays. -/
def entries? {α : Type} (decode : Json → Option α) : Json → Option (Entries α)
  | .object members =>
    (members.mapM fun m => (decode m.2).map fun d => (m.1, d)).map Entries.ofList
  | _ => none

/-- A member of a record. `some none` where the record has none, `none` where it has two. -/
def member? (name : String) (members : List (String × Json)) : Option (Option Json) :=
  match members.filter (·.1 = name) with
  | [] => some none
  | [(_, v)] => some (some v)
  | _ => none

end Json

end DevConsole
