import DevConsole.Entries

/-!
# The node arena

Nodes live in numbered cells. A directory maps the names of its entries to cell numbers. Cells that
removals empty are used again before the arena grows, the one emptied last first. `node` reads a
cell that holds nothing as an empty file; in a tree that is built and changed by the operations of
`Files.Volume` no such cell is ever reached.
-/

namespace DevConsole.Files

abbrev NodeId := Nat

inductive Node where
  | directory (children : Entries NodeId)
  | file (content : String)
  deriving Repr, Inhabited

def Node.isDirectory : Node → Bool
  | .directory _ => true
  | .file _ => false

/-- The entries of a directory; a file has none. -/
def Node.children : Node → Entries NodeId
  | .directory children => children
  | .file _ => []

/-- Cells that hold a node or are vacant. -/
structure Arena where
  cells : Array (Option Node)
  /-- The vacant cells, the one emptied last first. -/
  vacant : List NodeId
  nodup : vacant.Nodup
  mem_vacant_iff : ∀ id, id ∈ vacant ↔ cells[id]? = some none
  deriving Repr

namespace Arena

def empty : Arena := ⟨#[], [], .nil, by simp⟩

instance : Inhabited Arena := ⟨empty⟩

/-- The node of a live cell. -/
def node? (a : Arena) (id : NodeId) : Option Node := a.cells[id]?.join

def node (a : Arena) (id : NodeId) : Node := (a.node? id).getD (.file "")

/-- The number of live cells. -/
def count (a : Arena) : Nat := a.cells.countP Option.isSome

/-- The cell that the next node goes to: the one emptied last, or a new one at the end. -/
def nextId (a : Arena) : NodeId := a.vacant.headD a.cells.size

/-- Puts a node into the cell `nextId`. -/
def alloc (a : Arena) (n : Node) : Arena :=
  match h : a.vacant with
  | [] =>
    { cells := a.cells.push (some n)
      vacant := []
      nodup := .nil
      mem_vacant_iff := fun id => by
        have hid := a.mem_vacant_iff id
        rw [h] at hid
        simp only [List.not_mem_nil, false_iff] at hid ⊢
        rw [Array.getElem?_push]
        split
        · simp
        · exact hid }
  | first :: rest =>
    { cells := a.cells.setIfInBounds first (some n)
      vacant := rest
      nodup := (List.nodup_cons.1 (h ▸ a.nodup)).2
      mem_vacant_iff := fun id => by
        have hid := a.mem_vacant_iff id
        have hfirst := (List.nodup_cons.1 (h ▸ a.nodup)).1
        rw [h, List.mem_cons] at hid
        by_cases he : id = first
        · subst he
          rw [Array.getElem?_setIfInBounds_self]
          split <;> simp [hfirst]
        · rw [Array.getElem?_setIfInBounds_ne (Ne.symm he), ← hid]
          simp [he] }

/-- Replaces the node of a live cell. -/
def put (a : Arena) (id : NodeId) (n : Node) : Arena :=
  if h : (a.node? id).isSome then
    { a with
      cells := a.cells.setIfInBounds id (some n)
      mem_vacant_iff := fun other => by
        rw [a.mem_vacant_iff]
        by_cases he : other = id
        · subst he
          rw [Array.getElem?_setIfInBounds_self]
          have hne : a.cells[other]? ≠ some none := fun hn => by simp [node?, hn] at h
          split <;> simp [hne]
        · rw [Array.getElem?_setIfInBounds_ne (Ne.symm he)] }
  else a

/-- Empties a live cell. -/
def free (a : Arena) (id : NodeId) : Arena :=
  if h : (a.node? id).isSome then
    { cells := a.cells.setIfInBounds id none
      vacant := id :: a.vacant
      nodup := List.nodup_cons.2 ⟨fun hv => by
        rw [a.mem_vacant_iff] at hv
        simp [node?, hv] at h, a.nodup⟩
      mem_vacant_iff := fun other => by
        rw [List.mem_cons, a.mem_vacant_iff]
        by_cases he : other = id
        · subst he
          have hlt : other < a.cells.size := by
            refine Nat.lt_of_not_le fun hge => ?_
            simp [node?, Array.getElem?_eq_none hge] at h
          rw [Array.getElem?_setIfInBounds_self, if_pos hlt]
          simp
        · rw [Array.getElem?_setIfInBounds_ne (Ne.symm he)]
          simp [he] }
  else a

end Arena

end DevConsole.Files
