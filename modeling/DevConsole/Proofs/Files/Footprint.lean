import DevConsole.Files.Tree
import DevConsole.Proofs.Files.Arena
import DevConsole.Proofs.Files.Document

/-!
# Documents in an arena

`Arena.Holds a x`: from the cell `x.id` down, the arena holds the document `x.document` in exactly
the cells `x.cells`. What happens elsewhere is no matter (`Holds.frame`).

`Arena.Framed a frame x`: besides, no cell is used twice and the live cells are those of `x` and of
`frame`. This is the invariant of the tree operations. It can be moved from a directory to one of
its entries and back (`Framed.child`, `Framed.putBack`), and so along a path (`Framed.descend`): an
operation on a directory deep down is described at that directory, with everything above it in the
frame.
-/

namespace DevConsole.Files

/-- A document in an arena: the cell of its root, the document, and all the cells it takes up. -/
structure Placed where
  id : NodeId
  document : Document
  cells : Multiset NodeId

/-- All the cells that entries take up. -/
def cellsOf : Entries Placed → Multiset NodeId
  | [] => 0
  | (_, x) :: rows => x.cells + cellsOf rows

namespace Placed

def file (id : NodeId) (content : String) : Placed := ⟨id, .file content, {id}⟩

/-- A directory in the cell `id` with its entries below. -/
def dir (id : NodeId) (rows : Entries Placed) : Placed :=
  ⟨id, .dir (rows.mapValues Placed.document), id ::ₘ cellsOf rows⟩

end Placed

/-! ## Cells of entries -/

theorem mem_cellsOf {rows : Entries Placed} {i : NodeId} :
    i ∈ cellsOf rows ↔ ∃ r ∈ rows, i ∈ r.2.cells := by
  induction rows with
  | nil => simp [cellsOf]
  | cons r rows ih => simp only [cellsOf, Multiset.mem_add, ih, List.exists_mem_cons_iff]

theorem cellsOf_of_find? {rows : Entries Placed} {name : String} {x : Placed}
    (h : rows.find? name = some x) : cellsOf rows = x.cells + cellsOf (rows.erase name) := by
  induction rows with
  | nil => simp at h
  | cons r rows ih =>
    obtain ⟨n, y⟩ := r
    simp only [Entries.find?] at h
    simp only [Entries.erase]
    split at h
    · rename_i hn
      cases h
      simp [cellsOf, hn]
    · rename_i hn
      rw [if_neg hn, cellsOf, cellsOf, ih h, add_left_comm]

theorem cellsOf_insert {rows : Entries Placed} (h : rows.Ordered) (name : String) (x : Placed) :
    cellsOf (rows.insert name x) = x.cells + cellsOf (rows.erase name) := by
  induction rows with
  | nil => rfl
  | cons r rows ih =>
    obtain ⟨n, y⟩ := r
    obtain ⟨hlt, hrows⟩ := Entries.ordered_cons.1 h
    simp only [Entries.insert, Entries.erase]
    split
    · rename_i hn
      have hne : n ≠ name := fun he => String.lt_irrefl n (he ▸ hn)
      have hnone : Entries.find? name rows = none :=
        Entries.find?_eq_none_of_lt fun e he => String.lt_trans hn (hlt e he)
      rw [if_neg hne, Entries.erase_of_find?_eq_none hnone]
      rfl
    · split
      · rfl
      · rw [cellsOf, cellsOf, ih hrows, add_left_comm]

namespace Arena

/-! ## Holding a document -/

/-- The arena holds a document in the cells given. -/
inductive Holds (a : Arena) : Placed → Prop
  | file {id : NodeId} {content : String} :
      a.node? id = some (.file content) → Holds a (.file id content)
  | dir {id : NodeId} {rows : Entries Placed} :
      a.node? id = some (.directory (rows.mapValues Placed.id)) → rows.Ordered →
      (∀ r ∈ rows, Path.validName r.1 = true) → (∀ r ∈ rows, Holds a r.2) → Holds a (.dir id rows)

/-- The arena holds a directory with these entries. -/
structure HoldsDir (a : Arena) (id : NodeId) (rows : Entries Placed) : Prop where
  node : a.node? id = some (.directory (rows.mapValues Placed.id))
  ordered : rows.Ordered
  named : ∀ r ∈ rows, Path.validName r.1 = true
  holds : ∀ r ∈ rows, a.Holds r.2

/-- The cells in `ids` are the same in both arenas. -/
def Agree (ids : Multiset NodeId) (a a' : Arena) : Prop := ∀ i ∈ ids, a'.node? i = a.node? i

variable {a a' : Arena} {x : Placed}

theorem HoldsDir.toHolds {id : NodeId} {rows : Entries Placed} (h : a.HoldsDir id rows) :
    a.Holds (.dir id rows) := .dir h.node h.ordered h.named h.holds

theorem Holds.toDir (h : a.Holds x) {entries : Entries Document}
    (hd : x.document = .dir entries) :
    ∃ id rows, x = .dir id rows ∧ entries = rows.mapValues Placed.document ∧
      a.HoldsDir id rows := by
  cases h with
  | file hn => cases hd
  | @dir id rows hn ho hv hh =>
    cases hd
    exact ⟨id, rows, rfl, rfl, hn, ho, hv, hh⟩

/-- What the cell of a document holds, a file having no entries. -/
theorem Holds.node (h : a.Holds x) :
    ∃ n, ∃ rows : Entries Placed, a.node? x.id = some n ∧ n.children = rows.mapValues Placed.id ∧
      x.cells = x.id ::ₘ cellsOf rows ∧ ∀ r ∈ rows, a.Holds r.2 := by
  cases h with
  | file hn => exact ⟨_, [], hn, rfl, rfl, by simp⟩
  | dir hn _ _ hh => exact ⟨_, _, hn, rfl, rfl, hh⟩

theorem Holds.id_mem (h : a.Holds x) : x.id ∈ x.cells := by
  cases h with
  | file => exact Multiset.mem_singleton_self _
  | dir => exact Multiset.mem_cons_self _ _

theorem Holds.live_of_mem (h : a.Holds x) {i : NodeId} (hi : i ∈ x.cells) : a.Live i := by
  induction h with
  | file hn =>
    rw [Multiset.mem_singleton.1 hi]
    exact live_of_node? hn
  | dir hn _ _ _ ih =>
    rcases Multiset.mem_cons.1 hi with rfl | hi
    · exact live_of_node? hn
    · obtain ⟨r, hr, hir⟩ := mem_cellsOf.1 hi
      exact ih r hr hir

/-- A document is still held where none of its cells has changed. -/
theorem Holds.frame (h : a.Holds x) (hag : Agree x.cells a a') : a'.Holds x := by
  induction h with
  | file hn => exact .file ((hag _ (Multiset.mem_singleton_self _)).trans hn)
  | dir hn ho hv _ ih =>
    refine .dir ((hag _ (Multiset.mem_cons_self _ _)).trans hn) ho hv fun r hr => ih r hr ?_
    exact fun i hi => hag i (Multiset.mem_cons_of_mem (mem_cellsOf.2 ⟨r, hr, hi⟩))

theorem Holds.ordered (h : a.Holds x) : x.document.Ordered := by
  induction h with
  | file => exact .file _
  | dir _ ho _ _ ih =>
    refine .dir (Entries.ordered_mapValues.2 ho) fun e he => ?_
    obtain ⟨r, hr, rfl⟩ := List.mem_map.1 he
    exact ih r hr

theorem Holds.named (h : a.Holds x) : x.document.Named := by
  induction h with
  | file => exact .file _
  | dir _ _ hv _ ih =>
    refine .dir (fun e he => ?_) fun e he => ?_
    · obtain ⟨r, hr, rfl⟩ := List.mem_map.1 he
      exact hv r hr
    · obtain ⟨r, hr, rfl⟩ := List.mem_map.1 he
      exact ih r hr

theorem card_cellsOf {rows : Entries Placed}
    (h : ∀ r ∈ rows, r.2.cells.card = r.2.document.size) :
    (cellsOf rows).card = Document.sizeChildren (rows.mapValues Placed.document) := by
  induction rows with
  | nil => rfl
  | cons r rows ih =>
    rw [cellsOf, Multiset.card_add, h r List.mem_cons_self,
      ih fun r hr => h r (List.mem_cons_of_mem _ hr)]
    rfl

/-- A document takes up one cell for each node. -/
theorem Holds.card_cells (h : a.Holds x) : x.cells.card = x.document.size := by
  induction h with
  | file => rfl
  | dir _ _ _ _ ih =>
    rw [Placed.dir, Multiset.card_cons, card_cellsOf ih, Document.size, Nat.add_comm]

/-! ## Holding nothing else -/

/-- The arena holds `x`, and its live cells are those of `x` and, apart from them, `frame`. -/
structure Framed (a : Arena) (frame : Multiset NodeId) (x : Placed) : Prop where
  holds : a.Holds x
  nodup : (frame + x.cells).Nodup
  live : ∀ i, a.Live i ↔ i ∈ frame + x.cells

theorem Agree.mono {ids ids' : Multiset NodeId} (h : Agree ids a a') (hs : ids' ≤ ids) :
    Agree ids' a a' := fun i hi => h i (Multiset.mem_of_le hs hi)

section

variable {frame : Multiset NodeId} {id : NodeId} {rows : Entries Placed} {name : String}

theorem HoldsDir.find? (h : a.HoldsDir id rows) (hf : rows.find? name = some x) : a.Holds x :=
  h.holds _ (Entries.mem_of_find? hf)

/-- What is in the frame of an entry: the frame of the directory, its cell, and the other
entries. -/
def frameOfChild (frame : Multiset NodeId) (id : NodeId) (rows : Entries Placed) (name : String) :
    Multiset NodeId := frame + id ::ₘ cellsOf (rows.erase name)

theorem le_frameOfChild : frame ≤ frameOfChild frame id rows name := Multiset.le_add_right _ _

theorem frameOfChild_add (hf : rows.find? name = some x) :
    frameOfChild frame id rows name + x.cells = frame + (Placed.dir id rows).cells := by
  rw [frameOfChild, Placed.dir, cellsOf_of_find? hf, add_assoc, Multiset.cons_add, add_comm x.cells]

/-- From a directory to an entry. -/
theorem Framed.child (h : a.Framed frame (.dir id rows)) (hr : a.HoldsDir id rows)
    (hf : rows.find? name = some x) : a.Framed (frameOfChild frame id rows name) x := by
  refine ⟨hr.find? hf, ?_, fun i => ?_⟩
  · rw [frameOfChild_add hf]
    exact h.nodup
  · rw [frameOfChild_add hf]
    exact h.live i

/-- A directory whose entry `name` is new or changed, its other entries being the same. -/
theorem HoldsDir.insert (hr : a.HoldsDir id rows) (hv : Path.validName name = true)
    (hn : a'.node? id = some (.directory ((rows.insert name x).mapValues Placed.id)))
    (hx : a'.Holds x) (hag : Agree (cellsOf (rows.erase name)) a a') :
    a'.HoldsDir id (rows.insert name x) := by
  refine ⟨hn, hr.ordered.insert name x, fun r hm => ?_, fun r hm => ?_⟩
  · rcases Entries.mem_insert hm with rfl | hm
    · exact hv
    · exact hr.named r hm
  · rcases hr.ordered.mem_insert_iff.1 hm with rfl | hm
    · exact hx
    · exact (hr.holds r (Entries.mem_of_mem_erase hm)).frame fun i hi =>
        hag i (mem_cellsOf.2 ⟨r, hm, hi⟩)

theorem Framed.dir_insert (hr : rows.Ordered)
    (hx : a'.Framed (frameOfChild frame id rows name) x)
    (hd : a'.HoldsDir id (rows.insert name x)) :
    a'.Framed frame (.dir id (rows.insert name x)) := by
  have hcells : frameOfChild frame id rows name + x.cells =
      frame + (Placed.dir id (rows.insert name x)).cells := by
    rw [frameOfChild, Placed.dir, cellsOf_insert hr, add_assoc, Multiset.cons_add,
      add_comm x.cells]
  refine ⟨hd.toHolds, ?_, fun i => ?_⟩
  · rw [← hcells]
    exact hx.nodup
  · rw [← hcells]
    exact hx.live i

/-- Back from an entry to its directory, after a change of the entry. -/
theorem Framed.putBack (hr : a.HoldsDir id rows) (hf : rows.find? name = some x) {x' : Placed}
    (hx : a'.Framed (frameOfChild frame id rows name) x') (hid : x'.id = x.id)
    (hag : Agree (frameOfChild frame id rows name) a a') :
    a'.HoldsDir id (rows.insert name x') ∧ a'.Framed frame (.dir id (rows.insert name x')) := by
  have hnode : a'.node? id = some (.directory ((rows.insert name x').mapValues Placed.id)) := by
    rw [hag id (by simp [frameOfChild]), hr.node, Entries.mapValues_insert, hid,
      (Entries.ordered_mapValues.2 hr.ordered).insert_of_find?
        (by rw [Entries.find?_mapValues, hf]; rfl)]
  have hd : a'.HoldsDir id (rows.insert name x') :=
    hr.insert (hr.named _ (Entries.mem_of_find? hf)) hnode hx.holds
      fun i hi => hag i (by simp [frameOfChild, hi])
  exact ⟨hd, hx.dir_insert hr.ordered hd⟩

end

end Arena

end DevConsole.Files
