import DevConsole.Files.Arena
import Mathlib.Algebra.Order.Group.Multiset
import Mathlib.Data.Multiset.Range

/-!
# The theory of the node arena

What `alloc`, `put` and `free` do to `node?`: each changes one cell and leaves every other alone.
A new node goes to a cell that held nothing (`node?_nextId`), so that no node is ever overwritten by
one. `count` is the number of live cells, however they are listed (`count_eq_card`).
-/

namespace DevConsole.Files.Arena

/-- A cell that holds a node. -/
def Live (a : Arena) (id : NodeId) : Prop := (a.node? id).isSome

instance (a : Arena) (id : NodeId) : Decidable (a.Live id) := inferInstanceAs (Decidable (_ = true))

theorem live_of_node? {a : Arena} {id : NodeId} {n : Node} (h : a.node? id = some n) :
    a.Live id := by simp [Live, h]

theorem Live.lt_size {a : Arena} {id : NodeId} (h : a.Live id) : id < a.cells.size := by
  apply Classical.byContradiction
  intro hge
  simp [Live, node?, Array.getElem?_eq_none (Nat.not_lt.1 hge)] at h

theorem node_of_node? {a : Arena} {id : NodeId} {n : Node} (h : a.node? id = some n) :
    a.node id = n := by simp [node, h]

/-! ## Changes of one cell -/

/-- A new node goes to a cell that is free. -/
theorem node?_nextId (a : Arena) : a.node? a.nextId = none := by
  unfold nextId
  cases h : a.vacant with
  | nil => simp [node?]
  | cons first rest =>
    have hfirst : a.cells[first]? = some none := (a.mem_vacant_iff first).1 (by simp [h])
    simp [node?, hfirst]

theorem not_live_nextId (a : Arena) : ¬a.Live a.nextId := by simp [Live, node?_nextId]

theorem node?_alloc (a : Arena) (n : Node) (id : NodeId) :
    (a.alloc n).node? id = if id = a.nextId then some n else a.node? id := by
  unfold alloc
  split
  · rename_i hv
    have hnext : a.nextId = a.cells.size := by simp [nextId, hv]
    rw [hnext]
    simp only [node?, Array.getElem?_push]
    split <;> rfl
  · rename_i first rest hv
    have hnext : a.nextId = first := by simp [nextId, hv]
    have hlt : first < a.cells.size := by
      have hfirst : a.cells[first]? = some none := (a.mem_vacant_iff first).1 (by simp [hv])
      exact (Array.getElem?_eq_some_iff.1 hfirst).1
    rw [hnext]
    by_cases h : id = first
    · subst h
      simp [node?, hlt]
    · simp [node?, h, Ne.symm h]

theorem node?_put {a : Arena} {id : NodeId} (h : a.Live id) (n : Node) (other : NodeId) :
    (a.put id n).node? other = if other = id then some n else a.node? other := by
  have hlive : (a.node? id).isSome := h
  rw [put, dif_pos hlive]
  by_cases ho : other = id
  · subst ho
    simp [node?, h.lt_size]
  · simp [node?, ho, Ne.symm ho]

theorem node?_free (a : Arena) (id other : NodeId) :
    (a.free id).node? other = if other = id then none else a.node? other := by
  by_cases hlive : (a.node? id).isSome
  · rw [free, dif_pos hlive]
    by_cases ho : other = id
    · subst ho
      simp [node?, Live.lt_size (a := a) hlive]
    · simp [node?, ho, Ne.symm ho]
  · rw [free, dif_neg hlive]
    split
    · rename_i ho
      simpa [ho] using hlive
    · rfl

/-- To put the node of a cell back changes nothing. -/
theorem put_eq_self {a : Arena} {id : NodeId} {n : Node} (h : a.node? id = some n) :
    a.put id n = a := by
  have hcell : a.cells[id]? = some (some n) := by simpa [node?, Option.join_eq_some_iff] using h
  have hcells : a.cells.setIfInBounds id (some n) = a.cells := by
    refine Array.ext_getElem? fun i => ?_
    rw [Array.getElem?_setIfInBounds]
    split
    · rename_i hi
      subst hi
      rw [hcell, if_pos (Array.getElem?_eq_some_iff.1 hcell).1]
    · rfl
  rw [put, dif_pos (by rw [h]; rfl)]
  simp only [hcells]

/-! ## Counting -/

theorem countP_eq_length_filter_range {α : Type} (cells : List (Option α)) :
    cells.countP Option.isSome =
      ((List.range cells.length).filter fun i => (cells[i]?.join).isSome).length := by
  have hcells : cells = (List.range cells.length).map fun i => cells[i]?.join := by
    apply List.ext_getElem (by simp)
    intro i hi _
    simp [hi]
  conv_lhs => rw [hcells]
  rw [List.countP_map, List.countP_eq_length_filter]
  rfl

/-- The number of live cells is the length of any list of them. -/
theorem count_eq_card {a : Arena} {ids : Multiset NodeId} (hn : ids.Nodup)
    (h : ∀ id, a.Live id ↔ id ∈ ids) : a.count = ids.card := by
  have hids : ids =
      ((List.range a.cells.size).filter fun id => (a.node? id).isSome : List NodeId) := by
    refine (Multiset.Nodup.ext hn ?_).2 fun id => ?_
    · exact Multiset.coe_nodup.2 (List.nodup_range.filter _)
    · rw [← h id, Multiset.mem_coe, List.mem_filter, List.mem_range]
      exact ⟨fun hl => ⟨hl.lt_size, hl⟩, fun hl => hl.2⟩
  rw [hids, Multiset.coe_card, count, ← Array.countP_toList, countP_eq_length_filter_range]
  simp [node?]

theorem card_le_size {a : Arena} {ids : Multiset NodeId} (hn : ids.Nodup)
    (h : ∀ id ∈ ids, a.Live id) : ids.card ≤ a.cells.size := by
  have hle : ids ≤ Multiset.range a.cells.size :=
    (Multiset.le_iff_subset hn).2 fun id hid => Multiset.mem_range.2 (h id hid).lt_size
  simpa using Multiset.card_le_card hle

end DevConsole.Files.Arena
