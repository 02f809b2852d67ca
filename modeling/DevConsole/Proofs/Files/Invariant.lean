import DevConsole.Proofs.Files.Walk
import Mathlib.Logic.Relation

/-!
# The arena invariant

`Tree.WellFormed`: the cells of a tree, linked by the entries of its directories, form a tree with
the root directory at the top, and no live cell is left over. Every reachable tree is well formed
(`Represents.wellFormed`).

`Tree.Sound` says what follows for the operations: they read live cells only, and their loops end by
themselves. The loops are described without the counters that bound them: `Arena.Walks` for a walk,
`Arena.Frees` for a removal and `Arena.Spells` for the document that is written out.
-/

namespace DevConsole.Files

open Relation

namespace Arena

variable {a : Arena} {x : Placed} {id i j : NodeId} {rows : Entries Placed} {name : String}

/-! ## Links -/

/-- The directory in cell `i` has an entry `name` in cell `j`. -/
def Links (a : Arena) (i : NodeId) (name : String) (j : NodeId) : Prop :=
  ∃ children, a.node? i = some (.directory children) ∧ (name, j) ∈ children

/-- The directory in cell `i` has an entry in cell `j`. -/
def Above (a : Arena) (i j : NodeId) : Prop := ∃ name, a.Links i name j

theorem Links.live (h : a.Links i name j) : a.Live i := by
  obtain ⟨_, hn, _⟩ := h
  exact live_of_node? hn

theorem HoldsDir.links_iff (h : a.HoldsDir id rows) :
    a.Links id name j ↔ ∃ y, (name, y) ∈ rows ∧ y.id = j := by
  constructor
  · rintro ⟨children, hn, hm⟩
    rw [h.node] at hn
    cases hn
    obtain ⟨⟨_, y⟩, hr, he⟩ := List.mem_map.1 hm
    cases he
    exact ⟨y, hr, rfl⟩
  · rintro ⟨y, hr, rfl⟩
    exact ⟨_, h.node, Entries.mem_mapValues Placed.id hr⟩

theorem not_links_of_file {content : String} (h : a.node? i = some (.file content)) :
    ¬a.Links i name j := by
  rintro ⟨children, hn, -⟩
  rw [h] at hn
  cases hn

/-- Links lead to the documents below. -/
theorem Holds.mem_of_links (h : a.Holds x) (hi : i ∈ x.cells) (hl : a.Links i name j) :
    j ∈ x.cells := by
  induction h with
  | file hn =>
    rw [Multiset.mem_singleton.1 hi] at hl
    exact (not_links_of_file hn hl).elim
  | @dir id rows hn ho hv hh ih =>
    have hd : a.HoldsDir id rows := ⟨hn, ho, hv, hh⟩
    rcases Multiset.mem_cons.1 hi with rfl | hi
    · obtain ⟨y, hr, rfl⟩ := hd.links_iff.1 hl
      exact Multiset.mem_cons_of_mem (mem_cellsOf.2 ⟨_, hr, (hh _ hr).id_mem⟩)
    · obtain ⟨r, hr, hir⟩ := mem_cellsOf.1 hi
      exact Multiset.mem_cons_of_mem (mem_cellsOf.2 ⟨r, hr, ih r hr hir⟩)

/-- A link leads from a directory to one of its entries, or stays within an entry. -/
theorem HoldsDir.links_cases (h : a.HoldsDir id rows) (hi : i ∈ (Placed.dir id rows).cells)
    (hl : a.Links i name j) :
    (i = id ∧ ∃ y, (name, y) ∈ rows ∧ y.id = j) ∨
      ∃ r ∈ rows, i ∈ r.2.cells ∧ j ∈ r.2.cells := by
  rcases Multiset.mem_cons.1 hi with rfl | hi
  · exact .inl ⟨rfl, h.links_iff.1 hl⟩
  · obtain ⟨r, hr, hir⟩ := mem_cellsOf.1 hi
    exact .inr ⟨r, hr, hir, (h.holds r hr).mem_of_links hir hl⟩

theorem nodup_of_mem (h : (cellsOf rows).Nodup) {r : String × Placed} (hr : r ∈ rows) :
    r.2.cells.Nodup := by
  induction rows with
  | nil => cases hr
  | cons s rows ih =>
    obtain ⟨hs, hrows, -⟩ := Multiset.nodup_add.1 h
    rcases List.mem_cons.1 hr with rfl | hr
    · exact hs
    · exact ih hrows hr

/-- No two entries share a cell. -/
theorem eq_of_mem_cells (h : (cellsOf rows).Nodup) {r s : String × Placed} (hr : r ∈ rows)
    (hs : s ∈ rows) (hir : i ∈ r.2.cells) (his : i ∈ s.2.cells) : r = s := by
  induction rows with
  | nil => cases hr
  | cons p rows ih =>
    obtain ⟨-, hrows, hdisj⟩ := Multiset.nodup_add.1 h
    have hno : ∀ {q}, q ∈ rows → i ∈ q.2.cells → i ∉ p.2.cells := fun hq hi hp =>
      Multiset.disjoint_left.1 hdisj hp (mem_cellsOf.2 ⟨_, hq, hi⟩)
    rcases List.mem_cons.1 hr with rfl | hr' <;> rcases List.mem_cons.1 hs with rfl | hs'
    · rfl
    · exact (hno hs' his hir).elim
    · exact (hno hr' hir his).elim
    · exact ih hrows hr' hs'

/-- No link leads up to the root of a document. -/
theorem Holds.ne_of_links (h : a.Holds x) (hn : x.cells.Nodup) (hi : i ∈ x.cells)
    (hl : a.Links i name j) : j ≠ x.id := by
  cases h with
  | file hf =>
    rw [Multiset.mem_singleton.1 hi] at hl
    exact (not_links_of_file hf hl).elim
  | @dir id rows hf ho hv hh =>
    have hd : a.HoldsDir id rows := ⟨hf, ho, hv, hh⟩
    obtain ⟨hfresh, -⟩ := Multiset.nodup_cons.1 hn
    have hj : j ∈ cellsOf rows := by
      rcases hd.links_cases hi hl with ⟨-, y, hr, rfl⟩ | ⟨r, hr, -, hj⟩
      · exact mem_cellsOf.2 ⟨_, hr, (hh _ hr).id_mem⟩
      · exact mem_cellsOf.2 ⟨r, hr, hj⟩
    rintro rfl
    exact hfresh hj

/-- A cell is linked from one directory only, and under one name. -/
theorem Holds.links_unique (h : a.Holds x) (hn : x.cells.Nodup) {i' : NodeId} {name' : String}
    (hi : i ∈ x.cells) (hl : a.Links i name j) (hi' : i' ∈ x.cells) (hl' : a.Links i' name' j) :
    i = i' ∧ name = name' := by
  induction h with
  | file hf =>
    rw [Multiset.mem_singleton.1 hi] at hl
    exact (not_links_of_file hf hl).elim
  | @dir id rows hf ho hv hh ih =>
    have hd : a.HoldsDir id rows := ⟨hf, ho, hv, hh⟩
    obtain ⟨-, hrows⟩ := Multiset.nodup_cons.1 hn
    -- a root of an entry is not linked from within an entry
    have hmixed : ∀ {k m y r}, (m, y) ∈ rows → y.id = j → r ∈ rows → k ∈ r.2.cells →
        ∀ {l}, a.Links k l j → False := by
      intro k m y r hy hyj hr hk l hlk
      have hj : j ∈ r.2.cells := (hh r hr).mem_of_links hk hlk
      have hyr : (m, y) = r :=
        eq_of_mem_cells hrows hy hr (hyj ▸ (hh _ hy).id_mem) hj
      subst hyr
      exact (hh _ hr).ne_of_links (nodup_of_mem hrows hr) hk hlk hyj.symm
    rcases hd.links_cases hi hl with ⟨rfl, y, hy, hyj⟩ | ⟨r, hr, hir, hjr⟩ <;>
      rcases hd.links_cases hi' hl' with ⟨rfl, y', hy', hyj'⟩ | ⟨r', hr', hir', hjr'⟩
    · have he := eq_of_mem_cells hrows hy hy' (hyj ▸ (hh _ hy).id_mem)
        (hyj' ▸ (hh _ hy').id_mem)
      cases he
      exact ⟨rfl, rfl⟩
    · exact (hmixed hy hyj hr' hir' hl').elim
    · exact (hmixed hy' hyj' hr hir hl).elim
    · have he := eq_of_mem_cells hrows hr hr' hjr hjr'
      subst he
      exact ih r hr (nodup_of_mem hrows hr) hir hir'

/-- Every cell of a document is reached from its root. -/
theorem Holds.reached (h : a.Holds x) (hi : i ∈ x.cells) : ReflTransGen a.Above x.id i := by
  induction h with
  | file =>
    rw [Multiset.mem_singleton.1 hi]
    exact .refl
  | @dir id rows hn ho hv hh ih =>
    have hd : a.HoldsDir id rows := ⟨hn, ho, hv, hh⟩
    rcases Multiset.mem_cons.1 hi with rfl | hi
    · exact .refl
    · obtain ⟨r, hr, hir⟩ := mem_cellsOf.1 hi
      exact .head ⟨r.1, hd.links_iff.2 ⟨r.2, hr, rfl⟩⟩ (ih r hr hir)

theorem Holds.mem_of_reached (h : a.Holds x) (hi : i ∈ x.cells) (hr : ReflTransGen a.Above i j) :
    j ∈ x.cells := by
  induction hr with
  | refl => exact hi
  | tail _ hl ih =>
    obtain ⟨_, hl⟩ := hl
    exact h.mem_of_links ih hl

/-- No cell lies below itself. -/
theorem Holds.acyclic (h : a.Holds x) (hn : x.cells.Nodup) (hi : i ∈ x.cells) :
    ¬TransGen a.Above i i := by
  intro hloop
  induction h with
  | file hf =>
    obtain ⟨k, ⟨_, hl⟩, -⟩ := TransGen.head'_iff.1 hloop
    rw [Multiset.mem_singleton.1 hi] at hl
    exact not_links_of_file hf hl
  | @dir id rows hf ho hv hh ih =>
    have hd : a.Holds (.dir id rows) := .dir hf ho hv hh
    obtain ⟨k, hk, ⟨_, hl⟩⟩ := TransGen.tail'_iff.1 hloop
    have hne := hd.ne_of_links hn (hd.mem_of_reached hi hk) hl
    rcases Multiset.mem_cons.1 hi with rfl | hi
    · exact hne rfl
    · obtain ⟨r, hr, hir⟩ := mem_cellsOf.1 hi
      exact ih r hr (nodup_of_mem (Multiset.nodup_cons.1 hn).2 hr) hir

/-- What is held in a cell that holds a directory. -/
theorem Holds.dir_of_node? (h : a.Holds x) (hi : i ∈ x.cells) {children : Entries NodeId}
    (hn : a.node? i = some (.directory children)) :
    ∃ rows : Entries Placed, children = rows.mapValues Placed.id ∧ a.HoldsDir i rows := by
  induction h with
  | file hf =>
    rw [Multiset.mem_singleton.1 hi, hf] at hn
    cases hn
  | @dir id rows hf ho hv hh ih =>
    rcases Multiset.mem_cons.1 hi with rfl | hi
    · rw [hf] at hn
      cases hn
      exact ⟨rows, rfl, hf, ho, hv, hh⟩
    · obtain ⟨r, hr, hir⟩ := mem_cellsOf.1 hi
      exact ih r hr hir

/-! ## Writing out -/

/-- A run of `documentOf` that reads live cells only, with the document it spells. -/
inductive Spells (a : Arena) : NodeId → Document → Prop
  | file {id : NodeId} {content : String} :
      a.node? id = some (.file content) → Spells a id (.file content)
  | dir {id : NodeId} {below : Entries (NodeId × Document)} :
      a.node? id = some (.directory (below.mapValues Prod.fst)) →
      (∀ e ∈ below, Spells a e.2.1 e.2.2) → Spells a id (.dir (below.mapValues Prod.snd))

theorem Holds.spells (h : a.Holds x) : a.Spells x.id x.document := by
  induction h with
  | file hn => exact .file hn
  | @dir id rows hn _ _ _ ih =>
    have hpairs : a.Spells id
        (.dir ((rows.mapValues fun y => (y.id, y.document)).mapValues Prod.snd)) := by
      refine .dir ?_ fun e he => ?_
      · rw [Entries.mapValues_mapValues, hn]
      · obtain ⟨r, hr, rfl⟩ := List.mem_map.1 he
        exact ih r hr
    rw [Entries.mapValues_mapValues] at hpairs
    exact hpairs

end Arena

namespace Tree

variable {t : Tree} {x : Placed}

/-- The links of a tree lead from the root directory to every other live cell, to each in one way,
and every name is valid. -/
structure WellFormed (t : Tree) : Prop where
  root : ∃ children, t.arena.node? t.root = some (.directory children)
  linked_live : ∀ {i name j}, t.arena.Links i name j → t.arena.Live j
  root_unlinked : ∀ {i name}, ¬t.arena.Links i name t.root
  linked_once : ∀ {j}, t.arena.Live j → j ≠ t.root →
    ∃! e : NodeId × String, t.arena.Links e.1 e.2 j
  reached : ∀ {j}, t.arena.Live j → ReflTransGen t.arena.Above t.root j
  acyclic : ∀ j, ¬TransGen t.arena.Above j j
  named : ∀ {i name j}, t.arena.Links i name j → Path.validName name = true
  ordered : ∀ {i children}, t.arena.node? i = some (.directory children) → children.Ordered

theorem Represents.wellFormed (h : t.Represents x) : t.WellFormed where
  root := by
    obtain ⟨rows, -, hrows⟩ := h.eq_dir
    exact ⟨_, hrows.node⟩
  linked_live hl := by
    have hi := (h.live_iff _).1 hl.live
    exact (h.live_iff _).2 (h.holds.mem_of_links hi hl)
  root_unlinked hl := by
    have hi := (h.live_iff _).1 hl.live
    exact h.holds.ne_of_links h.nodup hi hl h.root.symm
  linked_once {j} hj hne := by
    have hr := h.holds.reached ((h.live_iff j).1 hj)
    rcases ReflTransGen.cases_tail hr with he | ⟨i, hi, name, hl⟩
    · exact (hne (he.trans h.root)).elim
    · refine ⟨(i, name), hl, fun ⟨i', name'⟩ hl' => ?_⟩
      obtain ⟨rfl, rfl⟩ := h.holds.links_unique h.nodup ((h.live_iff _).1 hl'.live) hl'
        ((h.live_iff _).1 hl.live) hl
      rfl
  reached hj := h.root ▸ h.holds.reached ((h.live_iff _).1 hj)
  acyclic j hloop := by
    obtain ⟨_, ⟨_, hl⟩, -⟩ := TransGen.head'_iff.1 hloop
    exact h.holds.acyclic h.nodup ((h.live_iff _).1 hl.live) hloop
  named hl := by
    obtain ⟨children, hn, hm⟩ := hl
    obtain ⟨rows, rfl, hrows⟩ :=
      h.holds.dir_of_node? ((h.live_iff _).1 (Arena.live_of_node? hn)) hn
    obtain ⟨r, hr, he⟩ := List.mem_map.1 hm
    cases he
    exact hrows.named r hr
  ordered hn := by
    obtain ⟨rows, rfl, hrows⟩ :=
      h.holds.dir_of_node? ((h.live_iff _).1 (Arena.live_of_node? hn)) hn
    exact Entries.ordered_mapValues.2 hrows.ordered

/-! ## The operations on a well-formed tree -/

theorem Represents.lookup_live (h : t.Represents x) {p : Path} {id : NodeId}
    (hl : t.lookup p = .ok id) : t.arena.Live id := by
  rcases h.lookup p with ⟨e, -, ht⟩ | ⟨y, -, ht, hy⟩
  · rw [ht] at hl
    cases hl
  · rw [ht] at hl
    cases hl
    exact hy.live_of_mem hy.id_mem

/-- A removal takes the entry out of its directory, then frees what hung below it. -/
theorem Represents.remove_frees (h : t.Represents x) {cwd : Path} {name : String} {t' : Tree}
    (hc : t.change ⟨cwd, name, .remove⟩ = .ok t') :
    ∃ dir id, t.directoryAt cwd = .ok dir ∧
      (t.arena.node dir).children.find? name = some id ∧
      Arena.Frees (t.arena.put dir (.directory ((t.arena.node dir).children.erase name))) [id]
        t'.arena := by
  cases hn : Path.validName name with
  | false =>
    rw [change_eq_error_of_name hn] at hc
    cases hc
  | true =>
    rcases h.directoryAt cwd with ⟨e, -, ht⟩ | ⟨dir, rows, frame, -, ht, hrows, hfr, -⟩
    · rw [change_eq_error_of_directoryAt hn ht] at hc
      cases hc
    · rw [change_eq hn ht] at hc
      simp only [Arena.edit, hrows.children_eq, Entries.find?_mapValues] at hc
      cases hf : rows.find? name with
      | none =>
        rw [hf] at hc
        cases hc
      | some y =>
        rw [hf] at hc
        cases hc
        obtain ⟨hfrees, -, -⟩ := hfr.removeChild hrows hf rfl
        refine ⟨dir, y.id, ht, ?_, ?_⟩
        · rw [hrows.children_eq, Entries.find?_mapValues, hf]
          rfl
        · rw [hrows.children_eq]
          exact hfrees

/-- The cells that the operations read are live, and their loops end by themselves. -/
structure Sound (t : Tree) : Prop where
  lookup_live : ∀ {p id}, t.lookup p = .ok id → t.arena.Live id
  toDocument_spells : t.arena.Spells t.root t.toDocument
  walk_walks : ∀ {p rows}, t.walk p = .ok rows → ∃ id, t.directoryAt p = .ok id ∧
    t.arena.Walks (pendingOf 0 (t.arena.node id).children) rows
  remove_frees : ∀ {cwd name t'}, t.change ⟨cwd, name, .remove⟩ = .ok t' → ∃ dir id,
    t.directoryAt cwd = .ok dir ∧ (t.arena.node dir).children.find? name = some id ∧
    Arena.Frees (t.arena.put dir (.directory ((t.arena.node dir).children.erase name))) [id]
      t'.arena

theorem Represents.sound (h : t.Represents x) : t.Sound where
  lookup_live := h.lookup_live
  toDocument_spells := by
    rw [h.toDocument_eq, ← h.root]
    exact h.holds.spells
  walk_walks {p rows} hw := (h.walk_eq p).2 rows hw
  remove_frees := h.remove_frees

/-- Nodes are counted right, be it in the arena, in the document or in a walk. -/
theorem Represents.nodeCount_eq (h : t.Represents x) :
    t.nodeCount = t.toDocument.size ∧
      ∃ rows, t.walk .root = .ok rows ∧ t.nodeCount = 1 + rows.length := by
  have hcount : t.nodeCount = t.toDocument.size := by
    rw [nodeCount, Arena.count_eq_card h.nodup h.live_iff, h.holds.card_cells, h.toDocument_eq]
  obtain ⟨rows, hx, -⟩ := h.eq_dir
  refine ⟨hcount, Document.rowsBelow 0 (rows.mapValues Placed.document), ?_, ?_⟩
  · rw [(h.walk_eq .root).1, hx]
    rfl
  · rw [hcount, h.toDocument_eq, hx, Placed.dir, Document.size,
      Document.length_rowsBelow fun e _ => e.2.length_rowsOf]

/-- Whatever happened to a tree, its cells are linked as a tree, none is lost, the operations find
their way in it, and `nodeCount` is the number of its nodes. -/
theorem Reachable.wellFormed_sound (h : t.Reachable) :
    t.WellFormed ∧ t.Sound ∧ t.nodeCount = t.toDocument.size ∧
      ∃ rows, t.walk .root = .ok rows ∧ t.nodeCount = 1 + rows.length := by
  obtain ⟨x, hx⟩ := h.represents
  exact ⟨hx.wellFormed, hx.sound, hx.nodeCount_eq⟩

/-- A directory removed with the file in it, and its cells used again. -/
theorem wellFormed_reused :
    ∃ t : Tree, t.Reachable ∧ t.list .root = .ok [⟨"c", true⟩, ⟨"d", false⟩] ∧
      t.arena.cells.size = 3 ∧ t.WellFormed ∧ t.Sound ∧ t.toDocument.size = 3 := by
  have ht : (((((new.step ⟨.root, "a", .makeDirectory⟩).step ⟨⟨["a"]⟩, "b", .createFile⟩).step
      ⟨.root, "a", .remove⟩).step ⟨.root, "c", .makeDirectory⟩).step
      ⟨.root, "d", .createFile⟩).Reachable := .step _ (.step _ (.step _ (.step _ (.step _ .new))))
  obtain ⟨hw, hs, hcount, -⟩ := Reachable.wellFormed_sound ht
  refine ⟨_, ht, ?_, ?_, hw, hs, hcount.symm.trans ?_⟩
  · decide +kernel
  · decide +kernel
  · decide +kernel

end Tree

end DevConsole.Files
