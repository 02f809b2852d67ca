import DevConsole.Proofs.Files.Footprint
import DevConsole.Proofs.Files.Operations

/-!
# Edits of the arena

Looking up a path in an arena that holds a document is following the path in the document
(`Arena.Holds.descend_eq`), and an edit at a directory found that way gives the directory the
entries that the document's gets, or fails as it does (`Arena.Framed.edit`).

The three ways in which an edit touches the arena are described one by one, each at the directory
it works on: a new entry (`Framed.addChild`), a file overwritten (`Framed.overwrite`) and an
entry removed, whose cells are all freed (`freeAll_spec`, `Framed.removeChild`).
-/

namespace DevConsole.Files

namespace Arena

variable {a a' : Arena} {x : Placed} {frame : Multiset NodeId} {id : NodeId}
  {rows : Entries Placed} {name : String}

/-! ## Looking up -/

theorem HoldsDir.node_eq (h : a.HoldsDir id rows) :
    a.node id = .directory (rows.mapValues Placed.id) := node_of_node? h.node

theorem HoldsDir.children_eq (h : a.HoldsDir id rows) :
    (a.node id).children = rows.mapValues Placed.id := by
  rw [h.node_eq]
  rfl

theorem HoldsDir.descend_cons (h : a.HoldsDir id rows) (whole name : String)
    (rest : List String) :
    Tree.descend a whole id (name :: rest) =
      match rows.find? name with
      | none => .error (.notFound whole)
      | some x => Tree.descend a whole x.id rest := by
  rw [Tree.descend, h.node_eq]
  simp only [Entries.find?_mapValues]
  cases rows.find? name <;> rfl

theorem follow_dir_cons (whole name : String) (rest : List String) :
    (Placed.dir id rows).document.follow whole (name :: rest) =
      match rows.find? name with
      | none => .error (.notFound whole)
      | some x => x.document.follow whole rest := by
  rw [Placed.dir, Document.follow, Entries.find?_mapValues]
  cases rows.find? name <;> rfl

/-- Looking up in the arena is following the path in the document. -/
theorem Holds.descend_eq (h : a.Holds x) (whole : String) (path : List String) :
    (∃ e, x.document.follow whole path = .error e ∧ Tree.descend a whole x.id path = .error e) ∨
    (∃ y, x.document.follow whole path = .ok y.document ∧
      Tree.descend a whole x.id path = .ok y.id ∧ a.Holds y) := by
  induction path generalizing x with
  | nil =>
    refine .inr ⟨x, ?_, rfl, h⟩
    cases x.document <;> rfl
  | cons name rest ih =>
    cases h with
    | file hn =>
      refine .inl ⟨.notADirectory whole, rfl, ?_⟩
      rw [Placed.file, Tree.descend, node_of_node? hn]
    | @dir id rows hn ho hv hh =>
      have hd : a.HoldsDir id rows := ⟨hn, ho, hv, hh⟩
      rw [follow_dir_cons, Placed.dir, hd.descend_cons]
      cases hf : rows.find? name with
      | none => exact .inl ⟨.notFound whole, rfl, rfl⟩
      | some y => exact ih (hd.find? hf)

/-- Along a path to the document found there, and back after a change of that document: the rest of
the arena is in its frame. -/
theorem Framed.descend (h : a.Framed frame x) {whole : String} {path : List String} {d : Document}
    (hp : x.document.follow whole path = .ok d) :
    ∃ y frame', y.document = d ∧ Tree.descend a whole x.id path = .ok y.id ∧ a.Framed frame' y ∧
      frame ≤ frame' ∧
      ∀ {a' y'}, a'.Framed frame' y' → y'.id = y.id → Agree frame' a a' →
        ∃ x', x'.id = x.id ∧ x'.document = x.document.replace path y'.document ∧
          a'.Framed frame x' := by
  induction path generalizing x frame with
  | nil =>
    refine ⟨x, frame, ?_, rfl, h, le_refl _, fun {a' y'} hy hid _ => ⟨y', hid, ?_, hy⟩⟩
    · cases hd : x.document <;> rw [hd] at hp <;> cases hp <;> rfl
    · cases x.document <;> rfl
  | cons name rest ih =>
    cases hx : x.document with
    | file content =>
      rw [hx] at hp
      cases hp
    | dir entries =>
      obtain ⟨id, rows, rfl, -, hd⟩ := h.holds.toDir hx
      rw [follow_dir_cons] at hp
      cases hf : rows.find? name with
      | none =>
        rw [hf] at hp
        cases hp
      | some child =>
        rw [hf] at hp
        obtain ⟨y, frame', hy, hdesc, hfr, hle, hback⟩ := ih (h.child hd hf) hp
        refine ⟨y, frame', hy, ?_, hfr, le_trans le_frameOfChild hle, ?_⟩
        · rw [Placed.dir, hd.descend_cons, hf]
          exact hdesc
        · intro a' y' hy' hid hag
          obtain ⟨child', hcid, hcdoc, hcfr⟩ := hback hy' hid hag
          obtain ⟨-, hfr'⟩ := Framed.putBack hd hf hcfr hcid (hag.mono hle)
          refine ⟨.dir id (rows.insert name child'), rfl, ?_, hfr'⟩
          have hfd : (rows.mapValues Placed.document).find? name = some child.document := by
            rw [Entries.find?_mapValues, hf]
            rfl
          rw [← hx, Placed.dir, Placed.dir, Document.replace_cons hfd, Entries.mapValues_insert,
            hcdoc]

/-! ## A new entry -/

theorem HoldsDir.addChild_present (h : a.HoldsDir id rows) (hf : rows.find? name = some x)
    (n : Node) : a.addChild id name n = .error (.alreadyExists name) := by
  simp [addChild, h.node_eq, Entries.contains, Entries.find?_mapValues, hf]

/-- A new entry: one cell more that holds a node, and the entry in its directory. -/
theorem HoldsDir.addChild_absent (h : a.HoldsDir id rows) (hf : rows.find? name = none)
    (n : Node) :
    ∃ a', a.addChild id name n = .ok a' ∧ ∀ i, a'.node? i =
      if i = id then
        some (.directory (Entries.insert name a.nextId (rows.mapValues Placed.id)))
      else if i = a.nextId then some n else a.node? i := by
  refine ⟨(a.alloc n).put id
    (.directory (Entries.insert name a.nextId (rows.mapValues Placed.id))), ?_, fun i => ?_⟩
  · simp [addChild, h.node_eq, Entries.contains, Entries.find?_mapValues, hf]
  · have hlive : a.Live id := live_of_node? h.node
    have hne : id ≠ a.nextId := fun he => a.not_live_nextId (he ▸ hlive)
    have hlive' : (a.alloc n).Live id := by
      rw [Live, node?_alloc, if_neg hne]
      exact hlive
    rw [node?_put hlive', node?_alloc]

/-- The cells of a directory's entries, and the frame, are other cells than its own. -/
theorem Framed.ne_of_mem (h : a.Framed frame (.dir id rows)) {i : NodeId}
    (hi : i ∈ frame + cellsOf rows) : i ≠ id := by
  rintro rfl
  have hn := h.nodup
  rw [Placed.dir, Multiset.add_cons, Multiset.nodup_cons] at hn
  exact hn.1 hi

/-- A new entry takes up a cell that was free, and nothing else changes. -/
theorem Framed.addChild (h : a.Framed frame (.dir id rows)) (hd : a.HoldsDir id rows)
    (hv : Path.validName name = true) (hf : rows.find? name = none) {n : Node} (new : Placed)
    (hid : new.id = a.nextId) (hcells : new.cells = {a.nextId})
    (hnew : ∀ a' : Arena, a'.node? a.nextId = some n → a'.Holds new) :
    ∃ a', a.addChild id name n = .ok a' ∧ a'.node? a.nextId = some n ∧
      a'.HoldsDir id (rows.insert name new) ∧ a'.Framed frame (.dir id (rows.insert name new)) ∧
      Agree frame a a' := by
  have hlive : a.Live id := live_of_node? hd.node
  have hne : a.nextId ≠ id := fun he => a.not_live_nextId (he ▸ hlive)
  obtain ⟨a', hins, hnode⟩ := hd.addChild_absent hf n
  have hag : Agree (frame + cellsOf rows) a a' := by
    intro i hi
    have hil : a.Live i := (h.live i).2 (by
      rw [Placed.dir, Multiset.add_cons]
      exact Multiset.mem_cons_of_mem hi)
    have hin : i ≠ a.nextId := fun he => a.not_live_nextId (he ▸ hil)
    rw [hnode, if_neg (h.ne_of_mem hi), if_neg hin]
  have herase : rows.erase name = rows := Entries.erase_of_find?_eq_none hf
  have hn : a'.node? a.nextId = some n := by rw [hnode, if_neg hne, if_pos rfl]
  have hdir : a'.HoldsDir id (rows.insert name new) := by
    refine hd.insert hv ?_ (hnew a' hn) ?_
    · rw [hnode, if_pos rfl, Entries.mapValues_insert, hid]
    · rw [herase]
      exact hag.mono (Multiset.le_add_left _ _)
  refine ⟨a', hins, hn, hdir, ?_, hag.mono (Multiset.le_add_right _ _)⟩
  have hcells' : frameOfChild frame id rows name + new.cells =
      a.nextId ::ₘ (frame + (Placed.dir id rows).cells) := by
    rw [frameOfChild, herase, hcells, Placed.dir, add_comm, Multiset.singleton_add]
  refine Framed.dir_insert hd.ordered ⟨hnew a' hn, ?_, fun i => ?_⟩ hdir
  · rw [hcells', Multiset.nodup_cons]
    exact ⟨fun hm => a.not_live_nextId ((h.live _).2 hm), h.nodup⟩
  · rw [hcells', Multiset.mem_cons, ← h.live, Live, hnode]
    by_cases hi : i = id
    · subst hi
      simp [hlive]
    · by_cases hi' : i = a.nextId
      · simp [hi', hne]
      · simp [hi, hi', Live]

/-! ## A file overwritten -/

theorem Framed.overwrite {old : String} (h : a.Framed frame (.file id old)) (content : String) :
    (a.put id (.file content)).Framed frame (.file id content) ∧
      Agree frame a (a.put id (.file content)) := by
  have hlive : a.Live id := h.holds.live_of_mem (Multiset.mem_singleton_self id)
  refine ⟨⟨.file ?_, h.nodup, fun i => ?_⟩, fun i hi => ?_⟩
  · rw [node?_put hlive, if_pos rfl]
  · rw [show (Placed.file id content).cells = (Placed.file id old).cells from rfl, ← h.live, Live,
      Live, node?_put hlive]
    by_cases hi : i = id
    · subst hi
      simp [show (a.node? i).isSome = true from hlive]
    · simp [hi]
  · have hn := h.nodup
    rw [Placed.file, Multiset.nodup_add] at hn
    have hne : i ≠ id := fun he =>
      Multiset.disjoint_left.1 hn.2.2 hi (Multiset.mem_singleton.2 he)
    rw [node?_put hlive, if_neg hne]

/-! ## An entry removed -/

/-- A run of `freeAll` that frees live cells only. -/
inductive Frees : Arena → List NodeId → Arena → Prop
  | done {a : Arena} : Frees a [] a
  | next {a a' : Arena} {id : NodeId} {rest : List NodeId} {n : Node} :
      a.node? id = some n →
      Frees (a.free id) ((n.children.map Prod.snd).reverse ++ rest) a' →
      Frees a (id :: rest) a'

theorem cellsOf_append (rows rest : Entries Placed) :
    cellsOf (rows ++ rest) = cellsOf rows + cellsOf rest := by
  induction rows with
  | nil => simp [cellsOf]
  | cons r rows ih => rw [List.cons_append, cellsOf, cellsOf, ih, add_assoc]

theorem cellsOf_reverse (rows : Entries Placed) : cellsOf rows.reverse = cellsOf rows := by
  induction rows with
  | nil => rfl
  | cons r rows ih =>
    rw [List.reverse_cons, cellsOf_append, ih]
    simp [cellsOf, add_comm]

/-- `freeAll` empties the cells of the documents on the stack, each once and no other. -/
theorem freeAll_spec {fuel : Nat} {stack : Entries Placed} (hh : ∀ r ∈ stack, a.Holds r.2)
    (hn : (cellsOf stack).Nodup) (hfuel : (cellsOf stack).card ≤ fuel) :
    Frees a (stack.map fun r => r.2.id) (Tree.freeAll fuel (stack.map fun r => r.2.id) a) ∧
      ∀ i, (Tree.freeAll fuel (stack.map fun r => r.2.id) a).node? i =
        if i ∈ cellsOf stack then none else a.node? i := by
  induction fuel generalizing stack a with
  | zero =>
    cases stack with
    | nil => exact ⟨.done, fun i => by simp [Tree.freeAll, cellsOf]⟩
    | cons r stack =>
      have hid := (hh r List.mem_cons_self).id_mem
      rw [cellsOf, Multiset.card_add] at hfuel
      have : 0 < r.2.cells.card := Multiset.card_pos_iff_exists_mem.2 ⟨_, hid⟩
      omega
  | succ fuel ih =>
    cases stack with
    | nil => exact ⟨.done, fun i => by simp [Tree.freeAll, cellsOf]⟩
    | cons r stack =>
      -- below the cell that is freed the documents stay what they were
      obtain ⟨n, below, hnode, hbelowIds, hcells, hbelow⟩ := (hh r List.mem_cons_self).node
      have hchildren : (n.children.map Prod.snd).reverse = below.reverse.map fun r => r.2.id := by
        simp [hbelowIds, Entries.mapValues]
      have hall : cellsOf (r :: stack) = r.2.id ::ₘ cellsOf (below.reverse ++ stack) := by
        rw [cellsOf, hcells, cellsOf_append, cellsOf_reverse, Multiset.cons_add]
      rw [hall] at hn hfuel ⊢
      obtain ⟨hfresh, hn⟩ := Multiset.nodup_cons.1 hn
      have hag : Agree (cellsOf (below.reverse ++ stack)) a (a.free r.2.id) := fun i hi => by
        have hne : i ≠ r.2.id := fun he => hfresh (he ▸ hi)
        rw [node?_free, if_neg hne]
      have hh' : ∀ s ∈ below.reverse ++ stack, (a.free r.2.id).Holds s.2 := by
        intro s hs
        refine Holds.frame ?_ fun i hi => hag i (mem_cellsOf.2 ⟨s, hs, hi⟩)
        rcases List.mem_append.1 hs with hs | hs
        · exact hbelow s (List.mem_reverse.1 hs)
        · exact hh s (List.mem_cons_of_mem _ hs)
      obtain ⟨hfrees, hnodes⟩ := ih hh' hn (by rw [Multiset.card_cons] at hfuel; omega)
      have hstep : Tree.freeAll (fuel + 1) ((r :: stack).map fun r => r.2.id) a =
          Tree.freeAll fuel ((below.reverse ++ stack).map fun r => r.2.id) (a.free r.2.id) := by
        rw [List.map_cons, Tree.freeAll, node_of_node? hnode, hchildren, List.map_append]
      rw [hstep]
      refine ⟨.next hnode (by rw [hchildren, ← List.map_append]; exact hfrees), fun i => ?_⟩
      rw [hnodes, node?_free]
      by_cases hi : i = r.2.id
      · simp [hi]
      · simp [hi]

/-- A removal frees the cells of the entry and takes it out of its directory. -/
theorem Framed.freeAll_node? (h : a.Framed frame (.dir id rows)) (hd : a.HoldsDir id rows)
    (hf : rows.find? name = some x) {a₁ : Arena}
    (ha : a₁ = a.put id (.directory ((rows.mapValues Placed.id).erase name))) :
    Frees a₁ [x.id] (Tree.freeAll a₁.cells.size [x.id] a₁) ∧
      ∀ i, (Tree.freeAll a₁.cells.size [x.id] a₁).node? i =
        if i ∈ x.cells then none
        else if i = id then some (.directory ((rows.mapValues Placed.id).erase name))
        else a.node? i := by
  have hx := h.child hd hf
  obtain ⟨-, hnodup, hdisj⟩ := Multiset.nodup_add.1 hx.nodup
  have hnode : ∀ i, a₁.node? i =
      if i = id then some (.directory ((rows.mapValues Placed.id).erase name)) else a.node? i :=
    fun i => by rw [ha, node?_put (live_of_node? hd.node)]
  have hheld : a₁.Holds x := hx.holds.frame fun i hi => by
    have hne : i ≠ id := fun he =>
      Multiset.disjoint_left.1 hdisj (by simp [frameOfChild, he]) hi
    rw [hnode, if_neg hne]
  have hone : cellsOf [(name, x)] = x.cells := by simp [cellsOf]
  have hsize : (cellsOf [(name, x)]).card ≤ a₁.cells.size := by
    rw [hone]
    exact card_le_size hnodup fun i hi => hheld.live_of_mem hi
  obtain ⟨hfrees, hfreed⟩ := freeAll_spec (by simpa using hheld) (by rw [hone]; exact hnodup) hsize
  rw [hone] at hfreed
  refine ⟨hfrees, fun i => ?_⟩
  rw [← hnode]
  exact hfreed i

/-- A removed entry leaves its directory, all its cells are freed, and nothing else changes. -/
theorem Framed.removeChild (h : a.Framed frame (.dir id rows)) (hd : a.HoldsDir id rows)
    (hf : rows.find? name = some x) {a₁ : Arena}
    (ha : a₁ = a.put id (.directory ((rows.mapValues Placed.id).erase name))) :
    Frees a₁ [x.id] (Tree.freeAll a₁.cells.size [x.id] a₁) ∧
      (Tree.freeAll a₁.cells.size [x.id] a₁).Framed frame (.dir id (rows.erase name)) ∧
      Agree frame a (Tree.freeAll a₁.cells.size [x.id] a₁) := by
  have hx := h.child hd hf
  obtain ⟨hrest, -, hdisj⟩ := Multiset.nodup_add.1 hx.nodup
  obtain ⟨hfrees, hfreed⟩ := h.freeAll_node? hd hf ha
  generalize Tree.freeAll a₁.cells.size [x.id] a₁ = a₂ at hfrees hfreed
  have hkept : ∀ {i}, i ∈ frameOfChild frame id rows name → i ∉ x.cells := fun hi =>
    Multiset.disjoint_left.1 hdisj hi
  have hid : id ∈ frameOfChild frame id rows name := by simp [frameOfChild]
  have hag : ∀ i ∈ frameOfChild frame id rows name, i ≠ id → a₂.node? i = a.node? i :=
    fun i hi hne => by rw [hfreed, if_neg (hkept hi), if_neg hne]
  have hdir : a₂.HoldsDir id (rows.erase name) := by
    refine ⟨?_, hd.ordered.erase name, fun r hr => hd.named r (Entries.mem_of_mem_erase hr), ?_⟩
    · rw [hfreed, if_neg (hkept hid), if_pos rfl, Entries.mapValues_erase]
    · intro r hr
      refine (hd.holds r (Entries.mem_of_mem_erase hr)).frame fun i hi => ?_
      have hir : i ∈ cellsOf (rows.erase name) := mem_cellsOf.2 ⟨r, hr, hi⟩
      refine hag i (by simp [frameOfChild, hir]) (h.ne_of_mem ?_)
      rw [cellsOf_of_find? hf]
      simp [hir]
  refine ⟨hfrees, ⟨hdir.toHolds, hrest, fun i => ?_⟩, fun i hi => ?_⟩
  · have hlive := hx.live i
    rw [Multiset.mem_add] at hlive
    change a₂.Live i ↔ i ∈ frameOfChild frame id rows name
    by_cases hi : i ∈ x.cells
    · have hno : i ∉ frameOfChild frame id rows name := fun hm => hkept hm hi
      simp [Live, hfreed, hi, hno]
    · by_cases hie : i = id
      · subst hie
        simp [Live, hfreed, hi, hid]
      · simpa [Live, hfreed, hi, hie] using hlive
  · exact hag i (Multiset.mem_of_le le_frameOfChild hi) (h.ne_of_mem (by simp [hi]))

/-! ## Changes -/

/-- A new entry that has nothing below it. -/
theorem Framed.insertLeaf (h : a.Framed frame (.dir id rows)) (hd : a.HoldsDir id rows)
    (hv : Path.validName name = true) (hf : rows.find? name = none) {n : Node} {d : Document}
    (hleaf : (n = .directory [] ∧ d = .emptyDir) ∨
      ∃ content, n = .file content ∧ d = .file content) :
    ∃ a' rows', a.addChild id name n = .ok a' ∧
      (rows.mapValues Placed.document).insert name d = Entries.mapValues Placed.document rows' ∧
      a'.Framed frame (.dir id rows') ∧ Agree frame a a' := by
  have hnew : ∀ a' : Arena, a'.node? a.nextId = some n →
      a'.Holds ⟨a.nextId, d, {a.nextId}⟩ := by
    intro a' hn
    rcases hleaf with ⟨rfl, rfl⟩ | ⟨content, rfl, rfl⟩
    · show a'.Holds (Placed.dir a.nextId [])
      exact .dir hn Entries.ordered_nil (by simp) (by simp)
    · exact .file hn
  obtain ⟨a', hins, -, -, hfr, hag⟩ := h.addChild hd hv hf _ rfl rfl hnew
  exact ⟨a', _, hins, by rw [Entries.mapValues_insert], hfr, hag⟩

/-- An edit under a new name adds an entry, unless it is a removal. -/
theorem Framed.edit_absent (h : a.Framed frame (.dir id rows)) (hd : a.HoldsDir id rows)
    (hv : Path.validName name = true) (hf : rows.find? name = none) (e : Edit) :
    (∃ err, e.apply name (rows.mapValues Placed.document) = .error err ∧
      a.edit id name e = .error err) ∨
    (∃ a' rows', e.apply name (rows.mapValues Placed.document) =
        .ok (Entries.mapValues Placed.document rows') ∧
      a.edit id name e = .ok a' ∧ a'.Framed frame (.dir id rows') ∧ Agree frame a a') := by
  have hdoc := Entries.find?_mapValues Placed.document name rows
  have hid := Entries.find?_mapValues Placed.id name rows
  rw [hf] at hdoc hid
  cases e with
  | makeDirectory =>
    obtain ⟨a', rows', hins, hrows, hfr, hag⟩ := h.insertLeaf hd hv hf (.inl ⟨rfl, rfl⟩)
    refine .inr ⟨a', rows', ?_, ?_, hfr, hag⟩
    · simp only [Edit.apply, hdoc, Option.map_none, hrows]
    · simp only [Arena.edit, hins]
  | createFile =>
    obtain ⟨a', rows', hins, hrows, hfr, hag⟩ := h.insertLeaf hd hv hf (.inr ⟨"", rfl, rfl⟩)
    refine .inr ⟨a', rows', ?_, ?_, hfr, hag⟩
    · simp only [Edit.apply, hdoc, Option.map_none, hrows]
    · simp only [Arena.edit, hins]
  | writeFile content =>
    obtain ⟨a', rows', hins, hrows, hfr, hag⟩ := h.insertLeaf hd hv hf (.inr ⟨content, rfl, rfl⟩)
    refine .inr ⟨a', rows', ?_, ?_, hfr, hag⟩
    · simp only [Edit.apply, hdoc, Option.map_none, hrows]
    · simp only [Arena.edit, hd.children_eq, hid, Option.map_none, hins]
  | remove =>
    refine .inl ⟨.notFound name, ?_, ?_⟩
    · simp only [Edit.apply, hdoc, Option.map_none]
    · simp only [Arena.edit, hd.children_eq, hid, Option.map_none]

/-- An edit under a name in use is refused, or it writes over a file or removes the entry. -/
theorem Framed.edit_present (h : a.Framed frame (.dir id rows)) (hd : a.HoldsDir id rows)
    (hf : rows.find? name = some x) (e : Edit) :
    (∃ err, e.apply name (rows.mapValues Placed.document) = .error err ∧
      a.edit id name e = .error err) ∨
    (∃ a' rows', e.apply name (rows.mapValues Placed.document) =
        .ok (Entries.mapValues Placed.document rows') ∧
      a.edit id name e = .ok a' ∧ a'.Framed frame (.dir id rows') ∧ Agree frame a a') := by
  have hdoc := Entries.find?_mapValues Placed.document name rows
  have hid := Entries.find?_mapValues Placed.id name rows
  rw [hf] at hdoc hid
  cases e with
  | makeDirectory =>
    refine .inl ⟨.alreadyExists name, ?_, ?_⟩
    · simp only [Edit.apply, hdoc, Option.map_some]
    · simp only [Arena.edit, hd.addChild_present hf]
  | createFile =>
    refine .inl ⟨.alreadyExists name, ?_, ?_⟩
    · simp only [Edit.apply, hdoc, Option.map_some]
    · simp only [Arena.edit, hd.addChild_present hf]
  | writeFile content =>
    cases hx : hd.find? hf with
    | dir hn =>
      refine .inl ⟨.notAFile name, ?_, ?_⟩
      · simp only [Edit.apply, hdoc, Option.map_some, Placed.dir]
      · simp only [Arena.edit, hd.children_eq, hid, Option.map_some, Placed.dir,
          node_of_node? hn, Node.isDirectory, if_true]
    | @file cell old hn =>
      have hchild := h.child hd hf
      obtain ⟨hover, hag⟩ := hchild.overwrite content
      obtain ⟨-, hfr⟩ := Framed.putBack hd hf hover rfl hag
      refine .inr ⟨_, _, ?_, ?_, hfr, hag.mono le_frameOfChild⟩
      · simp only [Edit.apply, hdoc, Option.map_some, Placed.file, Entries.mapValues_insert]
      · simp only [Arena.edit, hd.children_eq, hid, Option.map_some, Placed.file,
          node_of_node? hn, Node.isDirectory]
        rfl
  | remove =>
    obtain ⟨-, hfr, hag⟩ := h.removeChild hd hf rfl
    refine .inr ⟨_, _, ?_, ?_, hfr, hag⟩
    · simp only [Edit.apply, hdoc, Option.map_some, Entries.mapValues_erase]
    · simp only [Arena.edit, hd.children_eq, hid, Option.map_some]

/-- An edit is refused, or changes the directory, as it does in the document. -/
theorem Framed.edit (h : a.Framed frame (.dir id rows)) (hd : a.HoldsDir id rows)
    (hv : Path.validName name = true) (e : Edit) :
    (∃ err, e.apply name (rows.mapValues Placed.document) = .error err ∧
      a.edit id name e = .error err) ∨
    (∃ a' rows', e.apply name (rows.mapValues Placed.document) =
        .ok (Entries.mapValues Placed.document rows') ∧
      a.edit id name e = .ok a' ∧ a'.Framed frame (.dir id rows') ∧ Agree frame a a') := by
  cases hf : rows.find? name with
  | none => exact h.edit_absent hd hv hf e
  | some x => exact h.edit_present hd hf e

end Arena

end DevConsole.Files
