import DevConsole.Proofs.Files.Graft

/-!
# The arena tree refines the nested document

`Tree.Represents t x`: the arena of `t` holds the document `x.document` at the root of `t`, and
nothing else. Every reachable tree represents a document (`Reachable.represents`), which is the one
that `toDocument` writes out (`Represents.toDocument_eq`).

`Tree.Refines t d`: `t` answers every query, refuses every change and carries it out as the
operations on the nested document `d` do. Every reachable tree refines the document it writes out.
-/

namespace DevConsole.Files

namespace Arena

variable {a : Arena} {x : Placed}

/-- Written out deep enough, what is held is given back. -/
theorem Holds.documentOf_eq (h : a.Holds x) {fuel : Nat} (hf : x.document.height < fuel) :
    Tree.documentOf a fuel x.id = x.document := by
  induction h generalizing fuel with
  | file hn =>
    obtain ⟨fuel, rfl⟩ : ∃ n, fuel = n + 1 := ⟨fuel - 1, by omega⟩
    rw [Placed.file, Tree.documentOf, node_of_node? hn]
  | @dir id rows hn _ _ _ ih =>
    obtain ⟨fuel, rfl⟩ : ∃ n, fuel = n + 1 := ⟨fuel - 1, by omega⟩
    rw [Placed.dir, Tree.documentOf, node_of_node? hn]
    simp only [Entries.mapValues, List.map_map]
    congr 1
    refine List.map_congr_left fun r hr => ?_
    have hlt := Document.height_lt_of_mem (Entries.mem_mapValues Placed.document hr)
    simp only [Function.comp_apply, ih r hr (Nat.lt_of_lt_of_le hlt (Nat.le_of_lt_succ hf))]

end Arena

namespace Tree

/-- The arena of a tree holds a directory at its root, and nothing else. -/
structure Represents (t : Tree) (x : Placed) : Prop where
  framed : t.arena.Framed 0 x
  root : x.id = t.root
  isDir : x.document.isDir = true

variable {t : Tree} {x : Placed}

theorem Represents.holds (h : t.Represents x) : t.arena.Holds x := h.framed.holds

theorem Represents.nodup (h : t.Represents x) : x.cells.Nodup := by
  simpa using h.framed.nodup

theorem Represents.live_iff (h : t.Represents x) (i : NodeId) : t.arena.Live i ↔ i ∈ x.cells := by
  simpa using h.framed.live i

/-- The root holds a directory. -/
theorem Represents.eq_dir (h : t.Represents x) :
    ∃ rows, x = .dir t.root rows ∧ t.arena.HoldsDir t.root rows := by
  have hdir := h.isDir
  cases hd : x.document with
  | file content =>
    rw [hd] at hdir
    cases hdir
  | dir entries =>
    obtain ⟨id, rows, rfl, -, hrows⟩ := h.holds.toDir hd
    obtain rfl : id = t.root := h.root
    exact ⟨rows, rfl, hrows⟩

theorem Represents.toDocument_eq (h : t.Represents x) : t.toDocument = x.document := by
  rw [toDocument, ← h.root]
  apply h.holds.documentOf_eq
  have hcard := Arena.card_le_size h.nodup fun i hi => h.holds.live_of_mem hi
  have hsize := x.document.height_lt_size
  rw [h.holds.card_cells] at hcard
  omega

/-! ## Queries -/

theorem Represents.lookup (h : t.Represents x) (p : Path) :
    (∃ e, x.document.lookup p = .error e ∧ t.lookup p = .error e) ∨
    (∃ y, x.document.lookup p = .ok y.document ∧ t.lookup p = .ok y.id ∧ t.arena.Holds y) := by
  have hd := h.holds.descend_eq p.render p.segments
  rw [h.root] at hd
  exact hd

theorem isDirectory_node {a : Arena} {y : Placed} (h : a.Holds y) :
    (a.node y.id).isDirectory = y.document.isDir := by
  cases h with
  | file hn => rw [Placed.file, Arena.node_of_node? hn]; rfl
  | dir hn => rw [Placed.dir, Arena.node_of_node? hn]; rfl

theorem Represents.contains_eq (h : t.Represents x) (p : Path) :
    t.contains p = x.document.contains p := by
  rcases h.lookup p with ⟨e, hd, ht⟩ | ⟨y, hd, ht, -⟩ <;>
    rw [contains, Document.contains, hd, ht] <;> rfl

theorem Represents.isDirectory_eq (h : t.Represents x) (p : Path) :
    t.isDirectory p = x.document.isDirectory p := by
  rcases h.lookup p with ⟨e, hd, ht⟩ | ⟨y, hd, ht, hy⟩
  · simp [isDirectory, Document.isDirectory, hd, ht]
  · simp only [isDirectory, Document.isDirectory, hd, ht, isDirectory_node hy]
    cases y.document <;> rfl

theorem Represents.read_eq (h : t.Represents x) (p : Path) : t.read p = x.document.read p := by
  rcases h.lookup p with ⟨e, hd, ht⟩ | ⟨y, hd, ht, hy⟩
  · simp [read, Document.read, hd, ht]
  · simp only [read, Document.read, hd, ht]
    cases hy with
    | file hn => rw [Placed.file, Arena.node_of_node? hn]
    | dir hn => rw [Placed.dir, Arena.node_of_node? hn]

/-- The directory at a path, with the way back to the root. -/
theorem Represents.directoryAt (h : t.Represents x) (p : Path) :
    (∃ e, x.document.directoryAt p = .error e ∧ t.directoryAt p = .error e) ∨
    (∃ id rows frame, x.document.directoryAt p = .ok (Entries.mapValues Placed.document rows) ∧
      t.directoryAt p = .ok id ∧ t.arena.HoldsDir id rows ∧
      t.arena.Framed frame (.dir id rows) ∧
      ∀ {a' rows'}, a'.Framed frame (.dir id rows') → Arena.Agree frame t.arena a' →
        ∃ x', x'.document = x.document.replace p.segments (.dir (rows'.mapValues Placed.document)) ∧
          Represents ⟨a', t.root⟩ x') := by
  rcases h.lookup p with ⟨e, hd, ht⟩ | ⟨y, hd, ht, hy⟩
  · exact .inl ⟨e, by rw [Document.directoryAt, hd], by rw [Tree.directoryAt, ht]⟩
  · cases hdoc : y.document with
    | file content =>
      have hdir := isDirectory_node hy
      rw [hdoc] at hd hdir
      refine .inl ⟨.notADirectory p.render, by rw [Document.directoryAt, hd], ?_⟩
      rw [Tree.directoryAt, ht]
      simp [hdir, Document.isDir]
    | dir entries =>
      obtain ⟨z, frame, hz, hdesc, hfr, -, hback⟩ := h.framed.descend hd
      obtain ⟨id, rows, rfl, -, hrows⟩ := hfr.holds.toDir (hz.trans hdoc)
      have hid : y.id = id := by
        have hl : t.lookup p = .ok id := by
          rw [Tree.lookup, ← h.root]
          exact hdesc
        rw [ht] at hl
        exact Except.ok.inj hl
      refine .inr ⟨id, rows, frame, ?_, ?_, hrows, hfr, fun {a' rows'} hfr' hag => ?_⟩
      · rw [Document.directoryAt, hd, ← hz]
        rfl
      · rw [Tree.directoryAt, ht]
        simp [hid, hrows.node_eq, Node.isDirectory]
      · obtain ⟨x', hid', hdoc', hx'⟩ := hback hfr' rfl hag
        refine ⟨x', hdoc', hx', hid'.trans h.root, ?_⟩
        rw [hdoc']
        have hisDir := h.isDir
        cases hx : x.document with
        | file content => rw [hx] at hisDir; cases hisDir
        | dir entries =>
          cases p.segments with
          | nil => rfl
          | cons name rest =>
            simp only [Document.replace]
            split <;> rfl

theorem Represents.list_eq (h : t.Represents x) (p : Path) : t.list p = x.document.list p := by
  rcases h.directoryAt p with ⟨e, hd, ht⟩ | ⟨id, rows, frame, hd, ht, hrows, -, -⟩
  · rw [list, Document.list, hd, ht]
    rfl
  · rw [list, Document.list, hd, ht]
    simp only [Except.map, hrows.node_eq, Node.children, Entries.mapValues, List.map_map]
    congr 1
    refine List.map_congr_left fun r hr => ?_
    simp only [Function.comp_apply, isDirectory_node (hrows.holds r hr)]

/-! ## Changes -/

/-- A change is refused with the same error, or leads from tree and document to another such
pair. -/
theorem Represents.change (h : t.Represents x) (c : Change) :
    (∃ e, x.document.change c = .error e ∧ t.change c = .error e) ∨
    (∃ t' x', x.document.change c = .ok x'.document ∧ t.change c = .ok t' ∧ t'.Represents x') := by
  cases hn : Path.validName c.name with
  | false =>
    exact .inl ⟨_, Document.change_eq_error_of_name hn, change_eq_error_of_name hn⟩
  | true =>
    rcases h.directoryAt c.cwd with ⟨e, hd, ht⟩ | ⟨id, rows, frame, hd, ht, hrows, hfr, hback⟩
    · exact .inl ⟨e, Document.change_eq_error_of_directoryAt hn hd,
        change_eq_error_of_directoryAt hn ht⟩
    · rw [Document.change_eq hn hd, change_eq hn ht]
      rcases hfr.edit hrows hn c.edit with ⟨e, hdoc, ha⟩ | ⟨a', rows', hdoc, ha, hfr', hag⟩
      · exact .inl ⟨e, by rw [hdoc]; rfl, by rw [ha]; rfl⟩
      · obtain ⟨x', hx', hrep⟩ := hback hfr' hag
        exact .inr ⟨_, x', by rw [hdoc, hx']; rfl, by rw [ha]; rfl, hrep⟩

/-! ## Reachable trees -/

theorem node?_new (i : NodeId) :
    new.arena.node? i = if i = 0 then some (.directory []) else none := by
  rw [new, Arena.node?_alloc]
  simp [Arena.empty, Arena.nextId, Arena.node?]

theorem holdsDir_new : new.arena.HoldsDir 0 [] :=
  ⟨node?_new 0, Entries.ordered_nil, by simp, by simp⟩

theorem represents_new : new.Represents (.dir 0 []) := by
  refine ⟨⟨holdsDir_new.toHolds, ?_, fun i => ?_⟩, rfl, rfl⟩
  · simp [Placed.dir, cellsOf]
  · by_cases hi : i = 0 <;> simp [Arena.Live, node?_new, Placed.dir, cellsOf, hi]

/-- A tree built from a directory holds it as it was planted. -/
theorem represents_ofDocument (children : Entries Document) :
    ∃ x, (ofDocument (.dir children)).Represents x ∧
      x.document = (Document.dir children).planted := by
  obtain ⟨rows, -, hfr, -, hdocs⟩ := Arena.grafts children represents_new.framed holdsDir_new
  refine ⟨.dir 0 rows, ⟨hfr, rfl, rfl⟩, ?_⟩
  rw [Placed.dir, hdocs]
  rfl

theorem Reachable.represents (h : t.Reachable) : ∃ x, t.Represents x := by
  have hdoc : ∀ d, ∃ x, (Tree.ofDocument d).Represents x := by
    intro d
    cases d with
    | file content => exact ⟨_, represents_new⟩
    | dir children =>
      obtain ⟨x, hx, -⟩ := represents_ofDocument children
      exact ⟨x, hx⟩
  induction h with
  | new => exact ⟨_, represents_new⟩
  | ofDefaultLayout => exact hdoc _
  | ofDocument d => exact hdoc d
  | load s =>
    unfold Volume.load
    split
    · exact hdoc _
    · exact hdoc Files.defaultLayout
  | step c _ ih =>
    obtain ⟨x, hx⟩ := ih
    rcases hx.change c with ⟨e, -, ht⟩ | ⟨t', x', -, ht, hx'⟩
    · exact ⟨x, by rw [Tree.step_eq, ht]; exact hx⟩
    · exact ⟨x', by rw [Tree.step_eq, ht]; exact hx'⟩

/-- A tree built from an ordered directory is that directory without the entries whose names are not
valid. -/
theorem toDocument_ofDocument {children : Entries Document}
    (h : (Document.dir children).Ordered) :
    (ofDocument (.dir children)).toDocument = (Document.dir children).prune := by
  obtain ⟨x, hx, hd⟩ := represents_ofDocument children
  rw [hx.toDocument_eq, hd, Document.planted_eq_prune h]

/-- What is written out is a directory in order, and all its names are valid. -/
theorem Reachable.toDocument_spec (h : t.Reachable) :
    ∃ children, t.toDocument = .dir children ∧ t.toDocument.Ordered ∧ t.toDocument.Named := by
  obtain ⟨x, hx⟩ := h.represents
  obtain ⟨rows, hdir, -⟩ := hx.eq_dir
  rw [hx.toDocument_eq]
  exact ⟨_, by rw [hdir]; rfl, hx.holds.ordered, hx.holds.named⟩

/-! ## The refinement -/

/-- Changes and queries of `t` are those of the nested document `d`. -/
structure Refines (t : Tree) (d : Document) : Prop where
  change : ∀ c, (t.change c).map toDocument = d.change c
  list : ∀ p, t.list p = d.list p
  read : ∀ p, t.read p = d.read p
  contains : ∀ p, t.contains p = d.contains p
  isDirectory : ∀ p, t.isDirectory p = d.isDirectory p

theorem Represents.refines (h : t.Represents x) : t.Refines x.document where
  change c := by
    rcases h.change c with ⟨e, hd, ht⟩ | ⟨t', x', hd, ht, hx'⟩
    · rw [hd, ht]
      rfl
    · rw [hd, ht, Except.map, hx'.toDocument_eq]
  list := h.list_eq
  read := h.read_eq
  contains := h.contains_eq
  isDirectory := h.isDirectory_eq

/-- A reachable tree is as good as the nested document it writes out. A change is refused for what
stands on the path to its directory and at its target, in the order that `Refuses` lists, and then
leaves the tree alone; an accepted change shows at its target only. -/
theorem Reachable.refines_toDocument (h : t.Reachable) :
    t.Refines t.toDocument ∧
    (∀ c e, t.change c = .error e ↔ t.toDocument.Refuses c e) ∧
    (∀ c t', t.change c = .ok t' →
      ∀ path, t'.toDocument.entryAt? path = c.entryAfter t.toDocument path) ∧
    ∀ c, t.step c = (t.change c).toOption.getD t := by
  obtain ⟨x, hx⟩ := h.represents
  have hr := hx.refines
  rw [hx.toDocument_eq]
  refine ⟨hr, fun c e => ?_, fun c t' ht path => ?_, fun c => ?_⟩
  · rw [← Document.change_eq_error_iff, ← hr.change c]
    cases t.change c <;> simp [Except.map]
  · refine Document.entryAt?_change hx.holds.ordered ?_ path
    rw [← hr.change c, ht]
    rfl
  · rw [step_eq]
    cases t.change c <;> rfl

/-- A file written over in a directory that was made anew, and a change refused below it. -/
theorem refines_toDocument_overwritten :
    ∃ t : Tree, t.Reachable ∧ t.Refines t.toDocument ∧ t.toDocument.read ⟨["a", "b"]⟩ = .ok "y" ∧
      t.change ⟨⟨["a", "b"]⟩, "c", .remove⟩ = .error (.notADirectory "/a/b") ∧
      ∀ t', t.change ⟨⟨["a"]⟩, "b", .remove⟩ = .ok t' →
        t'.toDocument.entryAt? ["a", "b"] = none := by
  have ht : (((new.step ⟨.root, "a", .makeDirectory⟩).step ⟨⟨["a"]⟩, "b", .writeFile "x"⟩).step
      ⟨⟨["a"]⟩, "b", .writeFile "y"⟩).Reachable := .step _ (.step _ (.step _ .new))
  obtain ⟨hr, he, hc, -⟩ := Reachable.refines_toDocument ht
  refine ⟨_, ht, hr, ?_, (he _ _).2 (.path (by decide) ?_), fun t' h => (hc _ t' h _).trans ?_⟩
  · rw [← hr.read]
    decide +kernel
  · refine .blocked (List.append_nil _).symm (?_ : _ = some (Document.Entry.file "y"))
    decide +kernel
  · decide +kernel

end Tree

end DevConsole.Files
