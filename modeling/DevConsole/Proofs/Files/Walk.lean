import DevConsole.Proofs.Files.Refinement

/-!
# Walking a tree

`Document.rowsBelow` lists what lies below a directory by recursion: each entry, then what lies
below it, in the order of the names. `Tree.walk` works off a stack instead and gives the same rows
(`Represents.walk_eq`). It does so in a run that reads live cells only and ends by itself
(`Arena.Walks`), not because its steps are counted.
-/

namespace DevConsole.Files

namespace Document

mutual

/-- The row of an entry, then those of what lies below it. -/
def rowsOf (name : String) (depth : Nat) (isLast : Bool) : Document → List Visited
  | .file _ => [⟨name, depth, false, isLast⟩]
  | .dir children => ⟨name, depth, true, isLast⟩ :: rowsBelow (depth + 1) children

def rowsBelow (depth : Nat) : List (String × Document) → List Visited
  | [] => []
  | (name, d) :: rest => rowsOf name depth rest.isEmpty d ++ rowsBelow depth rest

end

theorem length_rowsBelow {children : Entries Document} {depth : Nat}
    (h : ∀ e ∈ children, ∀ name depth isLast,
      (e.2.rowsOf name depth isLast).length = e.2.size) :
    (rowsBelow depth children).length = sizeChildren children := by
  induction children with
  | nil => rfl
  | cons p children ih =>
    rw [rowsBelow, List.length_append, h p List.mem_cons_self,
      ih fun e he => h e (List.mem_cons_of_mem _ he), sizeChildren]

/-- Each node has one row. -/
theorem length_rowsOf (d : Document) (name : String) (depth : Nat) (isLast : Bool) :
    (d.rowsOf name depth isLast).length = d.size := by
  induction d using induct generalizing name depth isLast with
  | file content => rfl
  | dir children ih => rw [rowsOf, List.length_cons, length_rowsBelow ih, size, Nat.add_comm]

end Document

namespace Arena

open DevConsole.Files.Tree (Pending pendingOf walkFrom)

variable {a : Arena}

/-- A run of `walkFrom` that reads live cells only, with the rows it lists. -/
inductive Walks (a : Arena) : List Pending → List Visited → Prop
  | done : Walks a [] []
  | next {top : Pending} {rest : List Pending} {n : Node} {rows : List Visited} :
      a.node? top.id = some n → Walks a (pendingOf (top.depth + 1) n.children ++ rest) rows →
      Walks a (top :: rest) (⟨top.name, top.depth, n.isDirectory, top.isLast⟩ :: rows)

/-- Entries about to be visited, each with the document that is held there. -/
def pendingPlaced (depth : Nat) : Entries Placed → List (Pending × Placed)
  | [] => []
  | (name, x) :: rest => (⟨name, x.id, depth, rest.isEmpty⟩, x) :: pendingPlaced depth rest

theorem map_fst_pendingPlaced (depth : Nat) (rows : Entries Placed) :
    (pendingPlaced depth rows).map Prod.fst = pendingOf depth (rows.mapValues Placed.id) := by
  induction rows with
  | nil => rfl
  | cons r rows ih =>
    rw [pendingPlaced, List.map_cons, ih, Entries.mapValues_cons, pendingOf]
    cases rows <;> rfl

theorem mem_pendingPlaced {depth : Nat} {rows : Entries Placed} {p : Pending × Placed}
    (h : p ∈ pendingPlaced depth rows) : p.1.id = p.2.id ∧ ∃ r ∈ rows, p.2 = r.2 := by
  induction rows with
  | nil => cases h
  | cons r rows ih =>
    rcases List.mem_cons.1 h with rfl | h
    · exact ⟨rfl, r, List.mem_cons_self, rfl⟩
    · obtain ⟨hid, s, hs, he⟩ := ih h
      exact ⟨hid, s, List.mem_cons_of_mem _ hs, he⟩

/-- The rows of all that is on a stack. -/
def stackRows (stack : List (Pending × Placed)) : List Visited :=
  stack.flatMap fun p => p.2.document.rowsOf p.1.name p.1.depth p.1.isLast

theorem stackRows_pendingPlaced (depth : Nat) (rows : Entries Placed) :
    stackRows (pendingPlaced depth rows) =
      Document.rowsBelow depth (rows.mapValues Placed.document) := by
  induction rows with
  | nil => rfl
  | cons r rows ih =>
    rw [pendingPlaced, stackRows, List.flatMap_cons, ← stackRows, ih, Entries.mapValues_cons,
      Document.rowsBelow]
    cases rows <;> rfl

/-- A held entry is a live node, and its rows are the one of the node and those of the entries that
are visited next. -/
theorem Holds.rows_eq {x : Placed} (h : a.Holds x) (name : String) (depth : Nat) (isLast : Bool) :
    ∃ n, ∃ below : Entries Placed, a.node? x.id = some n ∧
      n.children = below.mapValues Placed.id ∧ (∀ r ∈ below, a.Holds r.2) ∧
      x.document.rowsOf name depth isLast =
        ⟨name, depth, n.isDirectory, isLast⟩ :: stackRows (pendingPlaced (depth + 1) below) := by
  cases h with
  | file hn => exact ⟨_, [], hn, rfl, by simp, rfl⟩
  | dir hn _ _ hh =>
    refine ⟨_, _, hn, rfl, hh, ?_⟩
    rw [stackRows_pendingPlaced]
    rfl

/-- The stack is worked off row by row, and each row takes one step. -/
theorem walkFrom_spec {fuel : Nat} {stack : List (Pending × Placed)}
    (hs : ∀ p ∈ stack, p.1.id = p.2.id ∧ a.Holds p.2) (hfuel : (stackRows stack).length ≤ fuel) :
    walkFrom a fuel (stack.map Prod.fst) = stackRows stack ∧
      a.Walks (stack.map Prod.fst) (stackRows stack) := by
  induction fuel generalizing stack with
  | zero =>
    cases stack with
    | nil => exact ⟨rfl, .done⟩
    | cons p stack =>
      rw [stackRows, List.flatMap_cons, List.length_append, Document.length_rowsOf] at hfuel
      have := p.2.document.height_lt_size
      omega
  | succ fuel ih =>
    cases stack with
    | nil => exact ⟨rfl, .done⟩
    | cons p stack =>
      obtain ⟨top, x⟩ := p
      obtain ⟨hid, hx⟩ : top.id = x.id ∧ a.Holds x := hs _ List.mem_cons_self
      obtain ⟨n, below, hnode, hchildren, hhold, hrows⟩ :=
        hx.rows_eq top.name top.depth top.isLast
      rw [← hid] at hnode
      have hstack : ∀ p ∈ pendingPlaced (top.depth + 1) below ++ stack,
          p.1.id = p.2.id ∧ a.Holds p.2 := by
        intro p hp
        rcases List.mem_append.1 hp with hp | hp
        · obtain ⟨hpid, r, hr, he⟩ := mem_pendingPlaced hp
          exact ⟨hpid, he ▸ hhold r hr⟩
        · exact hs p (List.mem_cons_of_mem _ hp)
      have hall : stackRows ((top, x) :: stack) =
          ⟨top.name, top.depth, n.isDirectory, top.isLast⟩ ::
            stackRows (pendingPlaced (top.depth + 1) below ++ stack) := by
        simp only [stackRows, List.flatMap_cons, List.flatMap_append] at hrows ⊢
        rw [hrows, List.cons_append]
      have hpending : (pendingPlaced (top.depth + 1) below ++ stack).map Prod.fst =
          pendingOf (top.depth + 1) n.children ++ stack.map Prod.fst := by
        rw [List.map_append, map_fst_pendingPlaced, hchildren]
      rw [hall, List.length_cons] at hfuel
      obtain ⟨hwalk, hruns⟩ := ih hstack (Nat.le_of_succ_le_succ hfuel)
      rw [hpending] at hwalk hruns
      rw [hall, List.map_cons]
      refine ⟨?_, .next hnode hruns⟩
      rw [walkFrom, node_of_node? hnode, hwalk]

end Arena

namespace Tree

variable {t : Tree} {x : Placed}

/-- A walk fails as the listing of the directory does, or lists its rows, in a run that ends by
itself. -/
theorem Represents.walk_eq (h : t.Represents x) (p : Path) :
    t.walk p = (x.document.directoryAt p).map (Document.rowsBelow 0) ∧
    ∀ rows, t.walk p = .ok rows → ∃ id, t.directoryAt p = .ok id ∧
      t.arena.Walks (pendingOf 0 (t.arena.node id).children) rows := by
  rcases h.directoryAt p with ⟨e, hd, ht⟩ | ⟨id, rows, frame, hd, ht, hrows, hfr, -⟩
  · rw [walk, hd, ht]
    exact ⟨rfl, fun rows hr => nomatch hr⟩
  · have hstack : ∀ p ∈ Arena.pendingPlaced 0 rows, p.1.id = p.2.id ∧ t.arena.Holds p.2 := by
      intro p hp
      obtain ⟨hid, r, hr, he⟩ := Arena.mem_pendingPlaced hp
      exact ⟨hid, he ▸ hrows.holds r hr⟩
    have hlength : (Arena.stackRows (Arena.pendingPlaced 0 rows)).length ≤
        t.arena.cells.size := by
      have hcard := Arena.card_le_size (Multiset.nodup_add.1 hfr.nodup).2.1 fun i hi =>
        hfr.holds.live_of_mem hi
      rw [hfr.holds.card_cells, Placed.dir, Document.size] at hcard
      rw [Arena.stackRows_pendingPlaced, Document.length_rowsBelow fun e _ => e.2.length_rowsOf]
      omega
    obtain ⟨hwalk, hruns⟩ := Arena.walkFrom_spec hstack hlength
    rw [Arena.map_fst_pendingPlaced, Arena.stackRows_pendingPlaced] at hwalk hruns
    have ht' : t.walk p = .ok (Document.rowsBelow 0 (rows.mapValues Placed.document)) := by
      rw [walk, ht, ← hwalk]
      simp only [Except.map, hrows.children_eq]
    refine ⟨by rw [ht', hd]; rfl, fun rows' hr => ⟨id, ht, ?_⟩⟩
    rw [ht'] at hr
    cases hr
    rw [hrows.children_eq]
    exact hruns

end Tree

end DevConsole.Files
