import DevConsole.Files.Document
import DevConsole.Proofs.Entries

/-!
# The theory of nested documents

Two conditions on documents: `Ordered` (each directory lists its entries in the order of their
names, each once) and `Named` (each entry has a valid name). `prune` leaves a document of the second
kind alone (`prune_eq_self`).

`at?` is the part of a document that a path leads to, `entryAt?` what stands there; pruning keeps
what valid paths lead to (`entryAt?_prune`). `height` is the number of levels below the root: the
length of the longest path that leads anywhere (`height_le_iff`).
-/

namespace DevConsole.Files.Document

/-- Induction over a document: a directory may assume the statement of its entries. -/
@[elab_as_elim]
theorem induct {motive : Document → Prop} (file : ∀ content, motive (.file content))
    (dir : ∀ children : Entries Document, (∀ e ∈ children, motive e.2) → motive (.dir children)) :
    ∀ d, motive d
  | .file content => file content
  | .dir children => dir children fun e he =>
    have : sizeOf e.2 < sizeOf children := by
      have h1 := List.sizeOf_lt_of_mem he
      have h2 : sizeOf e = 1 + sizeOf e.1 + sizeOf e.2 := by cases e; rfl
      omega
    induct file dir e.2
termination_by d => sizeOf d

/-! ## Ordered and named documents -/

/-- Every directory lists its entries in the order of their names, each once. -/
inductive Ordered : Document → Prop
  | file (content : String) : Ordered (.file content)
  | dir {children : Entries Document} :
      Entries.Ordered children → (∀ e ∈ children, Ordered e.2) → Ordered (.dir children)

/-- Every entry has a valid name. -/
inductive Named : Document → Prop
  | file (content : String) : Named (.file content)
  | dir {children : Entries Document} :
      (∀ e ∈ children, Path.validName e.1 = true) → (∀ e ∈ children, Named e.2) →
      Named (.dir children)

theorem ordered_dir {children : Entries Document} :
    Ordered (.dir children) ↔ Entries.Ordered children ∧ ∀ e ∈ children, e.2.Ordered :=
  ⟨fun | .dir h h' => ⟨h, h'⟩, fun h => .dir h.1 h.2⟩

/-! ## Pruning -/

theorem mem_pruneChildren {children : Entries Document} {e : String × Document} :
    e ∈ pruneChildren children ↔
      ∃ d, (e.1, d) ∈ children ∧ Path.validName e.1 = true ∧ e.2 = d.prune := by
  induction children with
  | nil => simp [pruneChildren]
  | cons p children ih =>
    obtain ⟨n, d⟩ := p
    obtain ⟨m, v⟩ := e
    simp only [pruneChildren] at ih ⊢
    split
    · rename_i hn
      constructor
      · intro h
        rcases List.mem_cons.1 h with h | h
        · cases h
          exact ⟨d, List.mem_cons_self, hn, rfl⟩
        · obtain ⟨d', hd', hrest⟩ := ih.1 h
          exact ⟨d', List.mem_cons_of_mem _ hd', hrest⟩
      · rintro ⟨d', hd', hm, rfl⟩
        rcases List.mem_cons.1 hd' with h | h
        · cases h
          exact List.mem_cons_self
        · exact List.mem_cons_of_mem _ (ih.2 ⟨d', h, hm, rfl⟩)
    · rename_i hn
      rw [ih]
      refine ⟨fun ⟨d', hd', hrest⟩ => ⟨d', List.mem_cons_of_mem _ hd', hrest⟩, ?_⟩
      rintro ⟨d', hd', hm, rfl⟩
      rcases List.mem_cons.1 hd' with h | h
      · cases h
        exact absurd hm hn
      · exact ⟨d', h, hm, rfl⟩

theorem pruneChildren_eq_self {children : Entries Document}
    (hv : ∀ e ∈ children, Path.validName e.1 = true) (hp : ∀ e ∈ children, e.2.prune = e.2) :
    pruneChildren children = children := by
  induction children with
  | nil => rfl
  | cons p children ih =>
    simp only [pruneChildren, if_pos (hv p List.mem_cons_self), hp p List.mem_cons_self]
    rw [ih (fun e he => hv e (List.mem_cons_of_mem _ he))
      fun e he => hp e (List.mem_cons_of_mem _ he)]

theorem prune_eq_self {d : Document} (h : d.Named) : d.prune = d := by
  induction h with
  | file content => rfl
  | dir hv _ ih => rw [prune, pruneChildren_eq_self hv ih]

theorem ordered_pruneChildren {children : Entries Document} (h : Entries.Ordered children) :
    Entries.Ordered (pruneChildren children) := by
  induction children with
  | nil => exact Entries.ordered_nil
  | cons p children ih =>
    obtain ⟨hlt, hes⟩ := Entries.ordered_cons.1 h
    simp only [pruneChildren]
    split
    · refine Entries.ordered_cons.2 ⟨fun e he => ?_, ih hes⟩
      obtain ⟨d, hd, _, _⟩ := mem_pruneChildren.1 he
      exact hlt (e.1, d) hd
    · exact ih hes

theorem Ordered.prune {d : Document} (h : d.Ordered) : d.prune.Ordered := by
  induction h with
  | file content => exact .file content
  | @dir children ho _ ih =>
    rw [Document.prune, ordered_dir]
    refine ⟨ordered_pruneChildren ho, fun e he => ?_⟩
    obtain ⟨d, hd, _, hp⟩ := mem_pruneChildren.1 he
    rw [hp]
    exact ih _ hd

/-! ## What stands at a path -/

/-- What stands at a path: a directory, or a file with its content. -/
inductive Entry where
  | directory
  | file (content : String)
  deriving DecidableEq, Repr

def entry : Document → Entry
  | .dir _ => .directory
  | .file content => .file content

/-- The entries of a directory; a file has none. -/
def children : Document → Entries Document
  | .dir children => children
  | .file _ => []

/-- The part of a document that a path leads to. -/
def at? : Document → List String → Option Document
  | d, [] => some d
  | d, name :: rest => (d.children.find? name).bind fun child => child.at? rest

def entryAt? (d : Document) (path : List String) : Option Entry := (d.at? path).map entry

@[simp] theorem at?_nil (d : Document) : d.at? [] = some d := by cases d <;> rfl

theorem at?_cons (d : Document) (name : String) (rest : List String) :
    d.at? (name :: rest) = (d.children.find? name).bind fun child => child.at? rest := by
  cases d <;> rfl

theorem at?_append (d : Document) (path rest : List String) :
    d.at? (path ++ rest) = (d.at? path).bind fun e => e.at? rest := by
  induction path generalizing d with
  | nil => simp
  | cons name path ih =>
    rw [List.cons_append, at?_cons, at?_cons]
    cases d.children.find? name with
    | none => rfl
    | some child => exact ih child

theorem Ordered.at? {d e : Document} (h : d.Ordered) {path : List String}
    (hp : d.at? path = some e) : e.Ordered := by
  induction path generalizing d with
  | nil =>
    rw [at?_nil] at hp
    cases hp
    exact h
  | cons name path ih =>
    rw [at?_cons] at hp
    obtain ⟨child, hf, hc⟩ := Option.bind_eq_some_iff.1 hp
    cases h with
    | file content => cases hf
    | dir _ hall => exact ih (hall _ (Entries.mem_of_find? hf)) hc

theorem find?_pruneChildren (name : String) (children : Entries Document) :
    Entries.find? name (pruneChildren children) =
      if Path.validName name then (Entries.find? name children).map prune else none := by
  induction children with
  | nil => simp [pruneChildren]
  | cons p children ih =>
    obtain ⟨n, d⟩ := p
    by_cases hn : n = name
    · subst hn
      cases hv : Path.validName n <;> simp [pruneChildren, Entries.find?, hv, ih]
    · cases hv : Path.validName n <;> simp [pruneChildren, Entries.find?, hv, hn, ih]

/-- Pruning keeps what stands at a path whose names are valid, and nothing stands at any other. -/
theorem at?_prune (d : Document) (names : List String) :
    d.prune.at? names =
      if ∀ name ∈ names, Path.validName name = true then (d.at? names).map prune else none := by
  induction names generalizing d with
  | nil => simp
  | cons name rest ih =>
    have hfind : d.prune.children.find? name =
        if Path.validName name then (d.children.find? name).map prune else none := by
      cases d with
      | file content => simp [prune, children]
      | dir entries => exact find?_pruneChildren name entries
    rw [at?_cons, at?_cons, hfind]
    cases hv : Path.validName name with
    | false => simp [hv]
    | true =>
      cases d.children.find? name with
      | none => simp
      | some child => simp [hv, ih]

theorem entry_prune (d : Document) : d.prune.entry = d.entry := by cases d <;> rfl

theorem entryAt?_prune (d : Document) (names : List String) :
    d.prune.entryAt? names =
      if ∀ name ∈ names, Path.validName name = true then d.entryAt? names else none := by
  rw [entryAt?, at?_prune, entryAt?]
  split
  · rw [Option.map_map]
    exact congrArg (fun f => Option.map f (d.at? names)) (funext entry_prune)
  · rfl

/-- In a named document only valid paths lead anywhere. -/
theorem Named.valid_of_at? {d : Document} (h : d.Named) {names : List String}
    (hd : (d.at? names).isSome) : ∀ name ∈ names, Path.validName name = true := by
  rw [← prune_eq_self h, at?_prune] at hd
  split at hd
  · assumption
  · cases hd

/-! ## The height -/

mutual

/-- How many levels there are below the root. -/
def height : Document → Nat
  | .file _ => 0
  | .dir children => heightChildren children

/-- The number of levels that entries make up. -/
def heightChildren : List (String × Document) → Nat
  | [] => 0
  | (_, d) :: rest => max (height d + 1) (heightChildren rest)

end

theorem heightChildren_le_iff {children : Entries Document} {n : Nat} :
    heightChildren children ≤ n ↔ ∀ e ∈ children, e.2.height + 1 ≤ n := by
  induction children with
  | nil => simp [heightChildren]
  | cons p children ih => simp only [heightChildren, Nat.max_le, ih, List.forall_mem_cons]

theorem height_lt_of_mem {children : Entries Document} {e : String × Document}
    (h : e ∈ children) : e.2.height < height (.dir children) := by
  rw [height]
  exact heightChildren_le_iff.1 (Nat.le_refl _) e h

/-- The height is the length of the longest path that leads anywhere. -/
theorem height_le_iff {d : Document} (h : d.Ordered) {n : Nat} :
    d.height ≤ n ↔ ∀ path, (d.at? path).isSome → path.length ≤ n := by
  induction h generalizing n with
  | file content =>
    refine ⟨fun _ path hp => ?_, fun _ => Nat.zero_le n⟩
    cases path with
    | nil => exact Nat.zero_le n
    | cons name rest => simp [at?_cons, children] at hp
  | @dir children ho _ ih =>
    rw [height, heightChildren_le_iff]
    constructor
    · intro hle path hp
      cases path with
      | nil => exact Nat.zero_le n
      | cons name rest =>
        obtain ⟨child, hf, hc⟩ : ∃ child, children.find? name = some child ∧
            (child.at? rest).isSome := by
          cases hf : children.find? name with
          | none => simp [at?_cons, Document.children, hf] at hp
          | some child => exact ⟨child, rfl, by simpa [at?_cons, Document.children, hf] using hp⟩
        have hm := Entries.mem_of_find? hf
        have hn := hle _ hm
        have := (ih _ hm (n := n - 1)).1 (by omega) rest hc
        simp only [List.length_cons]
        omega
    · intro hall e he
      have hf := ho.find?_eq_some_iff.2 he
      have hn : 1 ≤ n := by
        simpa using hall [e.1] (by simp [at?_cons, Document.children, hf])
      have := (ih e he (n := n - 1)).2 fun rest hr => by
        have := hall (e.1 :: rest) (by simpa [at?_cons, Document.children, hf] using hr)
        simp only [List.length_cons] at this
        omega
      omega

theorem height_prune_le (d : Document) : d.prune.height ≤ d.height := by
  induction d using induct with
  | file content => exact Nat.le_refl _
  | dir children ih =>
    rw [prune, height, heightChildren_le_iff]
    intro e he
    obtain ⟨d, hd, _, hp⟩ := mem_pruneChildren.1 he
    have hle := ih _ hd
    have hlt := height_lt_of_mem hd
    rw [hp]
    simp only at hle hlt ⊢
    omega

/-! ## The size -/

theorem heightChildren_le_sizeChildren {children : Entries Document}
    (h : ∀ e ∈ children, e.2.height < e.2.size) :
    heightChildren children ≤ sizeChildren children := by
  induction children with
  | nil => exact Nat.le_refl _
  | cons p children ih =>
    have hp := h p List.mem_cons_self
    have hrest := ih fun e he => h e (List.mem_cons_of_mem _ he)
    simp only [heightChildren, sizeChildren]
    omega

/-- A document has more nodes than levels. -/
theorem height_lt_size (d : Document) : d.height < d.size := by
  induction d using induct with
  | file content => simp [height, size]
  | dir children ih =>
    have := heightChildren_le_sizeChildren ih
    rw [height, size]
    omega

end DevConsole.Files.Document
