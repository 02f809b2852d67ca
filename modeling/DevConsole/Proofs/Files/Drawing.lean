import DevConsole.Files.Drawing
import DevConsole.Proofs.Files.Directory
import Mathlib.Data.List.Infix
import Mathlib.Data.List.Lex

/-!
# What a drawn tree shows

Everything that lies below a directory has a path from there. A walk lists these paths in the order
of a dictionary whose letters are the names: an entry comes before what lies below it, and siblings
come in the order of their names, each with all that lies below it. What the row of a path says
(`walkRow`) and how its line is drawn (`drawnLine`) depends on the tree alone, not on the rows
before it (`Reachable.draws`).

`Told` is what ties the two together: what is said of paths is what a document has there. Under it
the rows are read off the paths (`Told.rowsBelow_eq`), and so are the lines, because a drawing still
has the columns of a directory when it comes back to it (`Told.drawFrom`).
-/

namespace DevConsole.Files

/-! ## Rows and lines by path -/

/-- Whether the entry at a path has the greatest name of its directory. -/
def isGreatest (list : Path → Except FileError (List Listed)) (path : List String) : Bool :=
  (list ⟨path.dropLast⟩).toOption.any fun rows =>
    rows.all fun r => decide (r.name ≤ path.getLastD "")

/-- The paths on the way to an entry, from the outermost. -/
def pathsAbove (path : List String) : List (List String) := path.dropLast.inits.tail

/-- What a walk says of the entry at a path, given which paths lead to directories and which to the
last of their siblings. -/
def walkRow (isDirectory isLast : List String → Bool) (path : List String) : Visited :=
  ⟨path.getLastD "", path.length - 1, isDirectory path, isLast path⟩

/-- The line of the entry at a path: the columns of the directories above it, a connector, its
name. -/
def drawnLine (isDirectory isLast : List String → Bool) (path : List String) : String :=
  String.join ((pathsAbove path).map fun above => column (isLast above)) ++
    (if isLast path then "└── " else "├── ") ++ path.getLastD "" ++
      if isDirectory path then "/" else ""

theorem pathsAbove_concat (path : List String) (name : String) :
    pathsAbove (path ++ [name]) = path.inits.tail := by
  rw [pathsAbove, List.dropLast_concat]

theorem inits_tail_concat (path : List String) (name : String) :
    (path ++ [name]).inits.tail = path.inits.tail ++ [path ++ [name]] := by
  rw [List.inits_append]
  cases path <;> simp

theorem length_inits_tail (path : List String) : path.inits.tail.length = path.length := by
  rw [List.length_tail, List.length_inits, Nat.add_sub_cancel]

namespace Document

mutual

/-- The path of an entry, then those of all below it. -/
def pathsOf (path : List String) : Document → List (List String)
  | .file _ => [path]
  | .dir children => path :: pathsBelow path children

/-- The paths below a directory, in the order of a walk. -/
def pathsBelow (path : List String) : List (String × Document) → List (List String)
  | [] => []
  | (name, d) :: rest => pathsOf (path ++ [name]) d ++ pathsBelow path rest

end

theorem children_dir (entries : Entries Document) : (dir entries).children = entries := rfl

theorem pathsBelow_cons (path : List String) (name : String) (d : Document)
    (rest : Entries Document) :
    pathsBelow path ((name, d) :: rest) =
      (path ++ [name]) :: pathsBelow (path ++ [name]) d.children ++ pathsBelow path rest := by
  cases d <;> rfl

theorem rowsBelow_cons (depth : Nat) (name : String) (d : Document) (rest : Entries Document) :
    rowsBelow depth ((name, d) :: rest) =
      ⟨name, depth, d.isDir, rest.isEmpty⟩ :: rowsBelow (depth + 1) d.children ++
        rowsBelow depth rest := by
  cases d <;> rfl

/-- Induction over what lies below a directory, entry by entry. -/
@[elab_as_elim]
theorem inductBelow {motive : Entries Document → Prop} (nil : motive [])
    (cons : ∀ name d rest, motive d.children → motive rest → motive ((name, d) :: rest)) :
    ∀ children, motive children := by
  have hall : ∀ d : Document, motive d.children := by
    intro d
    induction d using induct with
    | file content => exact nil
    | dir children ih =>
      change motive children
      induction children with
      | nil => exact nil
      | cons p rest ihrest =>
        exact cons p.1 p.2 rest (ih p List.mem_cons_self)
          (ihrest fun e he => ih e (List.mem_cons_of_mem _ he))
  exact fun children => hall (.dir children)

theorem ordered_cons {name : String} {d : Document} {rest : Entries Document}
    (h : (dir ((name, d) :: rest)).Ordered) :
    (∀ n ∈ rest.names, name < n) ∧ d.Ordered ∧ (dir rest).Ordered := by
  obtain ⟨ho, hall⟩ := ordered_dir.mp h
  obtain ⟨hlt, hrest⟩ := Entries.ordered_cons.mp ho
  obtain ⟨hd, hall⟩ := List.forall_mem_cons.mp hall
  exact ⟨List.forall_mem_map.mpr hlt, hd, ordered_dir.mpr ⟨hrest, hall⟩⟩

theorem Ordered.dir_children {d : Document} (h : d.Ordered) :
    (Document.dir d.children).Ordered := by
  cases h with
  | file content => exact .dir Entries.ordered_nil fun e he => nomatch he
  | dir ho hall => exact .dir ho hall

/-! ## The paths -/

variable {path below : List String} {entries : Entries Document}

/-- A path below a directory goes on with one of its names. -/
theorem exists_of_mem_pathsBelow (h : below ∈ pathsBelow path entries) :
    ∃ name rest, name ∈ entries.names ∧ below = path ++ name :: rest := by
  induction entries using inductBelow generalizing path with
  | nil => cases h
  | cons name d rest ihd ihrest =>
    rw [pathsBelow_cons, List.mem_append, List.mem_cons] at h
    rcases h with (rfl | h) | h
    · exact ⟨name, [], List.mem_cons_self, rfl⟩
    · obtain ⟨n, below', -, rfl⟩ := ihd h
      exact ⟨name, n :: below', List.mem_cons_self, by rw [List.append_assoc]; rfl⟩
    · obtain ⟨n, below', hn, rfl⟩ := ihrest h
      exact ⟨n, below', List.mem_cons_of_mem _ hn, rfl⟩

/-- The paths are in the order of a dictionary whose letters are the names. -/
theorem pairwise_pathsBelow (path : List String) (h : (dir entries).Ordered) :
    (pathsBelow path entries).Pairwise (List.Lex (· < ·)) := by
  induction entries using inductBelow generalizing path with
  | nil => exact List.Pairwise.nil
  | cons name d rest ihd ihrest =>
    obtain ⟨hlt, hd, hrest⟩ := ordered_cons h
    have hdown := ihd (path ++ [name]) hd.dir_children
    have hright := ihrest path hrest
    rw [pathsBelow_cons, List.pairwise_append, List.pairwise_cons]
    refine ⟨⟨fun below hbelow => ?_, hdown⟩, hright, fun a ha b hb => ?_⟩
    · obtain ⟨n, tail, -, rfl⟩ := exists_of_mem_pathsBelow hbelow
      have hlex := List.Lex.append_left (· < ·) (List.Lex.nil (a := n) (l := tail)) (path ++ [name])
      rwa [List.append_nil] at hlex
    · have ha : ∃ tail, a = path ++ name :: tail := by
        rcases List.mem_cons.mp ha with rfl | ha
        · exact ⟨[], rfl⟩
        · obtain ⟨n, tail, -, rfl⟩ := exists_of_mem_pathsBelow ha
          exact ⟨n :: tail, by rw [List.append_assoc]; rfl⟩
      obtain ⟨tail, rfl⟩ := ha
      obtain ⟨n, tail', hn, rfl⟩ := exists_of_mem_pathsBelow hb
      exact .append_left _ (.rel (hlt n hn)) path

/-- The paths below a directory are those that lead anywhere. -/
theorem mem_pathsBelow (h : (dir entries).Ordered) (path below : List String) :
    path ++ below ∈ pathsBelow path entries ↔
      below ≠ [] ∧ ((dir entries).at? below).isSome := by
  induction entries using inductBelow generalizing path below with
  | nil => cases below <;> simp [pathsBelow, at?_cons, Document.children]
  | cons name d rest ihd ihrest =>
    obtain ⟨hlt, hd, hrest⟩ := ordered_cons h
    cases below with
    | nil =>
      refine iff_of_false (fun hmem => ?_) fun hne => hne.1 rfl
      obtain ⟨n, tail, -, he⟩ := exists_of_mem_pathsBelow hmem
      cases List.append_cancel_left he
    | cons n below =>
      have hright := ihrest hrest path (n :: below)
      rw [at?_cons] at hright
      rw [pathsBelow_cons, List.mem_append, List.mem_cons, hright, at?_cons]
      by_cases hn : name = n
      · subst hn
        have hgone : rest.find? name = none :=
          Entries.find?_eq_none_of_lt (List.forall_mem_map.mp hlt)
        have hdown := ihd hd.dir_children (path ++ [name]) below
        rw [List.append_assoc, List.singleton_append] at hdown
        cases below <;> simp [hdown, hgone, children_dir, Entries.find?, at?_cons]
      · -- what lies below the first entry starts with its name
        have hne : path ++ n :: below ≠ path ++ [name] := fun he => by
          cases List.append_cancel_left he
          exact hn rfl
        have hnot : path ++ n :: below ∉ pathsBelow (path ++ [name]) d.children := fun hmem => by
          obtain ⟨m, tail, -, he⟩ := exists_of_mem_pathsBelow hmem
          rw [List.append_assoc] at he
          cases List.append_cancel_left he
          exact hn rfl
        simp [hne, hnot, children_dir, Entries.find?, hn]

/-! ## The rows and the lines -/

/-- What is said of the paths below one is what these entries are. -/
inductive Told (isDirectory isLast : List String → Bool) : List String → Entries Document → Prop
  | nil (path : List String) : Told isDirectory isLast path []
  | cons {path : List String} {name : String} {d : Document} {rest : Entries Document} :
      isDirectory (path ++ [name]) = d.isDir → isLast (path ++ [name]) = rest.isEmpty →
      Told isDirectory isLast (path ++ [name]) d.children → Told isDirectory isLast path rest →
      Told isDirectory isLast path ((name, d) :: rest)

variable {isDirectory isLast : List String → Bool}

/-- A walk lists the paths below a directory. -/
theorem Told.rowsBelow_eq (h : Told isDirectory isLast path entries) :
    rowsBelow path.length entries = (pathsBelow path entries).map (walkRow isDirectory isLast) := by
  induction h with
  | nil path => rfl
  | @cons path name d rest hdir hlast _ _ ihd ihrest =>
    have hrow : walkRow isDirectory isLast (path ++ [name]) =
        ⟨name, path.length, d.isDir, rest.isEmpty⟩ := by
      simp [walkRow, hdir, hlast]
    rw [List.length_append, List.length_singleton] at ihd
    rw [rowsBelow_cons, pathsBelow_cons, List.map_append, List.map_cons, hrow, ihd, ihrest]

/-- What lies below a directory is drawn behind the columns of the directory, and they are still
there when the drawing goes on. -/
theorem Told.drawFrom (h : Told isDirectory isLast path entries) {above : List Bool}
    (habove : path.inits.tail.map isLast <+: above) (more : List Visited) :
    ∃ above', path.inits.tail.map isLast <+: above' ∧
      drawFrom above (rowsBelow path.length entries ++ more) =
        (pathsBelow path entries).map (drawnLine isDirectory isLast) ++ drawFrom above' more := by
  induction h generalizing above more with
  | nil path => exact ⟨above, habove, rfl⟩
  | @cons path name d rest hdir hlast _ _ ihd ihrest =>
    -- what the entries before this one have left behind is cut off
    have hcolumns : above.take path.length = path.inits.tail.map isLast := by
      rw [List.prefix_iff_eq_take.mp habove, List.length_map, length_inits_tail]
    have hflags : (path ++ [name]).inits.tail.map isLast =
        path.inits.tail.map isLast ++ [rest.isEmpty] := by
      rw [inits_tail_concat, List.map_append, List.map_singleton, hlast]
    rw [hflags, List.length_append, List.length_singleton] at ihd
    obtain ⟨below, hbelow, hd⟩ := ihd (List.prefix_refl _) (rowsBelow path.length rest ++ more)
    obtain ⟨above', habove', hrest⟩ := ihrest ((List.prefix_append _ _).trans hbelow) more
    have hline : drawnLine isDirectory isLast (path ++ [name]) =
        String.join ((path.inits.tail.map isLast).map column) ++
          (if rest.isEmpty then "└── " else "├── ") ++ name ++ if d.isDir then "/" else "" := by
      rw [drawnLine, pathsAbove_concat, hdir, hlast, List.map_map, List.getLastD_concat]
      rfl
    refine ⟨above', habove', ?_⟩
    rw [rowsBelow_cons, pathsBelow_cons, List.map_append, List.map_cons, hline,
      List.append_assoc, List.cons_append, Files.drawFrom]
    simp only [hcolumns, hd, hrest, List.cons_append, List.append_assoc]

theorem Told.draw_rowsBelow (h : Told isDirectory isLast [] entries) :
    draw (rowsBelow 0 entries) = (pathsBelow [] entries).map (drawnLine isDirectory isLast) := by
  obtain ⟨above, -, hdraw⟩ := h.drawFrom (List.prefix_refl []) []
  rw [List.append_nil, List.length_nil] at hdraw
  rw [draw, hdraw, Files.drawFrom, List.append_nil]

/-! ## What a document tells -/

/-- The greatest of the names of a directory is the last one. -/
theorem Ordered.isGreatest_concat {d e : Document} {before rest : Entries Document} {name : String}
    (h : d.Ordered) (hat : d.at? path = some (.dir (before ++ (name, e) :: rest))) :
    isGreatest d.list (path ++ [name]) = rest.isEmpty := by
  have hordered := (ordered_dir.mp (h.at? hat)).1
  have hlist : d.list ⟨path⟩ =
      .ok ((before ++ (name, e) :: rest).map fun e => ⟨e.1, e.2.isDir⟩) := by
    rw [list, directoryAt_eq_ok_iff.mpr hat]
    rfl
  rw [isGreatest, List.dropLast_concat, List.getLastD_concat, hlist]
  have hnames : (before.names ++ name :: rest.names).Pairwise (· < ·) := by
    simpa [Entries.Ordered, Entries.names] using hordered
  obtain ⟨-, hright, hleft⟩ := List.pairwise_append.mp hnames
  obtain ⟨hright, -⟩ := List.pairwise_cons.mp hright
  rw [Except.toOption, Option.any_some, List.all_map]
  cases rest with
  | nil =>
    refine List.all_eq_true.mpr fun r hr => decide_eq_true ?_
    rcases List.mem_append.mp hr with hr | hr
    · exact Std.le_of_lt (hleft _ (List.mem_map_of_mem hr) _ List.mem_cons_self)
    · cases List.mem_singleton.mp hr
      exact String.le_refl name
  | cons r rest =>
    refine List.all_eq_false.mpr ⟨r, ?_, ?_⟩
    · simp
    · have hlt := hright r.1 List.mem_cons_self
      simpa using hlt

/-- Of the paths below a directory of a document its queries say what is there. -/
theorem Ordered.told {d : Document} (h : d.Ordered) {base : List String}
    (before : Entries Document)
    (hat : d.at? (base ++ path) = some (.dir (before ++ entries))) :
    Told (fun q => d.isDirectory ⟨base ++ q⟩) (fun q => isGreatest d.list (base ++ q)) path
      entries := by
  induction entries using inductBelow generalizing path before with
  | nil => exact .nil path
  | cons name e rest ihd ihrest =>
    have hfind : d.at? (base ++ (path ++ [name])) = some e := by
      rw [← List.append_assoc, at?_append, hat, Option.bind_some, at?_cons]
      have hordered := (ordered_dir.mp (h.at? hat)).1
      have := hordered.find?_eq_some_iff.mpr
        (List.mem_append_right before (List.mem_cons_self (a := (name, e)) (l := rest)))
      rw [children, this]
      simp
    refine .cons ?_ ?_ ?_ (ihrest (before ++ [(name, e)]) ?_)
    · rw [isDirectory, lookup_eq_ok_iff.mpr hfind]
      cases e <;> rfl
    · rw [← List.append_assoc, h.isGreatest_concat hat]
    · cases e with
      | file content => exact .nil _
      | dir entries => exact ihd [] hfind
    · rwa [List.append_assoc]

theorem contains_iff {d : Document} {p : Path} :
    d.contains p = true ↔ (d.at? p.segments).isSome := by
  rw [contains, Option.isSome_iff_exists, Option.isSome_iff_exists]
  simp only [← lookup_eq_ok_iff]
  cases d.lookup p <;> simp [Except.toOption]

end Document

namespace Tree

variable {t : Tree} {p : Path}

/-- The row that a walk of `p` has for the entry at a path below it. -/
def rowAt (t : Tree) (p : Path) : List String → Visited :=
  walkRow (fun path => t.isDirectory ⟨p.segments ++ path⟩)
    fun path => isGreatest t.list (p.segments ++ path)

/-- The line that a drawing of `p` has for the entry at a path below it. -/
def lineAt (t : Tree) (p : Path) : List String → String :=
  drawnLine (fun path => t.isDirectory ⟨p.segments ++ path⟩)
    fun path => isGreatest t.list (p.segments ++ path)

/-- A walk lists the paths below a directory in the order of a dictionary, each once, and a drawing
has the line of each of them. -/
theorem Reachable.draws (h : t.Reachable) (hp : t.isDirectory p = true) :
    ∃ paths : List (List String), paths.Pairwise (List.Lex (· < ·)) ∧
      (∀ path, path ∈ paths ↔ path ≠ [] ∧ t.contains ⟨p.segments ++ path⟩ = true) ∧
      t.walk p = .ok (paths.map (t.rowAt p)) ∧
      draw (paths.map (t.rowAt p)) = paths.map (t.lineAt p) := by
  obtain ⟨x, hx⟩ := h.represents
  have hordered := hx.holds.ordered
  obtain ⟨entries, hd⟩ := Document.entryAt?_eq_directory_iff.mp
    (hx.toDocument_eq ▸ h.isDirectory_iff_entryAt?.mp hp)
  have hat := Document.directoryAt_eq_ok_iff.mp hd
  have hentries := hordered.at? hat
  have htold : Document.Told (fun path => t.isDirectory ⟨p.segments ++ path⟩)
      (fun path => isGreatest t.list (p.segments ++ path)) [] entries := by
    simp only [hx.refines.isDirectory, funext hx.refines.list]
    exact hordered.told [] (by rw [List.append_nil, hat]; rfl)
  refine ⟨Document.pathsBelow [] entries, Document.pairwise_pathsBelow [] hentries,
    fun path => ?_, ?_, ?_⟩
  · rw [hx.refines.contains, Document.contains_iff, Document.at?_append, hat, Option.bind_some]
    exact Document.mem_pathsBelow hentries [] path
  · rw [(hx.walk_eq p).1, hd]
    exact congrArg Except.ok htold.rowsBelow_eq
  · rw [lineAt, ← htold.draw_rowsBelow, rowAt, ← htold.rowsBelow_eq]
    rfl

/-- The layout of a first session: no column below the last entry of the home directory. -/
theorem draws_defaultLayout :
    ∃ paths : List (List String),
      ofDefaultLayout.walk .root = .ok (paths.map (ofDefaultLayout.rowAt .root)) ∧
      paths.map (ofDefaultLayout.lineAt .root) =
        ["├── etc/", "├── home/", "│   └── user/", "│       ├── documents/",
          "│       ├── downloads/", "│       ├── projects/", "│       └── welcome.txt",
          "└── var/"] := by
  obtain ⟨paths, -, -, hwalk, hdraw⟩ :=
    Reachable.draws .ofDefaultLayout (p := .root) (by decide +kernel)
  have hlines : (ofDefaultLayout.walk .root).toOption.map draw =
      some ["├── etc/", "├── home/", "│   └── user/", "│       ├── documents/",
        "│       ├── downloads/", "│       ├── projects/", "│       └── welcome.txt",
        "└── var/"] := by
    decide +kernel
  rw [hwalk] at hlines
  exact ⟨paths, hwalk, hdraw.symm.trans (Option.some.inj hlines)⟩

end Tree
end DevConsole.Files
