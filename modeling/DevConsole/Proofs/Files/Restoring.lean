import DevConsole.Proofs.Files.Directory
import DevConsole.Proofs.Files.Reload

/-!
# Restored trees

Restoring a document leaves out the entries whose names are not valid, with all that lies below
them, and keeps every other one (`ofDocument_restores`). So nothing is lost when a tree is restored
from the document that it writes out, and every entry of a tree can be reached: the text with a
slash before each of the names on the way is a path to it (`Tree.Addresses`).
-/

namespace DevConsole.Files.Tree

variable {t : Tree} {names : List String} {e : Document.Entry}

/-- The text of a path from the root, a slash before each name. -/
def pathText (names : List String) : String := "/" ++ Text.joinWith "/" names

/-- What a text with these names leads to is the entry. -/
structure Addresses (t : Tree) (names : List String) (e : Document.Entry) : Prop where
  contains : t.contains (.parse (pathText names)) = true
  isDirectory : t.isDirectory (.parse (pathText names)) = true ↔ e = .directory
  read : ∀ content, e = .file content → t.read (.parse (pathText names)) = .ok content

theorem parse_pathText (h : ∀ name ∈ names, Path.validName name = true) :
    Path.parse (pathText names) = ⟨names⟩ := by
  have hvalid : Path.Valid ⟨names⟩ := h
  rw [pathText, ← Path.render_eq_joinWith]
  exact Path.resolve_render hvalid .root

/-- Whatever a tree writes out can be reached in it. -/
theorem Reachable.addresses (h : t.Reachable) (he : t.toDocument.entryAt? names = some e) :
    t.Addresses names e := by
  obtain ⟨d, hd, hentry⟩ := Option.map_eq_some_iff.mp he
  obtain ⟨-, -, -, hnamed⟩ := h.toDocument_spec
  have hpath := parse_pathText (hnamed.valid_of_at? (by rw [hd]; rfl))
  have hlookup : t.toDocument.lookup ⟨names⟩ = .ok d := Document.lookup_eq_ok_iff.mpr hd
  obtain ⟨x, hx⟩ := h.represents
  have hrefines := hx.toDocument_eq ▸ hx.refines
  refine ⟨?_, ?_, fun content hfile => ?_⟩
  · rw [hpath, hrefines.contains, Document.contains, hlookup]
    rfl
  · rw [hpath, h.isDirectory_iff_entryAt?, he, Option.some.injEq]
  · rw [hpath, hrefines.read, Document.read, hlookup]
    subst hfile
    cases d with
    | dir entries => cases hentry
    | file content => cases hentry; rfl

/-- What is restored of a directory are the entries that stand at valid paths, what is restored of a
file is an empty root. Restoring what a tree writes out changes nothing, and every entry of a
restored tree can be reached. -/
theorem ofDocument_restores {d : Document} (h : d.Ordered) :
    (∀ children, d = .dir children → (ofDocument d).toDocument = d.prune ∧
      ∀ names, (ofDocument d).toDocument.entryAt? names =
        if ∀ name ∈ names, Path.validName name = true then d.entryAt? names else none) ∧
    (∀ content, d = .file content → ofDocument d = new ∧ new.toDocument = .emptyDir) ∧
    (∀ names e, (ofDocument d).toDocument.entryAt? names = some e →
      (ofDocument d).Addresses names e) ∧
    ∀ t : Tree, t.Reachable → (ofDocument t.toDocument).toDocument = t.toDocument := by
  refine ⟨?_, ?_, fun names e => (Reachable.ofDocument d).addresses,
    fun t ht => ht.toDocument_ofDocument⟩
  · rintro children rfl
    have hprune := toDocument_ofDocument h
    exact ⟨hprune, fun names => by rw [hprune, Document.entryAt?_prune]⟩
  · rintro content rfl
    exact ⟨rfl, represents_new.toDocument_eq⟩

/-- A directory with a name that is not valid is gone with the file in it, and so is a file with a
slash in its name; the file beside it is found. -/
theorem ofDocument_restores_nested :
    let d : Document := .dir
      [("..", .dir [("x", .file "1")]), ("a", .dir [("b/c", .file "2"), ("d", .file "3")])]
    d.Ordered ∧ (ofDocument d).toDocument = .dir [("a", .dir [("d", .file "3")])] ∧
      (ofDocument d).toDocument.entryAt? ["..", "x"] = none ∧
        (ofDocument d).Addresses ["a", "d"] (.file "3") := by
  intro d
  have hordered : d.Ordered := by
    have hfile : ∀ content, (Document.file content).Ordered := .file
    simp only [d, Document.ordered_dir, List.forall_mem_cons, hfile, List.not_mem_nil,
      false_implies, implies_true, and_true]
    decide +kernel
  obtain ⟨hdir, -, haddress, -⟩ := ofDocument_restores hordered
  obtain ⟨hprune, hentry⟩ := hdir _ rfl
  refine ⟨hordered, hprune, ?_, haddress _ _ ?_⟩
  · rw [hentry]
    decide +kernel
  · rw [hentry]
    decide +kernel

end DevConsole.Files.Tree
