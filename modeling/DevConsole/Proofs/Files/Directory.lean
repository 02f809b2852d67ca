import DevConsole.Proofs.Files.Path
import DevConsole.Proofs.Files.Walk

/-!
# Standing in a directory

A change of an entry of a directory leaves the directory itself in place: an entry has one more name
on its path (`isDirectory_of_change`). So someone who moves only to directories and changes only
entries of the one he is in always stands in a directory. Such a place is never to blame for a
failure: `FileError.Blames` picks out the failures that a missing directory or a file in its place
would give, and a change there fails for its name or its entry alone (`not_blames_of_change`).
-/

namespace DevConsole.Files

/-- The failure says of a path that it is missing or no directory. -/
def FileError.Blames (e : FileError) (p : Path) : Prop :=
  e = .notFound p.render ∨ e = .notADirectory p.render

/-- A failure blames one valid path at most. -/
theorem FileError.Blames.unique {e : FileError} {p q : Path} (hp : p.Valid) (hq : q.Valid)
    (h : e.Blames p) (h' : e.Blames q) : p = q := by
  rcases h with rfl | rfl
  · rcases h' with h | h
    · exact Path.render_inj hp hq (FileError.notFound.inj h)
    · exact nomatch h
  · rcases h' with h | h
    · exact nomatch h
    · exact Path.render_inj hp hq (FileError.notADirectory.inj h)

namespace Tree

variable {t t' : Tree} {p cwd target : Path} {name text : String} {edit : Edit} {e : FileError}

/-! ## Queries -/

theorem isDirectory_iff : t.isDirectory p = true ↔ ∃ id, t.directoryAt p = .ok id := by
  unfold isDirectory directoryAt
  cases t.lookup p with
  | error e => simp
  | ok id =>
    dsimp only
    split
    · rename_i hn
      exact ⟨fun _ => ⟨id, rfl⟩, fun _ => hn⟩
    · rename_i hn
      exact ⟨fun h => absurd h hn, fun ⟨_, h⟩ => nomatch h⟩

theorem descend_error {a : Arena} {whole : String} {id : NodeId} {path : List String}
    (h : descend a whole id path = .error e) : e = .notFound whole ∨ e = .notADirectory whole := by
  induction path generalizing id with
  | nil => cases h
  | cons name rest ih =>
    unfold descend at h
    split at h
    · cases h
      exact .inr rfl
    · split at h
      · cases h
        exact .inl rfl
      · exact ih h

theorem blames_of_directoryAt (h : t.directoryAt p = .error e) : e.Blames p := by
  unfold directoryAt at h
  split at h
  · rename_i hlookup
    cases h
    exact descend_error hlookup
  · split at h <;> cases h
    exact .inr rfl

/-- A file that is not read is missing itself, or a directory stands in its place. -/
theorem read_error (h : t.read p = .error e) : e.Blames p ∧ t.isDirectory p = false ∨
    e = .notAFile p.render := by
  unfold read at h
  split at h
  · rename_i hlookup
    cases h
    exact .inl ⟨descend_error hlookup, by simp [isDirectory, hlookup]⟩
  · split at h <;> cases h
    exact .inr rfl

theorem changeDirectory_eq_ok (h : t.changeDirectory cwd text = .ok target) :
    target = Path.resolve text cwd ∧ t.isDirectory target = true := by
  rw [changeDirectory_eq] at h
  cases hd : t.directoryAt (Path.resolve text cwd) with
  | error e =>
    rw [hd] at h
    cases h
  | ok id =>
    rw [hd] at h
    cases h
    exact ⟨rfl, isDirectory_iff.mpr ⟨id, hd⟩⟩

theorem list_of_isDirectory (h : t.isDirectory p = true) : ∃ rows, t.list p = .ok rows := by
  obtain ⟨id, hid⟩ := isDirectory_iff.mp h
  rw [list, hid]
  exact ⟨_, rfl⟩

theorem walk_of_isDirectory (h : t.isDirectory p = true) : ∃ rows, t.walk p = .ok rows := by
  obtain ⟨id, hid⟩ := isDirectory_iff.mp h
  rw [walk, hid]
  exact ⟨_, rfl⟩

/-! ## Changes -/

theorem Reachable.isDirectory_iff_entryAt? (h : t.Reachable) :
    t.isDirectory p = true ↔ t.toDocument.entryAt? p.segments = some .directory := by
  obtain ⟨x, hx⟩ := h.represents
  rw [isDirectory_iff, hx.toDocument_eq, Document.entryAt?_eq_directory_iff]
  rcases hx.directoryAt p with ⟨e, hd, ht⟩ | ⟨id, rows, frame, hd, ht, -⟩ <;> simp [hd, ht]

theorem Reachable.isDirectory_root (h : t.Reachable) : t.isDirectory .root = true := by
  obtain ⟨children, hd, -⟩ := h.toDocument_spec
  rw [h.isDirectory_iff_entryAt?, hd]
  rfl

theorem Reachable.of_change {c : Change} (h : t.Reachable) (hc : t.change c = .ok t') :
    t'.Reachable := by
  have hstep : t.step c = t' := by rw [step_eq, hc]
  rw [← hstep]
  exact .step c h

/-- A change of an entry leaves the directory of the entry in place. -/
theorem Reachable.isDirectory_of_change (h : t.Reachable) (hd : t.isDirectory cwd = true)
    (hc : t.change ⟨cwd, name, edit⟩ = .ok t') : t'.isDirectory cwd = true := by
  rw [(h.of_change hc).isDirectory_iff_entryAt?]
  obtain ⟨x, hx⟩ := h.represents
  rcases hx.change ⟨cwd, name, edit⟩ with ⟨e, -, ht⟩ | ⟨t'', x', hdoc, ht, hx'⟩
  · rw [hc] at ht
    cases ht
  · rw [hc] at ht
    cases ht
    rw [hx'.toDocument_eq, Document.entryAt?_change hx.holds.ordered hdoc, ← hx.toDocument_eq]
    -- the target has one more name than the path of the directory
    have hlength : (Change.target ⟨cwd, name, edit⟩).length = cwd.segments.length + 1 := by
      simp [Change.target]
    have hne : cwd.segments ≠ Change.target ⟨cwd, name, edit⟩ := fun he => by
      rw [← he] at hlength
      omega
    have hpre : ¬Change.target ⟨cwd, name, edit⟩ <+: cwd.segments := fun hpre => by
      have hle := hpre.length_le
      omega
    rw [Change.entryAfter, if_neg hne, if_neg hpre]
    exact h.isDirectory_iff_entryAt?.mp hd

/-- What is written into a file can be read from it. -/
theorem Reachable.read_of_change {content : String} (h : t.Reachable)
    (hc : t.change ⟨cwd, name, .writeFile content⟩ = .ok t') :
    t'.read ⟨cwd.segments ++ [name]⟩ = .ok content := by
  obtain ⟨x, hx⟩ := h.represents
  rcases hx.change ⟨cwd, name, .writeFile content⟩ with ⟨e, -, ht⟩ | ⟨t'', x', hdoc, ht, hx'⟩
  · rw [hc] at ht
    cases ht
  · rw [hc] at ht
    cases ht
    have hentry : x'.document.entryAt? (cwd.segments ++ [name]) = some (.file content) := by
      rw [Document.entryAt?_change hx.holds.ordered hdoc]
      exact if_pos rfl
    obtain ⟨d, hat, hd⟩ := Option.map_eq_some_iff.mp hentry
    have hlookup : x'.document.lookup ⟨cwd.segments ++ [name]⟩ = .ok d :=
      Document.lookup_eq_ok_iff.mpr hat
    rw [hx'.read_eq, Document.read, hlookup]
    cases d with
    | dir => cases hd
    | file =>
      cases hd
      rfl

/-- A change of an entry of a directory never fails because of the directory. -/
theorem Reachable.not_blames_of_change (h : t.Reachable) (hd : t.isDirectory cwd = true)
    (hc : t.change ⟨cwd, name, edit⟩ = .error e) : ¬e.Blames cwd := by
  have hentry := h.isDirectory_iff_entryAt?.mp hd
  obtain ⟨x, hx⟩ := h.represents
  rcases hx.change ⟨cwd, name, edit⟩ with ⟨e', hdoc, ht⟩ | ⟨t'', x', -, ht, -⟩
  · rw [hc] at ht
    cases ht
    rw [← hx.toDocument_eq] at hdoc
    rcases Document.change_eq_error_iff.mp hdoc with hn | ⟨-, hp⟩ | - | - | ⟨hn, -⟩
    · rintro (h | h) <;> cases h
    · exact absurd hentry hp.entryAt?_ne
    · rintro (h | h) <;> cases h
    · rintro (h | h) <;> cases h
    · rintro (h | h)
      · exact Path.ne_render hn cwd (FileError.notFound.inj h)
      · cases h
  · rw [hc] at ht
    cases ht

end Tree
end DevConsole.Files
