import DevConsole.Proofs.Files.Archive
import DevConsole.Proofs.Files.Refinement
import DevConsole.Proofs.Store.Reliable

/-!
# Loading what was saved

`Volume.Synced`: the store holds the document of a volume, or it still holds what the volume was
loaded from. Loading establishes it and changes keep it, whether accepted or refused. So a second
load finds the same document, provided that the saved text can be read, which is so exactly for a
`Shallow` document. Nothing keeps a document shallow when it is saved: the changes of `dig` make one
that is read no more (`run_dig_not_shallow`), and the default layout takes its place.
-/

namespace DevConsole.Files

namespace Document

theorem shallow_prune {d : Document} (ho : d.Ordered) (hs : d.Shallow) : d.prune.Shallow := by
  rw [shallow_iff ho] at hs
  exact (shallow_iff ho.prune).2 (Nat.le_trans d.height_prune_le hs)

end Document

namespace Tree

variable {t : Tree}

/-- A tree is built again from the document it writes out. -/
theorem Reachable.toDocument_ofDocument (h : t.Reachable) :
    (Tree.ofDocument t.toDocument).toDocument = t.toDocument := by
  obtain ⟨children, hd, ho, hn⟩ := h.toDocument_spec
  rw [hd] at ho hn ⊢
  rw [Tree.toDocument_ofDocument ho, Document.prune_eq_self hn]

theorem Reachable.parse_of_shallow (h : t.Reachable) (hs : t.toDocument.Shallow) :
    Document.parse t.toDocument.render = .ok t.toDocument := by
  obtain ⟨children, hd, ho, -⟩ := h.toDocument_spec
  rw [hd] at ho hs ⊢
  exact Document.parse_render_of_le ho ((Document.shallow_iff ho).1 hs)

theorem Reachable.parse_of_not_shallow (h : t.Reachable) (hs : ¬t.toDocument.Shallow) :
    ∃ why, Document.parse t.toDocument.render = .error (.json why) := by
  obtain ⟨children, hd, ho, -⟩ := h.toDocument_spec
  rw [hd] at ho hs ⊢
  exact Document.parse_render_of_lt ho
    (Nat.lt_of_not_le fun hle => hs ((Document.shallow_iff ho).2 hle))

/-- What is built from a text that was read is not too deep to be read again. -/
theorem shallow_ofDocument {text : String} {root : Document} (h : Document.parse text = .ok root) :
    (Tree.ofDocument root).toDocument.Shallow := by
  obtain ⟨children, rfl, ho, hs⟩ := Document.parse_spec h
  rw [Tree.toDocument_ofDocument ho]
  exact Document.shallow_prune ho hs

end Tree

/-! ## The default layout -/

theorem ordered_defaultLayout : defaultLayout.Ordered := by
  have hempty : Document.emptyDir.Ordered := .dir Entries.ordered_nil (by simp)
  have hfile : ∀ content, (Document.file content).Ordered := .file
  simp only [defaultLayout, Document.ordered_dir, List.forall_mem_cons, hempty, hfile,
    List.not_mem_nil, false_implies, implies_true, and_true]
  decide +kernel

theorem shallow_defaultLayout : defaultLayout.Shallow := by
  rw [Document.shallow_iff ordered_defaultLayout]
  decide

theorem Tree.toDocument_ofDefaultLayout : Tree.ofDefaultLayout.toDocument = defaultLayout := by
  have hprune : defaultLayout.prune = defaultLayout := rfl
  exact (Tree.toDocument_ofDocument ordered_defaultLayout).trans hprune

namespace Volume

variable {σ : Type} [Backend σ] {up : σ → Prop} {v : Volume} {s : Store σ}

/-- The volume can be loaded from the store again, if its document can be read at all. -/
structure Synced (up : σ → Prop) (v : Volume) (s : Store σ) : Prop where
  reachable : v.tree.Reachable
  attached : v.attached = true
  up : up s.backend
  stored : s.get? Key.fs = some v.tree.toDocument.render ∨
    ∃ root, stored? s = some root ∧ v.tree = .ofDocument root

theorem synced_save (h : Backend.Reliable up) (hs : up s.backend) (hv : v.tree.Reachable)
    (ha : v.attached = true) : Synced up v (v.save s) := by
  have hsave : v.save s = s.set Key.fs v.tree.toDocument.render := by rw [save, if_pos ha]
  rw [hsave]
  exact ⟨hv, ha, h.set_up hs _ _, .inl (Store.get?_set h hs _ _)⟩

theorem synced_load (h : Backend.Reliable up) (hs : up s.backend) :
    Synced up (load s).1 (load s).2 := by
  unfold load
  split
  · rename_i root hroot
    exact ⟨.ofDocument root, rfl, hs, .inr ⟨root, hroot, rfl⟩⟩
  · exact synced_save h hs .ofDefaultLayout rfl

/-- A refused change leaves volume and store alone, an accepted one is saved. -/
theorem Synced.change (h : Backend.Reliable up) (hv : Synced up v s) (c : Change) :
    Synced up (v.change c s).1 (v.change c s).2 := by
  rw [Volume.change_eq]
  split
  · rename_i t ht
    have hreach : t.Reachable := by
      have hstep : v.tree.step c = t := by rw [Tree.step_eq, ht]
      rw [← hstep]
      exact .step c hv.reachable
    exact synced_save h hv.up hreach hv.attached
  · exact hv

theorem Synced.run (h : Backend.Reliable up) {p : Volume × Store σ} (hp : Synced up p.1 p.2)
    (cs : List Change) : Synced up (Volume.run cs p).1 (Volume.run cs p).2 := by
  induction cs generalizing p with
  | nil => exact hp
  | cons c cs ih => exact ih (hp.change h c)

/-- A shallow document is loaded again, and nothing is written. -/
theorem Synced.load_of_shallow (hv : Synced up v s) (hd : v.tree.toDocument.Shallow) :
    (load s).1.tree.toDocument = v.tree.toDocument ∧ (load s).2 = s := by
  obtain ⟨root, hroot, htree⟩ : ∃ root, stored? s = some root ∧
      (Tree.ofDocument root).toDocument = v.tree.toDocument := by
    rcases hv.stored with htext | ⟨root, hroot, htree⟩
    · refine ⟨v.tree.toDocument, ?_, hv.reachable.toDocument_ofDocument⟩
      rw [stored?, htext]
      simp only [hv.reachable.parse_of_shallow hd]
      rfl
    · exact ⟨root, hroot, by rw [htree]⟩
  have hload : load s = (⟨.ofDocument root, true⟩, s) := by rw [load, hroot]
  rw [hload]
  exact ⟨htree, rfl⟩

/-- A document that is not shallow is lost. -/
theorem Synced.load_of_not_shallow (hv : Synced up v s) (hd : ¬v.tree.toDocument.Shallow) :
    (load s).1.tree.toDocument = defaultLayout := by
  have hnone : stored? s = none := by
    rcases hv.stored with htext | ⟨root, hroot, htree⟩
    · obtain ⟨why, hwhy⟩ := hv.reachable.parse_of_not_shallow hd
      rw [stored?, htext]
      simp only [hwhy]
      rfl
    · unfold stored? at hroot
      split at hroot
      · cases hroot
      · rename_i text htext
        cases hparse : Document.parse text with
        | error e =>
          rw [hparse] at hroot
          cases hroot
        | ok root' =>
          rw [hparse] at hroot
          cases hroot
          exact absurd (Tree.shallow_ofDocument hparse) (htree ▸ hd)
  rw [load, hnone]
  exact Tree.toDocument_ofDefaultLayout

/-! ## Digging -/

/-- The way down `n` directories named `d`. -/
def digPath (n : Nat) : List String := List.replicate n "d"

/-- The changes that make a directory `d` in the root, another one in that, and so on. -/
def dig : Nat → List Change
  | 0 => []
  | n + 1 => dig n ++ [⟨⟨digPath n⟩, "d", .makeDirectory⟩]

theorem digPath_succ (n : Nat) : digPath (n + 1) = digPath n ++ ["d"] := List.replicate_succ'

/-- Where there is a directory and nothing in it, there is another one after the change. -/
theorem dig_step {t : Tree} (h : t.Reachable) {n : Nat}
    (hdir : t.toDocument.entryAt? (digPath n) = some .directory)
    (hnone : t.toDocument.entryAt? (digPath (n + 1)) = none) :
    ∃ t', t.change ⟨⟨digPath n⟩, "d", .makeDirectory⟩ = .ok t' ∧ t'.Reachable ∧
      t'.toDocument.entryAt? (digPath (n + 1)) = some .directory ∧
      t'.toDocument.entryAt? (digPath (n + 2)) = none := by
  obtain ⟨x, hx⟩ := h.represents
  rw [hx.toDocument_eq] at hdir hnone
  have htarget : Change.target ⟨⟨digPath n⟩, "d", .makeDirectory⟩ = digPath (n + 1) :=
    (digPath_succ n).symm
  rcases hx.change ⟨⟨digPath n⟩, "d", .makeDirectory⟩ with ⟨e, hd, -⟩ | ⟨t', x', hd, ht, hx'⟩
  · have hvalid : Path.validName "d" = true := by decide
    rcases Document.change_eq_error_iff.1 hd with hname | ⟨_, hpath⟩ | ⟨_, _, _, hpresent⟩ | _ | _
    · rw [hvalid] at hname
      cases hname
    · exact absurd hdir hpath.entryAt?_ne
    · exact absurd (htarget ▸ hnone) hpresent
    · contradiction
    · contradiction
  · have hafter := Document.entryAt?_change hx.holds.ordered hd
    refine ⟨t', ht, ⟨?_, ?_, ?_⟩⟩
    · have hstep : t.step ⟨⟨digPath n⟩, "d", .makeDirectory⟩ = t' := by rw [Tree.step_eq, ht]
      rw [← hstep]
      exact .step _ h
    · rw [hx'.toDocument_eq, hafter, Change.entryAfter, if_pos htarget.symm]
      rfl
    · have hbelow : digPath (n + 1) <+: digPath (n + 2) :=
        ⟨["d"], (digPath_succ (n + 1)).symm⟩
      have hne : digPath (n + 2) ≠ digPath (n + 1) := fun he => by
        have hlength := congrArg List.length he
        simp [digPath] at hlength
      rw [hx'.toDocument_eq, hafter, Change.entryAfter, htarget, if_neg hne, if_pos hbelow]

theorem run_dig {p : Volume × Store σ} (h : p.1.tree.Reachable)
    (hd : p.1.tree.toDocument.entryAt? (digPath 1) = none) (n : Nat) :
    (Volume.run (dig n) p).1.tree.Reachable ∧
      (Volume.run (dig n) p).1.tree.toDocument.entryAt? (digPath n) = some .directory ∧
      (Volume.run (dig n) p).1.tree.toDocument.entryAt? (digPath (n + 1)) = none := by
  induction n with
  | zero =>
    obtain ⟨children, hroot, -⟩ := h.toDocument_spec
    refine ⟨h, ?_, hd⟩
    show p.1.tree.toDocument.entryAt? [] = some .directory
    rw [hroot]
    rfl
  | succ n ih =>
    obtain ⟨hreach, hdir, hnone⟩ := ih
    obtain ⟨t', ht, hreach', hdir', hnone'⟩ := dig_step hreach hdir hnone
    have hrun : Volume.run (dig (n + 1)) p = (Volume.run (dig n) p).1.change
        ⟨⟨digPath n⟩, "d", .makeDirectory⟩ (Volume.run (dig n) p).2 := by
      rw [dig, Volume.run, List.foldl_append]
      rfl
    rw [hrun, Volume.change_eq, ht]
    exact ⟨hreach', hdir', hnone'⟩

/-- Nothing keeps a document from growing too deep to be read. -/
theorem run_dig_not_shallow {p : Volume × Store σ} (h : p.1.tree.Reachable)
    (hd : p.1.tree.toDocument.entryAt? (digPath 1) = none) {n : Nat}
    (hn : Document.maxLevels < n) : ¬(Volume.run (dig n) p).1.tree.toDocument.Shallow := by
  intro hs
  obtain ⟨-, hdir, -⟩ := run_dig h hd n
  obtain ⟨e, he, -⟩ := Option.map_eq_some_iff.1 hdir
  have hlength := hs (digPath n) (by rw [he]; rfl)
  simp only [digPath, List.length_replicate] at hlength
  omega

/-! ## The reload law and its limit -/

/-- Whatever was changed since a volume was loaded, loading it again gives the same document exactly
if no node of it lies more than `maxLevels` levels below the root. Otherwise the saved text is
malformed to the reader, and the default layout comes in its place. -/
theorem load_run (h : Backend.Reliable up) (hs : up s.backend) (cs : List Change) :
    let p := Volume.run cs (load s)
    ((load p.2).1.tree.toDocument = p.1.tree.toDocument ↔ p.1.tree.toDocument.Shallow) ∧
      (¬p.1.tree.toDocument.Shallow → (load p.2).1.tree.toDocument = defaultLayout) := by
  intro p
  have hp : Synced up p.1 p.2 := (synced_load h hs).run h cs
  refine ⟨⟨fun heq => ?_, fun hd => (hp.load_of_shallow hd).1⟩, hp.load_of_not_shallow⟩
  apply Classical.byContradiction
  intro hd
  rw [hp.load_of_not_shallow hd] at heq
  exact hd (heq ▸ shallow_defaultLayout)

/-- The default layout with a directory and a file added comes back. -/
theorem load_run_added :
    let p := Volume.run [⟨.root, "a", .makeDirectory⟩, ⟨⟨["a"]⟩, "b", .writeFile "x"⟩]
      (load (⟨{}, []⟩ : Store MemoryStore))
    p.1.tree.toDocument.Shallow ∧ (load p.2).1.tree.toDocument = p.1.tree.toDocument := by
  have hup : ({} : MemoryStore).failReads = false ∧ ({} : MemoryStore).failWrites = false :=
    ⟨rfl, rfl⟩
  have hp := (synced_load MemoryStore.reliable (s := ⟨{}, []⟩) hup).run MemoryStore.reliable
    [⟨.root, "a", .makeDirectory⟩, ⟨⟨["a"]⟩, "b", .writeFile "x"⟩]
  have hlaw := load_run MemoryStore.reliable (s := ⟨{}, []⟩) hup
    [⟨.root, "a", .makeDirectory⟩, ⟨⟨["a"]⟩, "b", .writeFile "x"⟩]
  obtain ⟨_, _, ho, _⟩ := hp.reachable.toDocument_spec
  have hs := (Document.shallow_iff ho).2 (by decide +kernel)
  exact ⟨hs, hlaw.1.2 hs⟩

/-- Sixty-three directories in one another are all made, and lost when the volume is loaded
again. -/
theorem load_run_dig :
    (run (dig 63) (load (⟨{}, []⟩ : Store MemoryStore))).1.tree.toDocument.entryAt? (digPath 63) =
      some .directory ∧
    (load (run (dig 63) (load (⟨{}, []⟩ : Store MemoryStore))).2).1.tree.toDocument.entryAt?
      (digPath 63) = none := by
  have hload := synced_load MemoryStore.reliable (s := ⟨{}, []⟩) ⟨rfl, rfl⟩
  have hnone : (load (⟨{}, []⟩ : Store MemoryStore)).1.tree.toDocument.entryAt? (digPath 1) =
      none := by
    show Tree.ofDefaultLayout.toDocument.entryAt? (digPath 1) = none
    rw [Tree.toDocument_ofDefaultLayout]
    decide
  have hlevels : Document.maxLevels < 63 := Nat.lt_succ_self 62
  have hdeep := run_dig_not_shallow hload.reachable hnone hlevels
  have hlost := (hload.run MemoryStore.reliable (dig 63)).load_of_not_shallow hdeep
  refine ⟨(run_dig hload.reachable hnone 63).2.1, ?_⟩
  rw [hlost]
  decide

end Volume

end DevConsole.Files
