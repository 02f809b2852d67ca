import DevConsole.Proofs.Files.Edits

/-!
# Trees built from documents

`Document.planted` is what `Tree.graft` makes of a document: entries are put in one after the other,
and one whose name is not valid or is already there is left out. Of an ordered document only the
names that are not valid are lost (`planted_eq_prune`).
-/

namespace DevConsole.Files

namespace Document

mutual

/-- The document that a tree built from this one holds. -/
def planted : Document → Document
  | .file content => .file content
  | .dir children => .dir (plant children [])

/-- Puts entries in, one after the other. -/
def plant : List (String × Document) → Entries Document → Entries Document
  | [], done => done
  | (name, d) :: rest, done =>
    plant rest (if Path.validName name && !done.contains name then done.insert name (planted d)
      else done)

end

/-- Entries in order, all behind those that are already there, go to the end. -/
theorem plant_eq_append {children done : Entries Document}
    (ho : Entries.Ordered (done ++ children)) (hp : ∀ e ∈ children, e.2.planted = e.2.prune) :
    plant children done = done ++ pruneChildren children := by
  induction children generalizing done with
  | nil => simp [plant, pruneChildren]
  | cons p children ih =>
    obtain ⟨name, d⟩ := p
    have hlt : ∀ e ∈ done, e.1 < name := by
      intro e he
      simp only [Entries.Ordered, Entries.names, List.map_append, List.map_cons,
        List.pairwise_append] at ho
      exact ho.2.2 _ (List.mem_map_of_mem he) _ List.mem_cons_self
    have hp' : ∀ e ∈ children, e.2.planted = e.2.prune := fun e he =>
      hp e (List.mem_cons_of_mem _ he)
    cases hv : Path.validName name with
    | false =>
      have ho' : Entries.Ordered (done ++ children) := by
        refine List.Pairwise.sublist (List.Sublist.map _ ?_) ho
        exact List.Sublist.append_left (List.sublist_cons_self _ _) _
      simp only [plant, pruneChildren, hv, Bool.false_and, if_neg Bool.false_ne_true]
      exact ih ho' hp'
    | true =>
      have hnone : done.contains name = false := by
        cases hf : Entries.find? name done with
        | none => simp [Entries.contains, hf]
        | some e => exact absurd (hlt _ (Entries.mem_of_find? hf)) (String.lt_irrefl name)
      have hd : d.planted = d.prune := hp _ List.mem_cons_self
      have ho' : Entries.Ordered ((done ++ [(name, d.prune)]) ++ children) := by
        simpa [Entries.Ordered, Entries.names] using ho
      simp only [plant, pruneChildren, hv, hnone, Bool.not_false, Bool.and_true, if_true, hd,
        Entries.insert_of_forall_lt hlt]
      rw [ih ho' hp', List.append_assoc]
      rfl

theorem planted_eq_prune {d : Document} (h : d.Ordered) : d.planted = d.prune := by
  induction h with
  | file content => rfl
  | dir ho _ ih => rw [planted, prune, plant_eq_append (by simpa using ho) ih, List.nil_append]

end Document

namespace Arena

variable {a a' : Arena} {frame : Multiset NodeId} {id : NodeId} {rows : Entries Placed}

/-- In `a'` the directory in cell `id` has these entries, and `frame` is as it was in `a`. -/
def Rebuilt (a a' : Arena) (frame : Multiset NodeId) (id : NodeId) (entries : Entries Document) :
    Prop :=
  ∃ rows, a'.HoldsDir id rows ∧ a'.Framed frame (.dir id rows) ∧ Agree frame a a' ∧
    Entries.mapValues Placed.document rows = entries

/-- Grafting adds what planting does, at whatever directory. -/
def Grafts (children : Entries Document) : Prop :=
  ∀ ⦃a frame id rows⦄, a.Framed frame (.dir id rows) → a.HoldsDir id rows →
    Rebuilt a (Tree.graft id children a) frame id
      (Document.plant children (rows.mapValues Placed.document))

/-- An entry is added if its name is valid and new, with what its document grafts below it. -/
theorem Framed.graftEntry (h : a.Framed frame (.dir id rows)) (hd : a.HoldsDir id rows)
    {d : Document} (hg : ∀ children, d = .dir children → Grafts children) (name : String) :
    Rebuilt a (Tree.graftEntry id name d a) frame id
      (if Path.validName name && !(rows.mapValues Placed.document).contains name then
        (rows.mapValues Placed.document).insert name d.planted
      else rows.mapValues Placed.document) := by
  have hsame : Rebuilt a a frame id (rows.mapValues Placed.document) :=
    ⟨rows, hd, h, fun _ _ => rfl, rfl⟩
  cases hv : Path.validName name with
  | false => cases d <;> simpa [Tree.graftEntry, hv] using hsame
  | true =>
    cases hf : rows.find? name with
    | some x =>
      cases d <;>
        simpa [Tree.graftEntry, hv, Entries.contains, Entries.find?_mapValues, hf, insertChild_eq,
          hd.addChild_present hf] using hsame
    | none =>
      have hcond : (true && !(rows.mapValues Placed.document).contains name) = true := by
        simp [Entries.contains, Entries.find?_mapValues, hf]
      rw [if_pos hcond]
      cases d with
      | file content =>
        obtain ⟨a', hins, -, hd', hfr, hag⟩ :=
          h.addChild hd hv hf (.file a.nextId content) rfl rfl fun a' hn => .file hn
        have ha' : Tree.graftEntry id name (.file content) a = a' := by
          simp [Tree.graftEntry, hv, insertChild_eq, hins]
        rw [ha']
        exact ⟨_, hd', hfr, hag, Entries.mapValues_insert Placed.document _ _ _⟩
      | dir children =>
        have hempty : ∀ a' : Arena, a'.node? a.nextId = some (.directory []) →
            a'.HoldsDir a.nextId [] := fun a' hn => ⟨hn, Entries.ordered_nil, by simp, by simp⟩
        obtain ⟨a₁, hins, hn₁, hd₁, hfr₁, hag₁⟩ :=
          h.addChild hd hv hf (.dir a.nextId []) rfl rfl fun a' hn =>
            (hempty a' hn).toHolds
        have ha' : Tree.graftEntry id name (.dir children) a =
            Tree.graft a.nextId children a₁ := by simp [Tree.graftEntry, hv, insertChild_eq, hins]
        rw [ha']
        -- below the new entry, and back
        have hfind : (rows.insert name (.dir a.nextId [])).find? name =
            some (.dir a.nextId []) := by rw [Entries.find?_insert, if_pos rfl]
        obtain ⟨below, -, hfr₂, hag₂, hdocs⟩ :=
          hg children rfl (hfr₁.child hd₁ hfind) (hempty a₁ hn₁)
        obtain ⟨hd₂, hfr⟩ := Framed.putBack hd₁ hfind hfr₂ rfl hag₂
        refine ⟨_, hd₂, hfr, fun i hi => ?_, ?_⟩
        · rw [hag₂.mono le_frameOfChild i hi, hag₁ i hi]
        · rw [Entries.insert_insert, Entries.mapValues_insert, Placed.dir, hdocs]
          rfl

theorem grafts_of_forall {children : Entries Document}
    (h : ∀ e ∈ children, ∀ below, e.2 = .dir below → Grafts below) : Grafts children := by
  induction children with
  | nil => exact fun _ _ _ _ hfr hd => ⟨_, hd, hfr, fun _ _ => rfl, rfl⟩
  | cons p children ih =>
    obtain ⟨name, d⟩ := p
    intro a frame id rows hfr hd
    obtain ⟨rows₁, hd₁, hfr₁, hag₁, hdocs₁⟩ :=
      hfr.graftEntry hd (h (name, d) List.mem_cons_self) name
    obtain ⟨rows₂, hd₂, hfr₂, hag₂, hdocs₂⟩ :=
      ih (fun e he => h e (List.mem_cons_of_mem _ he)) hfr₁ hd₁
    refine ⟨rows₂, hd₂, hfr₂, fun i hi => (hag₂ i hi).trans (hag₁ i hi), ?_⟩
    rw [hdocs₂, hdocs₁]
    rfl

theorem grafts (children : Entries Document) : Grafts children := by
  suffices ∀ d : Document, ∀ below, d = .dir below → Grafts below from this _ _ rfl
  intro d
  induction d using Document.induct with
  | file content => exact fun _ h => nomatch h
  | dir children ih =>
    rintro _ ⟨⟩
    exact grafts_of_forall ih

end Arena

end DevConsole.Files
