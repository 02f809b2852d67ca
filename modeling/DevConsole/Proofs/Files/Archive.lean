import DevConsole.Files.Archive
import DevConsole.Proofs.Files.Document
import DevConsole.Proofs.Json.Decoding

/-!
# The theory of saved documents

A node takes up one object in the saved form, a directory one more for its children. So the saved
form is nested about twice as deeply as the document (`ofJson?_spec`, `depth_toJson_le`), and it is
within the limit of the reader exactly if no node lies more than `maxLevels` levels below the root
(`depth_saved_le_iff`). Such a document is read back as it was, whatever its names and contents are.
-/

namespace DevConsole

namespace Files.Document

/-! ## Writing -/

theorem childrenToJson_eq (children : Entries Document) :
    childrenToJson children = children.mapValues toJson := by
  induction children with
  | nil => rfl
  | cons p children ih => rw [childrenToJson, ih, Entries.mapValues_cons]

/-- A document is saved without numbers. -/
theorem plain_toJson (d : Document) : d.toJson.Plain := by
  induction d using induct with
  | file content =>
    refine .object fun m hm => ?_
    simp only [List.mem_cons, List.not_mem_nil, or_false] at hm
    rcases hm with rfl | rfl
    · exact .string _
    · exact .string _
  | dir children ih =>
    refine .object fun m hm => ?_
    simp only [List.mem_cons, List.not_mem_nil, or_false] at hm
    rcases hm with rfl | rfl
    · exact .string _
    · refine .object fun m hm => ?_
      rw [childrenToJson_eq] at hm
      obtain ⟨e, he, rfl⟩ := List.mem_map.1 hm
      exact ih e he

theorem depth_toJson_dir (children : Entries Document) :
    (dir children).toJson.depth = 2 + Json.depthMembers (children.mapValues toJson) := by
  simp only [toJson, Json.depth, Json.depthMembers, childrenToJson_eq]
  omega

theorem depth_toJson_le (d : Document) : d.toJson.depth ≤ 2 * d.height + 2 := by
  induction d using induct with
  | file content => exact Nat.le_succ 1
  | dir children ih =>
    rw [depth_toJson_dir]
    have : Json.depthMembers (children.mapValues toJson) ≤ 2 * (dir children).height := by
      rw [Json.depthMembers_le_iff]
      intro m hm
      obtain ⟨e, he, rfl⟩ := List.mem_map.1 hm
      have hle := ih e he
      have hlt := height_lt_of_mem he
      simp only
      omega
    omega

/-! ## Reading -/

theorem ofBody?_cases {children? : Json → Option (Entries Document)} {kind : Kind}
    {body : Option Json} {d : Document} (h : ofBody? children? kind body = some d) :
    (∃ content, d = .file content) ∨ d = .dir [] ∨
      ∃ v children, body = some v ∧ children? v = some children ∧ d = .dir children := by
  cases kind with
  | file =>
    cases body with
    | none =>
      cases h
      exact .inl ⟨_, rfl⟩
    | some v =>
      obtain ⟨content, -, rfl⟩ := Option.map_eq_some_iff.1 h
      exact .inl ⟨content, rfl⟩
  | dir =>
    cases body with
    | none =>
      cases h
      exact .inr (.inl rfl)
    | some v =>
      obtain ⟨children, hc, rfl⟩ := Option.map_eq_some_iff.1 h
      exact .inr (.inr ⟨v, children, rfl, hc, rfl⟩)

/-- Children that are read are in order, and nested at most half as deeply as what they are read
from. -/
theorem entries?_spec {decode : Json → Option Document} {v : Json} {children : Entries Document}
    (hdecode : ∀ w d, decode w = some d → d.Ordered ∧ 2 * d.height < w.depth)
    (h : Json.entries? decode v = some children) :
    (dir children).Ordered ∧ 2 * (dir children).height ≤ v.depth := by
  obtain ⟨members, rfl, hall⟩ := Json.mem_of_entries? h
  have hread : ∀ e ∈ children, e.2.Ordered ∧ 2 * e.2.height < Json.depthMembers members := by
    intro e he
    obtain ⟨w, hm, hw⟩ := hall e he
    obtain ⟨ho, hlt⟩ := hdecode w e.2 hw
    exact ⟨ho, Nat.lt_of_lt_of_le hlt (Json.depthMembers_le_iff.1 (Nat.le_refl _) _ hm)⟩
  refine ⟨.dir (Json.ordered_of_entries? h) fun e he => (hread e he).1, ?_⟩
  have hle : (dir children).height ≤ (1 + Json.depthMembers members) / 2 := by
    rw [height, heightChildren_le_iff]
    intro e he
    have hlt := (hread e he).2
    omega
  rw [Json.depth]
  omega

/-- In both of its forms a node is nested more deeply than the body it comes with. -/
theorem ofBody?_spec {decode : Json → Option Document} {kind : Kind} {body : Option Json}
    {d : Document} {depth : Nat}
    (hdecode : ∀ w d, decode w = some d → d.Ordered ∧ 2 * d.height < w.depth)
    (h : ofBody? (Json.entries? decode) kind body = some d) (hpos : 0 < depth)
    (hlt : ∀ w, body = some w → w.depth < depth) : d.Ordered ∧ 2 * d.height < depth := by
  rcases ofBody?_cases h with ⟨content, rfl⟩ | rfl | ⟨w, children, rfl, hc, rfl⟩
  · exact ⟨.file content, hpos⟩
  · exact ⟨.dir Entries.ordered_nil (by simp), hpos⟩
  · obtain ⟨ho, hle⟩ := entries?_spec hdecode hc
    exact ⟨ho, Nat.lt_of_le_of_lt hle (hlt w rfl)⟩

/-- A node that is read is in order, and nested less than half as deeply as what it is read
from. -/
theorem ofJson?_spec {levels : Nat} {belowRoot : Bool} {v : Json} {d : Document}
    (h : ofJson? levels belowRoot v = some d) : d.Ordered ∧ 2 * d.height < v.depth := by
  induction levels generalizing belowRoot v d with
  | zero => cases h
  | succ levels ih =>
    cases v with
    | object members =>
      simp only [ofJson?, bind, Option.bind_eq_some_iff] at h
      obtain ⟨_, _, tag, _, kind, _, body, hm, hd⟩ := h
      refine ofBody?_spec (fun _ _ => ih) hd (by rw [Json.depth]; omega) fun w hw => ?_
      have hmem := Json.mem_of_member? (hw ▸ hm)
      have hle := Json.depthMembers_le_iff.1 (Nat.le_refl _) _ hmem
      rw [Json.depth]
      simp only at hle
      omega
    | array items =>
      cases items with
      | nil => cases h
      | cons tag body =>
        simp only [ofJson?, bind, Option.bind_eq_some_iff] at h
        obtain ⟨kind, -, hd⟩ := h
        have hpos : 0 < (Json.array (tag :: body)).depth := by
          rw [Json.depth]
          omega
        have hitem : ∀ w ∈ body, w.depth < (Json.array (tag :: body)).depth := fun w hw => by
          have hle := Json.depthItems_le_iff.1 (Nat.le_refl (Json.depthItems (tag :: body))) w
            (List.mem_cons_of_mem _ hw)
          rw [Json.depth]
          omega
        match body, hd with
        | [], hd => exact ofBody?_spec (fun _ _ => ih) hd hpos fun w hw => nomatch hw
        | [w], hd =>
          refine ofBody?_spec (fun _ _ => ih) hd hpos fun u hu => ?_
          cases hu
          exact hitem w List.mem_cons_self
    | _ => cases h

/-- A saved node is read back. -/
theorem ofJson?_toJson {d : Document} (h : d.Ordered) {levels : Nat} (hl : d.height < levels)
    (belowRoot : Bool) : ofJson? levels belowRoot d.toJson = some d := by
  induction h generalizing levels belowRoot with
  | file content =>
    obtain ⟨n, rfl⟩ : ∃ n, levels = n + 1 := ⟨levels - 1, by omega⟩
    rfl
  | @dir children ho _ ih =>
    obtain ⟨n, rfl⟩ : ∃ n, levels = n + 1 := ⟨levels - 1, by omega⟩
    have hstep : ofJson? (n + 1) belowRoot (dir children).toJson =
        (Json.entries? (ofJson? n true) (.object (childrenToJson children))).map .dir := rfl
    have hchildren : ∀ e ∈ children, ofJson? n true e.2.toJson = some e.2 := fun e he =>
      ih e he (Nat.lt_of_lt_of_le (height_lt_of_mem he) (Nat.le_of_lt_succ hl)) true
    rw [hstep, childrenToJson_eq, Json.entries?_mapValues ho hchildren, Option.map_some]

/-- The saved form as a value, with the root under its name. -/
def saved (root : Document) : Json := .object [(rootName, root.toJson)]

theorem plain_saved (root : Document) : root.saved.Plain := by
  refine .object fun m hm => ?_
  rw [List.mem_singleton.1 hm]
  exact root.plain_toJson

theorem entries?_saved {root : Document} (h : root.Ordered) {levels : Nat}
    (hl : root.height < levels) :
    Json.entries? (ofJson? levels false) root.saved = some [(rootName, root)] := by
  have ho : Entries.Ordered [(rootName, root)] :=
    Entries.ordered_cons.2 ⟨by simp, Entries.ordered_nil⟩
  have hroot : ∀ e ∈ [(rootName, root)], ofJson? levels false e.2.toJson = some e.2 := by
    intro e he
    rw [List.mem_singleton.1 he]
    exact ofJson?_toJson h hl false
  exact Json.entries?_mapValues ho hroot

/-! ## The limit -/

/-- The deepest level below the root that a saved document may have. -/
def maxLevels : Nat := 62

/-- No node lies more than `maxLevels` levels below the root. -/
def Shallow (d : Document) : Prop := ∀ path, (d.at? path).isSome → path.length ≤ maxLevels

theorem shallow_iff {d : Document} (h : d.Ordered) : d.Shallow ↔ d.height ≤ maxLevels :=
  (height_le_iff h).symm

/-- The saved form of a directory is within the limit of nesting exactly if no node lies more than
`maxLevels` levels below. -/
theorem depth_saved_le_iff {children : Entries Document} (h : (dir children).Ordered) :
    (dir children).saved.depth ≤ Json.maxDepth ↔ (dir children).height ≤ maxLevels := by
  have hspec := ofJson?_spec (ofJson?_toJson h (Nat.lt_succ_self _) true)
  have hle := depth_toJson_le (dir children)
  have hdepth : (dir children).saved.depth = 1 + (dir children).toJson.depth := by
    simp [saved, Json.depth, Json.depthMembers]
  rw [hdepth, Json.maxDepth, maxLevels]
  omega

theorem parse_render_of_le {children : Entries Document} (h : (dir children).Ordered)
    (hl : (dir children).height ≤ maxLevels) :
    parse (dir children).render = .ok (dir children) := by
  have hread : Json.read (dir children).render = some (dir children).saved := by
    rw [render, ← saved, Json.read_compact (plain_saved _), if_pos ((depth_saved_le_iff h).2 hl)]
  have hlevels : (dir children).height < Json.maxDepth + 1 :=
    Nat.lt_of_le_of_lt hl (by decide)
  rw [parse, hread, Option.bind_some, entries?_saved h hlevels]
  simp [Entries.find?]

theorem parse_render_of_lt {children : Entries Document} (h : (dir children).Ordered)
    (hl : maxLevels < (dir children).height) :
    ∃ why, parse (dir children).render = .error (.json why) := by
  have hread : Json.read (dir children).render = none := by
    rw [render, ← saved, Json.read_compact (plain_saved _), if_neg]
    rw [depth_saved_le_iff h]
    exact Nat.not_le_of_lt hl
  refine ⟨"not a filesystem document", ?_⟩
  rw [parse, hread]
  rfl

/-- What is read is a directory in order, and no node of it lies too deep. -/
theorem parse_spec {text : String} {d : Document} (h : parse text = .ok d) :
    ∃ children, d = dir children ∧ d.Ordered ∧ d.Shallow := by
  unfold parse at h
  split at h
  · cases h
  · rename_i top htop
    obtain ⟨v, hread, hentries⟩ := Option.bind_eq_some_iff.1 htop
    split at h
    · rename_i children hroot
      cases h
      obtain ⟨members, rfl, hall⟩ := Json.mem_of_entries? hentries
      obtain ⟨w, hw, hd⟩ := hall _ (Entries.mem_of_find? hroot)
      obtain ⟨ho, hlt⟩ := ofJson?_spec hd
      have hle := Json.depthMembers_le_iff.1 (Nat.le_refl _) _ hw
      have hmax : (Json.object members).depth ≤ Json.maxDepth := by
        have hkept := (Option.filter_eq_some_iff.1 hread).2
        simp only [Bool.and_eq_true, decide_eq_true_eq] at hkept
        exact hkept.2
      refine ⟨children, rfl, ho, (shallow_iff ho).2 ?_⟩
      rw [Json.depth, Json.maxDepth] at hmax
      rw [maxLevels]
      simp only at hle
      omega
    · cases h
    · cases h

/-- A saved directory is read back as it was if no node lies too deep, and refused as malformed
otherwise. It is never taken for another one, nor is it saved as another one is. -/
theorem parse_render {children : Entries Document} (h : (dir children).Ordered) :
    ((dir children).Shallow → parse (dir children).render = .ok (dir children)) ∧
    (¬(dir children).Shallow → ∃ why, parse (dir children).render = .error (.json why)) ∧
    (∀ d, parse (dir children).render = .ok d → d = dir children) ∧
    ∀ children' : Entries Document, (dir children').Ordered → (dir children').Shallow →
      (dir children).render = (dir children').render → children = children' := by
  have hshallow : (dir children).Shallow → parse (dir children).render = .ok (dir children) :=
    fun hs => parse_render_of_le h ((shallow_iff h).1 hs)
  have hdeep : ¬(dir children).Shallow →
      ∃ why, parse (dir children).render = .error (.json why) := fun hs =>
    parse_render_of_lt h (Nat.lt_of_not_le fun hle => hs ((shallow_iff h).2 hle))
  have honly : ∀ d, parse (dir children).render = .ok d → d = dir children := by
    intro d hd
    by_cases hs : (dir children).Shallow
    · rw [hshallow hs] at hd
      cases hd
      rfl
    · obtain ⟨why, hwhy⟩ := hdeep hs
      rw [hwhy] at hd
      cases hd
  refine ⟨hshallow, hdeep, honly, fun children' h' hs' heq => ?_⟩
  have hread := parse_render_of_le h' ((shallow_iff h').1 hs')
  rw [← heq] at hread
  exact (dir.inj (honly _ hread)).symm

/-- Names and contents that need escapes, and a name that no path can spell. -/
theorem parse_render_escapes :
    let d := dir [("\x01", .file "\\"), ("\"", .file "\n"), ("a/b", .dir [])]
    d.Ordered ∧ d.Shallow ∧ parse d.render = .ok d := by
  intro d
  have ho : d.Ordered := by
    refine .dir (by decide +kernel) fun e he => ?_
    simp only [List.mem_cons, List.not_mem_nil, or_false] at he
    rcases he with rfl | rfl | rfl
    · exact .file _
    · exact .file _
    · exact .dir Entries.ordered_nil (by simp)
  have hs : d.Shallow := (shallow_iff ho).2 (by decide)
  exact ⟨ho, hs, (parse_render ho).1 hs⟩

end Files.Document

end DevConsole
