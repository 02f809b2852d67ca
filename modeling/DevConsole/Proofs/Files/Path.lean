import DevConsole.Files.Path

/-!
# Valid paths

A path is `Valid` if each of its names may stand in a directory. Resolving keeps this, whatever text
is resolved (`valid_resolve`), and a valid path is read back from the text that it is shown as
(`resolve_render`), from every working directory. So two valid paths shown alike are the same
(`render_inj`), and no name is shown like a path (`ne_render`).
-/

namespace DevConsole.Files.Path

/-- Every name of the path may stand in a directory. -/
def Valid (p : Path) : Prop := ∀ name ∈ p.segments, validName name = true

instance (p : Path) : Decidable p.Valid := inferInstanceAs (Decidable (∀ _ ∈ _, _))

variable {p q cwd : Path} {name : String}

theorem validName_iff :
    validName name = true ↔ name ≠ "" ∧ name ≠ "." ∧ name ≠ ".." ∧ '/' ∉ name.toList := by
  simp [validName, and_assoc]

theorem valid_root : root.Valid := nofun

/-! ## Resolving -/

theorem not_mem_of_mem_splitOn {sep : Char} {cs piece : List Char} (h : piece ∈ cs.splitOn sep) :
    sep ∉ piece := by
  induction cs generalizing piece with
  | nil =>
    rw [List.splitOn_nil, List.mem_singleton] at h
    exact h ▸ List.not_mem_nil
  | cons c cs ih =>
    rw [List.splitOn_cons_eq_if_modifyHead] at h
    split at h
    · rcases List.mem_cons.mp h with rfl | h
      · exact List.not_mem_nil
      · exact ih h
    · rename_i hc
      obtain ⟨first, rest, hsplit⟩ := List.exists_cons_of_ne_nil (List.splitOn_ne_nil sep cs)
      rw [hsplit, List.modifyHead_cons] at h
      rcases List.mem_cons.mp h with rfl | h
      · have hfirst := ih (hsplit ▸ List.mem_cons_self)
        simp only [beq_iff_eq] at hc
        exact fun hmem => (List.mem_cons.mp hmem).elim (fun he => hc he.symm) hfirst
      · exact ih (hsplit ▸ List.mem_cons_of_mem _ h)

/-- A part of a text without a slash leads from a valid path to a valid one. -/
theorem valid_follow {segments : List String} {part : String} (h : Valid ⟨segments⟩)
    (hp : '/' ∉ part.toList) : Valid ⟨follow segments part⟩ := by
  unfold follow
  split
  · exact h
  · rename_i hempty
    split
    · exact fun name hname => h name (List.dropLast_subset _ hname)
    · rename_i hup
      intro name hname
      rcases List.mem_append.mp hname with hname | hname
      · exact h name hname
      · obtain rfl := List.mem_singleton.mp hname
        rw [not_or] at hempty
        exact validName_iff.mpr ⟨hempty.1, hempty.2, hup, hp⟩

theorem valid_foldl_follow {parts segments : List String} (h : Valid ⟨segments⟩)
    (hp : ∀ part ∈ parts, '/' ∉ part.toList) : Valid ⟨parts.foldl follow segments⟩ := by
  induction parts generalizing segments with
  | nil => exact h
  | cons part parts ih =>
    exact ih (valid_follow h (hp part List.mem_cons_self))
      fun other hother => hp other (List.mem_cons_of_mem _ hother)

/-- Whatever text is resolved from a valid path, the result is valid. -/
theorem valid_resolve (text : String) (h : cwd.Valid) : (resolve text cwd).Valid := by
  apply valid_foldl_follow
  · split
    · exact valid_root
    · exact h
  · intro part hpart
    obtain ⟨piece, hpiece, rfl⟩ := List.mem_map.mp hpart
    rw [String.toList_ofList]
    exact not_mem_of_mem_splitOn hpiece

theorem valid_parse (text : String) : (parse text).Valid := valid_resolve text valid_root

/-! ## Rendering -/

/-- The names of a path that is not the root, each behind a slash, are the pieces between the
slashes. -/
theorem toList_join_slash (segments : List String) :
    (String.join (segments.map ("/" ++ ·))).toList =
      ['/'].intercalate ([] :: segments.map String.toList) := by
  rw [String.toList_join]
  induction segments with
  | nil => rfl
  | cons name segments ih =>
    rw [List.map_cons, List.flatMap_cons, ih, String.toList_append, List.map_cons,
      List.intercalate_cons_cons]
    cases segments with
    | nil => simp
    | cons next segments => simp [List.intercalate_cons_cons]

/-- A path is shown as a slash and its names with slashes between them. -/
theorem render_eq_joinWith (names : List String) :
    render ⟨names⟩ = "/" ++ Text.joinWith "/" names := by
  have hjoin : ∀ name rest, String.join ((name :: rest).map ("/" ++ ·)) =
      "/" ++ Text.joinWith "/" (name :: rest) := by
    intro name rest
    induction rest generalizing name with
    | nil => simp [Text.joinWith]
    | cons next rest ih =>
      rw [List.map_cons, String.join_cons, ih, Text.joinWith, Text.joinWith,
        String.intercalate_cons_cons, String.append_assoc, String.append_assoc]
  cases names with
  | nil => rfl
  | cons name rest => exact hjoin name rest

theorem follow_of_validName (h : validName name = true) (before : List String) :
    follow before name = before ++ [name] := by
  obtain ⟨hempty, hdot, hup, -⟩ := validName_iff.mp h
  simp [follow, hempty, hdot, hup]

theorem foldl_follow_of_valid {segments : List String} (h : Valid ⟨segments⟩)
    (before : List String) : segments.foldl follow before = before ++ segments := by
  induction segments generalizing before with
  | nil => simp
  | cons name segments ih =>
    rw [List.foldl_cons, follow_of_validName (h name List.mem_cons_self),
      ih fun other hother => h other (List.mem_cons_of_mem _ hother), List.append_assoc,
      List.singleton_append]

/-- A name leads from a directory to its entry. -/
theorem resolve_name (h : validName name = true) (cwd : Path) :
    resolve name cwd = ⟨cwd.segments ++ [name]⟩ := by
  obtain ⟨-, -, -, hslash⟩ := validName_iff.mp h
  have hrelative : isAbsolute name = false := by
    rw [isAbsolute, beq_eq_false_iff_ne]
    exact fun hhead => hslash (List.mem_of_mem_head? hhead)
  have hwhole : Text.splitOn '/' name = [name] := by
    have hnone : ∀ c ∈ name.toList, (c == '/') = false := fun c hc =>
      beq_false_of_ne fun he => hslash (he ▸ hc)
    rw [Text.splitOn, List.splitOn, List.splitOnP_eq_singleton hnone, List.map_singleton,
      String.ofList_toList]
  rw [resolve, hwhole, hrelative, List.foldl_cons, follow_of_validName h]
  rfl

/-- What a valid path is shown as leads there from everywhere. -/
theorem resolve_render (h : p.Valid) (cwd : Path) : resolve p.render cwd = p := by
  obtain ⟨segments⟩ := p
  cases segments with
  | nil => rfl
  | cons name segments =>
    have hrender : (render ⟨name :: segments⟩).toList =
        ['/'].intercalate ([] :: (name :: segments).map String.toList) :=
      toList_join_slash (name :: segments)
    have hsplit : Text.splitOn '/' (render ⟨name :: segments⟩) = "" :: name :: segments := by
      rw [Text.splitOn, hrender, List.splitOn_intercalate '/' _ (List.cons_ne_nil _ _)]
      · simp
      · intro piece hpiece
        rcases List.mem_cons.mp hpiece with rfl | hpiece
        · exact List.not_mem_nil
        · obtain ⟨part, hpart, rfl⟩ := List.mem_map.mp hpiece
          exact (validName_iff.mp (h part hpart)).2.2.2
    have habsolute : isAbsolute (render ⟨name :: segments⟩) = true := by
      simp [isAbsolute, hrender, List.intercalate_cons_cons]
    have hfollow : follow [] "" = [] := rfl
    rw [resolve, hsplit, habsolute, if_pos rfl, List.foldl_cons, hfollow,
      foldl_follow_of_valid h, List.nil_append]

theorem render_inj (hp : p.Valid) (hq : q.Valid) (h : p.render = q.render) : p = q := by
  rw [← resolve_render hp root, h, resolve_render hq]

/-- A name of an entry is not shown like a path. -/
theorem ne_render (hn : validName name = true) (p : Path) : name ≠ p.render := by
  rintro rfl
  refine (validName_iff.mp hn).2.2.2 ?_
  unfold render
  split
  · simp
  · rename_i hsegments
    cases hp : p.segments with
    | nil => exact absurd (by rw [hp]; rfl) hsegments
    | cons first segments => simp

end DevConsole.Files.Path
