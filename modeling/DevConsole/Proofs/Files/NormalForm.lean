import DevConsole.Proofs.Files.Path

/-!
# Paths in normal form

A path is `Obtained` if it is the root, read from a text, resolved from such a path, joined to one
or above one. These are just the valid paths (`obtained_iff_valid`). So every path that comes about
is in `Normal` form: it is read back from the text that it is shown as, and a name leads from it to
the entry that joining gives.
-/

namespace DevConsole.Files.Path

variable {p q : Path} {name : String}

/-- The paths that come about. -/
inductive Obtained : Path → Prop
  | root : Obtained root
  | parse (text : String) : Obtained (parse text)
  | resolve (text : String) {cwd : Path} : Obtained cwd → Obtained (resolve text cwd)
  | join {p q : Path} {name : String} : Obtained p → p.join name = .ok q → Obtained q
  | parent {p : Path} : Obtained p → Obtained p.parent

/-- Nothing is lost where the path is shown, and its entries are reached by their names. -/
structure Normal (p : Path) : Prop where
  names : ∀ name ∈ p.segments, checkName name = .ok ()
  resolve_render : ∀ cwd, resolve p.render cwd = p
  render_inj : ∀ q, Obtained q → p.render = q.render → p = q
  resolve_again : ∀ text, resolve (resolve text p).render p = resolve text p
  join : ∀ name, checkName name = .ok () →
    p.join name = .ok (resolve name p) ∧ (resolve name p).parent = p ∧
      (resolve name p).name? = some name
  refuses : ∀ name, checkName name ≠ .ok () → p.join name = .error (.invalidName name)

/-! ## Joining -/

theorem checkName_eq_ok_iff : checkName name = .ok () ↔ validName name = true := by
  unfold checkName
  split <;> simp_all

theorem join_of_valid (h : validName name = true) (p : Path) :
    p.join name = .ok ⟨p.segments ++ [name]⟩ := by
  rw [join, checkName_eq_ok_iff.mpr h]
  rfl

theorem join_of_not_valid (h : validName name ≠ true) (p : Path) :
    p.join name = .error (.invalidName name) := by
  rw [join, checkName, if_neg h]
  rfl

theorem valid_join (hp : p.Valid) (h : p.join name = .ok q) : q.Valid := by
  by_cases hn : validName name = true
  · rw [join_of_valid hn] at h
    cases h
    exact List.forall_mem_append.mpr ⟨hp, List.forall_mem_singleton.mpr hn⟩
  · rw [join_of_not_valid hn] at h
    cases h

theorem valid_parent (h : p.Valid) : p.parent.Valid :=
  fun name hname => h name (List.dropLast_subset _ hname)

/-! ## Obtained paths -/

theorem Obtained.valid (h : p.Obtained) : p.Valid := by
  induction h with
  | root => exact valid_root
  | parse text => exact valid_parse text
  | resolve text _ ih => exact valid_resolve text ih
  | join _ hjoin ih => exact valid_join ih hjoin
  | parent _ ih => exact valid_parent ih

/-- Every valid path is obtained, for instance from the text that it is shown as. -/
theorem obtained_iff_valid : p.Obtained ↔ p.Valid := by
  refine ⟨Obtained.valid, fun h => ?_⟩
  have hparse := Obtained.parse p.render
  rwa [parse, Path.resolve_render h] at hparse

/-- Every path that comes about is in normal form. -/
theorem Obtained.normal (h : p.Obtained) : p.Normal where
  names name hname := checkName_eq_ok_iff.mpr (h.valid name hname)
  resolve_render cwd := Path.resolve_render h.valid cwd
  render_inj _ hq hrender := Path.render_inj h.valid hq.valid hrender
  resolve_again text := Path.resolve_render (valid_resolve text h.valid) p
  join name hname := by
    have hvalid := checkName_eq_ok_iff.mp hname
    rw [join_of_valid hvalid, resolve_name hvalid]
    exact ⟨rfl, by simp [Path.parent], by simp [name?]⟩
  refuses name hname := join_of_not_valid (fun hvalid => hname (checkName_eq_ok_iff.mpr hvalid)) p

/-- A name may have dots and blanks in it, and a text may have a lot in it that is dropped. -/
theorem normal_dots :
    let p := parse "//a/./...//../b c/..é/"
    p.Obtained ∧ p.segments = ["a", "b c", "..é"] ∧ p.render = "/a/b c/..é" ∧ p.Normal ∧
      p.join ".x" = .ok ⟨["a", "b c", "..é", ".x"]⟩ ∧ p.join "x/" = .error (.invalidName "x/") := by
  intro p
  have hp : p.Obtained := .parse _
  have hsegments : p.segments = ["a", "b c", "..é"] := by decide +kernel
  have hresolve : resolve ".x" p = ⟨["a", "b c", "..é", ".x"]⟩ := by decide +kernel
  have hname : checkName ".x" = .ok () := checkName_eq_ok_iff.mpr (by decide +kernel)
  have hrefused : checkName "x/" ≠ .ok () := fun h => by
    have hslash : validName "x/" = false := by decide +kernel
    rw [checkName_eq_ok_iff, hslash] at h
    cases h
  have hnormal := Obtained.normal hp
  have hjoin := (hnormal.join ".x" hname).1
  rw [hresolve] at hjoin
  exact ⟨hp, hsegments, by decide +kernel, hnormal, hjoin, hnormal.refuses "x/" hrefused⟩

end DevConsole.Files.Path
