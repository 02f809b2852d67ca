import DevConsole.Proofs.Files.Directory

/-!
# Resolving in steps

A path text is followed part by part, so a text that goes on behind a slash is resolved in two steps
(`resolve_append`), and moving along it is moving twice (`changeDirectory_append`). Only the parts
that are names add to a path (`length_resolve_le`); without any, a text leads up as many levels as
it has parts `..`, and no further than the root (`resolve_of_namesIn_eq_nil`).
-/

namespace DevConsole.Files

variable {a b text part : String} {cwd mid : Path} {parts segments : List String} {t : Tree}

namespace Path

/-- A part of a path text that is not dropped and does not lead up. -/
def LeadsDown (part : String) : Prop := part ≠ "" ∧ part ≠ "." ∧ part ≠ ".."

instance (part : String) : Decidable (LeadsDown part) := inferInstanceAs (Decidable (_ ∧ _))

/-- The names that a path text leads down by. -/
def namesIn (text : String) : List String :=
  (Text.splitOn '/' text).filter fun part => LeadsDown part

/-- How often a path text leads up. -/
def upsIn (text : String) : Nat := (Text.splitOn '/' text).count ".."

/-! ## Two steps -/

theorem splitOn_append_slash (a b : String) :
    Text.splitOn '/' (a ++ "/" ++ b) = Text.splitOn '/' a ++ Text.splitOn '/' b := by
  have hslash : (a ++ "/" ++ b).toList = a.toList ++ '/' :: b.toList := by simp
  rw [Text.splitOn, hslash, List.splitOn, List.splitOnP_append_cons _ _ (by simp), List.map_append]
  rfl

theorem isAbsolute_append (ha : a ≠ "") (b : String) :
    isAbsolute (a ++ "/" ++ b) = isAbsolute a := by
  cases hlist : a.toList with
  | nil => exact absurd (String.toList_eq_nil_iff.mp hlist) ha
  | cons c cs => simp [isAbsolute, hlist]

theorem resolve_append (ha : a ≠ "") (hb : isAbsolute b = false) (cwd : Path) :
    resolve (a ++ "/" ++ b) cwd = resolve b (resolve a cwd) := by
  simp only [resolve, isAbsolute_append ha, splitOn_append_slash, List.foldl_append, hb,
    Bool.false_eq_true, if_false]

/-- A text that starts at the root leads to the same place from everywhere. -/
theorem resolve_of_isAbsolute (h : isAbsolute text = true) (cwd cwd' : Path) :
    resolve text cwd = resolve text cwd' := by
  simp only [resolve, h, if_true]

/-! ## Names and steps up -/

theorem length_follow_le (segments : List String) (part : String) :
    (follow segments part).length ≤
      segments.length + if LeadsDown part then 1 else 0 := by
  unfold follow
  split
  · exact Nat.le_add_right _ _
  · rename_i hkept
    split
    · rw [List.length_dropLast]
      omega
    · rename_i hdown
      rw [not_or] at hkept
      rw [if_pos ⟨hkept.1, hkept.2, hdown⟩, List.length_append, List.length_singleton]

theorem length_foldl_follow_le (parts segments : List String) :
    (parts.foldl follow segments).length ≤
      segments.length + parts.countP fun part => LeadsDown part := by
  induction parts generalizing segments with
  | nil => exact Nat.le_refl _
  | cons part parts ih =>
    have hfirst := length_follow_le segments part
    have hrest := ih (follow segments part)
    rw [List.foldl_cons, List.countP_cons]
    simp only [decide_eq_true_eq]
    omega

theorem length_resolve_le (text : String) (cwd : Path) :
    (resolve text cwd).segments.length ≤ cwd.segments.length + (namesIn text).length := by
  have hfold := length_foldl_follow_le (Text.splitOn '/' text)
    (if isAbsolute text then [] else cwd.segments)
  rw [namesIn, ← List.countP_eq_length_filter]
  refine Nat.le_trans hfold (Nat.add_le_add_right ?_ _)
  split
  · exact Nat.zero_le _
  · exact Nat.le_refl _

/-- Parts that are no names take the last names away, one for each `..`, as long as there are
any. -/
theorem foldl_follow_of_no_names
    (h : ∀ part ∈ parts, ¬LeadsDown part) (segments : List String) :
    parts.foldl follow segments = segments.take (segments.length - parts.count "..") := by
  induction parts generalizing segments with
  | nil => simp
  | cons part parts ih =>
    obtain ⟨hpart, hparts⟩ := List.forall_mem_cons.mp h
    rw [List.foldl_cons, ih hparts, List.count_cons]
    by_cases hup : part = ".."
    · have hfollow : follow segments part = segments.dropLast := by simp [follow, hup]
      rw [hfollow, hup, List.dropLast_eq_take, List.take_take, List.length_take]
      congr 1
      simp only [beq_self_eq_true, if_true]
      omega
    · have hfollow : follow segments part = segments := by
        unfold LeadsDown at hpart
        exact if_pos (by tauto)
      rw [hfollow, if_neg (by simpa using hup), Nat.add_zero]

theorem resolve_of_namesIn_eq_nil (h : namesIn text = []) (cwd : Path) :
    resolve text cwd = if isAbsolute text then root
      else ⟨cwd.segments.take (cwd.segments.length - upsIn text)⟩ := by
  have hnone : ∀ part ∈ Text.splitOn '/' text, ¬LeadsDown part := by
    simpa [namesIn, List.filter_eq_nil_iff] using h
  rw [resolve, foldl_follow_of_no_names hnone]
  split
  · rw [List.take_nil, root]
  · rw [upsIn]

end Path

/-! ## Moving -/

namespace Tree

theorem changeDirectory_eq_ok_iff {target : Path} :
    t.changeDirectory cwd text = .ok target ↔
      target = Path.resolve text cwd ∧ t.isDirectory target = true := by
  refine ⟨changeDirectory_eq_ok, ?_⟩
  rintro ⟨rfl, hd⟩
  obtain ⟨id, hid⟩ := isDirectory_iff.mp hd
  rw [changeDirectory_eq, hid]
  rfl

/-- Behind a place that can be moved to, the rest of a text leads where it leads from there. -/
theorem changeDirectory_append (ha : a ≠ "") (hb : Path.isAbsolute b = false)
    (hmid : t.changeDirectory cwd a = .ok mid) :
    t.changeDirectory cwd (a ++ "/" ++ b) = t.changeDirectory mid b := by
  obtain ⟨rfl, -⟩ := changeDirectory_eq_ok hmid
  rw [changeDirectory_eq, changeDirectory_eq, Path.resolve_append ha hb]

end Tree

namespace Path

/-- Resolving a text that goes on behind a slash is resolving twice, and moving along it is moving
twice. From the root on, the place where a text is resolved does not matter. A path grows by the
names in the text at most, and it never leads above the root. -/
theorem resolve_composes (ha : a ≠ "") (hb : isAbsolute b = false) (cwd : Path) :
    resolve (a ++ "/" ++ b) cwd = resolve b (resolve a cwd) ∧
      (∀ text, isAbsolute text = true → ∀ cwd', resolve text cwd = resolve text cwd') ∧
      (∀ text,
        (resolve text cwd).segments.length ≤ cwd.segments.length + (namesIn text).length) ∧
      (∀ text, namesIn text = [] → resolve text cwd = if isAbsolute text then root
        else ⟨cwd.segments.take (cwd.segments.length - upsIn text)⟩) ∧
      ∀ (t : Tree) (mid target : Path), t.changeDirectory cwd a = .ok mid →
        t.changeDirectory mid b = .ok target →
          t.changeDirectory cwd (a ++ "/" ++ b) = .ok target := by
  refine ⟨resolve_append ha hb cwd, fun text h => resolve_of_isAbsolute h cwd,
    fun text => length_resolve_le text cwd, fun text h => resolve_of_namesIn_eq_nil h cwd, ?_⟩
  intro t mid target hmid htarget
  rw [Tree.changeDirectory_append ha hb hmid, htarget]

/-- Down and up in one text, and further up than there is to go. -/
theorem resolve_composes_up :
    let home : Path := ⟨["home", "user"]⟩
    "projects/..//documents" ≠ "" ∧ isAbsolute "./../../../../var/" = false ∧
      resolve "projects/..//documents/./../../../../var/" home = ⟨["var"]⟩ ∧
        Tree.ofDefaultLayout.changeDirectory home "projects/..//documents/./../../../../var/" =
          .ok ⟨["var"]⟩ := by
  intro home
  have hb : isAbsolute "./../../../../var/" = false := by decide +kernel
  have hmid : resolve "projects/..//documents" home = ⟨["home", "user", "documents"]⟩ := by
    decide +kernel
  have htarget : resolve "./../../../../var/" ⟨["home", "user", "documents"]⟩ = ⟨["var"]⟩ := by
    decide +kernel
  have ha : "projects/..//documents" ≠ "" := by decide
  obtain ⟨hresolve, -, -, -, hmove⟩ := resolve_composes ha hb home
  rw [hmid, htarget] at hresolve
  refine ⟨ha, hb, hresolve, hmove _ ⟨["home", "user", "documents"]⟩ ⟨["var"]⟩ ?_ ?_⟩
  · exact Tree.changeDirectory_eq_ok_iff.mpr ⟨hmid.symm, by decide +kernel⟩
  · exact Tree.changeDirectory_eq_ok_iff.mpr ⟨htarget.symm, by decide +kernel⟩

end Path

end DevConsole.Files
