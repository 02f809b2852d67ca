import DevConsole.Random

/-!
# Draws

What is drawn is in range: an index lies below its bound, and a list that has members gives one of
them (`exists_choose?`). Shuffling only changes the order (`perm_shuffle`).
-/

namespace DevConsole.Random

variable {α : Type} {items : List α} {r : Random}

theorem below_lt {n : Nat} (h : 0 < n) (r : Random) : (r.below n).1 < n := Nat.mod_lt _ h

@[simp] theorem choose?_nil (r : Random) : (r.choose? ([] : List α)).1 = none := rfl

theorem exists_choose? (h : items ≠ []) (r : Random) :
    ∃ a ∈ items, (r.choose? items).1 = some a := by
  have hi := below_lt (List.length_pos_iff.mpr h) r
  refine ⟨items[(r.below items.length).1], List.getElem_mem hi, ?_⟩
  rw [choose?, if_neg (by simpa using h)]
  exact List.getElem?_eq_getElem hi

theorem choose?_eq_none_iff : (r.choose? items).1 = none ↔ items = [] := by
  refine ⟨fun hnone => Classical.byContradiction fun h => ?_, fun h => by rw [h, choose?_nil]⟩
  obtain ⟨a, -, ha⟩ := exists_choose? h r
  rw [ha] at hnone
  cases hnone

theorem mem_of_choose? {a : α} (h : (r.choose? items).1 = some a) : a ∈ items := by
  by_cases hitems : items = []
  · rw [hitems, choose?_nil] at h
    cases h
  · obtain ⟨b, hb, hchosen⟩ := exists_choose? hitems r
    rw [hchosen] at h
    cases h
    exact hb

/-! ## Shuffling -/

-- As an equation between functions it is checked without a look at what is drawn.
theorem shuffleFrom_succ (last : Nat) :
    @shuffleFrom α (last + 1) = fun items r =>
      shuffleFrom last (items.swapIfInBounds (last + 1) (r.below (last + 2)).1)
        (r.below (last + 2)).2 := rfl

theorem perm_swapIfInBounds (items : Array α) (i j : Nat) :
    (items.swapIfInBounds i j).Perm items := by
  rw [Array.swapIfInBounds_def]
  split
  · split
    · exact Array.swap_perm _ _
    · exact .refl _
  · exact .refl _

theorem perm_shuffleFrom (last : Nat) (items : Array α) (r : Random) :
    (shuffleFrom last items r).1.Perm items := by
  induction last generalizing items r with
  | zero => exact .refl _
  | succ last ih =>
    rw [shuffleFrom_succ]
    exact (ih _ _).trans (perm_swapIfInBounds _ _ _)

theorem perm_shuffle (items : List α) (r : Random) : (r.shuffle items).1.Perm items :=
  (perm_shuffleFrom _ _ _).toList

end DevConsole.Random
