import DevConsole.Command.Utilities
import Mathlib.Algebra.BigOperators.Group.Finset.Basic
import Mathlib.Algebra.GroupWithZero.Nat
import Mathlib.Data.List.Nodup

/-!
# Counts of uses

`Tabulates names counts` says that a table tells of every name how often it occurs among `names`,
each name once and in the order of first use. Counting one more use keeps this, if the name is
looked for in the table itself (`Tabulates.countUse`). The counts are kept together with the places
of the names, and a use is counted at the place of its name. As long as the places are those of the
table (`Counts.Indexed`), there is one for every name that has been used, it is in the table, and
what is counted there is what the search would have counted (`Counts.Indexed.use`). So every use of
a history finds its place, and the table tabulates the first words (`exists_useCounts`); the counts
add up to the number of uses (`Tabulates.sum_counts`).

`Ranks names counts ranking` says that the entries of a table stand in the order of their counts,
the greatest first, and equal ones in the order of first use. A table has one ranking
(`Ranks.unique`), and `ranked` gives it (`Tabulates.ranks_ranked`).
-/

namespace DevConsole.Utility

variable {names : List String} {counts : List (String × Nat)} {name : String}

/-! ## The table -/

/-- Every name with the number of its uses, in the order of first use. -/
structure Tabulates (names : List String) (counts : List (String × Nat)) : Prop where
  mem_iff : ∀ name count, (name, count) ∈ counts ↔ name ∈ names ∧ count = names.count name
  ordered : counts.Pairwise fun a b => names.idxOf a.1 < names.idxOf b.1

/-- Counts one more use of a name in the entry that a search finds, or in a new one. -/
def countUse (counts : List (String × Nat)) (name : String) : List (String × Nat) :=
  match counts with
  | [] => [(name, 1)]
  | (n, count) :: rest =>
    if n = name then (n, count + 1) :: rest else (n, count) :: countUse rest name

/-- An entry after one more use of a name. -/
def counted (name : String) (entry : String × Nat) : String × Nat :=
  (entry.1, if entry.1 = name then entry.2 + 1 else entry.2)

theorem count_append_singleton (names : List String) (name other : String) :
    (names ++ [name]).count other = (counted name (other, names.count other)).2 := by
  rw [List.count_append, List.count_singleton, counted]
  by_cases heq : other = name
  · rw [if_pos (beq_iff_eq.mpr heq.symm), if_pos heq]
  · rw [if_neg (fun hbeq => heq (beq_iff_eq.mp hbeq).symm), if_neg heq, Nat.add_zero]

theorem countUse_of_not_mem (h : name ∉ counts.map Prod.fst) :
    countUse counts name = counts ++ [(name, 1)] := by
  induction counts with
  | nil => rfl
  | cons entry counts ih =>
    rw [List.map_cons, List.mem_cons, not_or] at h
    rw [countUse, if_neg (Ne.symm h.1), ih h.2, List.cons_append]

theorem map_counted_of_not_mem (h : name ∉ counts.map Prod.fst) :
    counts.map (counted name) = counts := by
  refine (List.map_congr_left fun entry hentry => ?_).trans (List.map_id counts)
  have hne : entry.1 ≠ name := fun heq => h (heq ▸ List.mem_map_of_mem hentry)
  rw [counted, if_neg hne, id]

theorem countUse_of_mem (hnodup : (counts.map Prod.fst).Nodup) (h : name ∈ counts.map Prod.fst) :
    countUse counts name = counts.map (counted name) := by
  induction counts with
  | nil => cases h
  | cons entry counts ih =>
    rw [List.map_cons, List.nodup_cons] at hnodup
    by_cases heq : entry.1 = name
    · rw [countUse, if_pos heq, List.map_cons, map_counted_of_not_mem (heq ▸ hnodup.1), counted,
        if_pos heq]
    · have hrest : name ∈ counts.map Prod.fst := (List.mem_cons.mp h).resolve_left (Ne.symm heq)
      rw [countUse, if_neg heq, ih hnodup.2 hrest, List.map_cons, counted, if_neg heq]

namespace Tabulates

theorem nil : Tabulates [] [] where
  mem_iff := by simp
  ordered := .nil

theorem mem_names_iff (h : Tabulates names counts) : name ∈ counts.map Prod.fst ↔ name ∈ names := by
  constructor
  · intro hname
    obtain ⟨⟨_, count⟩, hentry, rfl⟩ := List.mem_map.mp hname
    exact ((h.mem_iff _ count).mp hentry).1
  · intro hname
    exact List.mem_map_of_mem ((h.mem_iff name _).mpr ⟨hname, rfl⟩)

theorem nodup_names (h : Tabulates names counts) : (counts.map Prod.fst).Nodup :=
  List.pairwise_map.mpr (h.ordered.imp fun hlt heq => by
    rw [heq] at hlt
    exact Nat.lt_irrefl _ hlt)

/-- The first use of a name stays the first when there are more uses. -/
theorem ordered_append (h : Tabulates names counts) (more : List String) :
    counts.Pairwise fun a b => (names ++ more).idxOf a.1 < (names ++ more).idxOf b.1 := by
  refine h.ordered.imp_of_mem fun {a b} ha hb hlt => ?_
  have hmem : ∀ entry ∈ counts, entry.1 ∈ names := fun entry hentry =>
    h.mem_names_iff.mp (List.mem_map_of_mem hentry)
  rw [List.idxOf_append_of_mem (hmem a ha), List.idxOf_append_of_mem (hmem b hb)]
  exact hlt

/-- One more use of a name that is in the table. -/
theorem mem_map_counted_iff (h : Tabulates names counts) (hname : name ∈ names) (other : String)
    (count : Nat) :
    (other, count) ∈ counts.map (counted name) ↔
      other ∈ names ++ [name] ∧ count = (names ++ [name]).count other := by
  have hmem : other ∈ names ++ [name] ↔ other ∈ names := by
    rw [List.mem_append, List.mem_singleton, or_iff_left_of_imp]
    rintro rfl
    exact hname
  rw [hmem, count_append_singleton, List.mem_map]
  constructor
  · rintro ⟨⟨_, k⟩, hentry, heq⟩
    cases heq
    obtain ⟨hother, rfl⟩ := (h.mem_iff _ _).mp hentry
    exact ⟨hother, rfl⟩
  · rintro ⟨hother, rfl⟩
    exact ⟨_, (h.mem_iff other _).mpr ⟨hother, rfl⟩, rfl⟩

/-- The first use of a name. -/
theorem mem_append_one_iff (h : Tabulates names counts) (hname : name ∉ names) (other : String)
    (count : Nat) :
    (other, count) ∈ counts ++ [(name, 1)] ↔
      other ∈ names ++ [name] ∧ count = (names ++ [name]).count other := by
  rw [count_append_singleton, counted, List.mem_append, List.mem_append, h.mem_iff,
    List.mem_singleton, List.mem_singleton, Prod.mk.injEq]
  by_cases heq : other = name
  · subst heq
    simp [hname, List.count_eq_zero.mpr hname]
  · simp [heq]

/-- One more use is counted. -/
theorem countUse (h : Tabulates names counts) (name : String) :
    Tabulates (names ++ [name]) (countUse counts name) := by
  by_cases hname : name ∈ names
  · rw [countUse_of_mem h.nodup_names (h.mem_names_iff.mpr hname)]
    exact ⟨h.mem_map_counted_iff hname, List.pairwise_map.mpr (h.ordered_append [name])⟩
  · rw [countUse_of_not_mem (mt h.mem_names_iff.mp hname)]
    refine ⟨h.mem_append_one_iff hname, List.pairwise_append.mpr
      ⟨h.ordered_append [name], List.pairwise_singleton .., fun a ha b hb => ?_⟩⟩
    -- the new name stands behind all others
    obtain rfl := List.mem_singleton.mp hb
    have hmem : a.1 ∈ names := h.mem_names_iff.mp (List.mem_map_of_mem ha)
    rw [List.idxOf_append_of_mem hmem, List.idxOf_append_of_notMem hname]
    exact Nat.lt_of_lt_of_le (List.idxOf_lt_length_of_mem hmem) (Nat.le_add_right ..)

/-- The names of a table are those in use, each of them once. -/
theorem perm_dedup (h : Tabulates names counts) : (counts.map Prod.fst).Perm names.dedup :=
  (List.perm_ext_iff_of_nodup h.nodup_names names.nodup_dedup).mpr fun name => by
    rw [h.mem_names_iff, List.mem_dedup]

theorem sum_counts (h : Tabulates names counts) : (counts.map Prod.snd).sum = names.length := by
  have hcounts : counts.map Prod.snd = (counts.map Prod.fst).map names.count := by
    rw [List.map_map]
    exact List.map_congr_left fun entry hentry => ((h.mem_iff entry.1 entry.2).mp hentry).2
  rw [hcounts, (h.perm_dedup.map _).sum_eq]
  exact List.sum_map_count_dedup_eq_length names

end Tabulates

/-! ## The places of the names -/

/-- The search ends at the place of the name. -/
theorem countUse_eq_set (hnodup : (counts.map Prod.fst).Nodup) {i : Nat} (hi : i < counts.length)
    (hname : counts[i].1 = name) :
    countUse counts name = counts.set i (counts[i].1, counts[i].2 + 1) := by
  induction counts generalizing i with
  | nil => cases hi
  | cons entry counts ih =>
    rw [List.map_cons, List.nodup_cons] at hnodup
    cases i with
    | zero => exact if_pos hname
    | succ i =>
      have hi : i < counts.length := Nat.lt_of_succ_lt_succ hi
      have hname : counts[i].1 = name := hname
      have hne : entry.1 ≠ name := fun heq =>
        hnodup.1 (heq ▸ hname ▸ List.mem_map_of_mem (List.getElem_mem hi))
      rw [countUse, if_neg hne, ih hnodup.2 hi hname]
      rfl

namespace Counts

variable {c : Counts}

/-- The table tabulates the names, and the places are the places in it. -/
structure Indexed (names : List String) (c : Counts) : Prop where
  tabulates : Tabulates names c.table.toList
  places_iff : ∀ name i, c.places[name]? = some i ↔ ∃ h : i < c.table.size, c.table[i].1 = name

namespace Indexed

theorem empty : Indexed [] {} where
  tabulates := .nil
  places_iff := by simp

/-- A name that has no place has not been used. -/
theorem not_mem_of_places (h : c.Indexed names) (hplace : c.places[name]? = none) :
    name ∉ c.table.toList.map Prod.fst := by
  intro hmem
  obtain ⟨entry, hentry, rfl⟩ := List.mem_map.mp hmem
  obtain ⟨i, hi, rfl⟩ := List.getElem_of_mem hentry
  have hfound := (h.places_iff c.table.toList[i].1 i).mpr ⟨hi, rfl⟩
  rw [hplace] at hfound
  cases hfound

/-- An entry that keeps its name keeps its place. -/
theorem places_iff_set (h : c.Indexed names) {i : Nat} (hi : i < c.table.size) (count : Nat)
    (other : String) (j : Nat) :
    c.places[other]? = some j ↔ ∃ hj : j < (c.table.set i (c.table[i].1, count)).size,
      (c.table.set i (c.table[i].1, count))[j].1 = other := by
  rw [h.places_iff other j]
  simp only [Array.size_set, Array.getElem_set]
  refine exists_congr fun hj => ?_
  split
  · rename_i hij
    subst hij
    rfl
  · rfl

/-- A new name gets the last place, and no other name has it. -/
theorem places_iff_push (h : c.Indexed names) (hplace : c.places[name]? = none) (count : Nat)
    (other : String) (j : Nat) :
    (c.places.insert name c.table.size)[other]? = some j ↔
      ∃ hj : j < (c.table.push (name, count)).size,
        (c.table.push (name, count))[j].1 = other := by
  have hbefore : ∀ hj : j < c.table.size, c.table[j].1 ≠ name := fun hj hname =>
    h.not_mem_of_places hplace (hname ▸ List.mem_map_of_mem (Array.getElem_mem_toList hj))
  rw [Std.HashMap.getElem?_insert]
  simp only [Array.size_push, Array.getElem_push, beq_iff_eq]
  split
  · rename_i heq
    subst heq
    rw [Option.some.injEq]
    constructor
    · rintro rfl
      exact ⟨Nat.lt_succ_self _, by rw [dif_neg (Nat.lt_irrefl _)]⟩
    · rintro ⟨hj, hname⟩
      split at hname
      · exact absurd hname (hbefore _)
      · omega
  · rename_i hne
    rw [h.places_iff]
    constructor
    · rintro ⟨hj, hname⟩
      exact ⟨Nat.lt_succ_of_lt hj, by rwa [dif_pos hj]⟩
    · rintro ⟨-, hname⟩
      split at hname
      · exact ⟨_, hname⟩
      · exact absurd hname hne

/-- One more use is counted as by a search, and the places stay those of the table. -/
theorem use (h : c.Indexed names) (name : String) : ∃ c', c.use name = .ok c' ∧
    c'.table.toList = countUse c.table.toList name ∧ c'.Indexed (names ++ [name]) := by
  have hcounted := h.tabulates.countUse name
  cases hplace : c.places[name]? with
  | some i =>
    obtain ⟨hi, hname⟩ := (h.places_iff name i).mp hplace
    have htable : (c.table.set i (c.table[i].1, c.table[i].2 + 1)).toList =
        countUse c.table.toList name := by
      rw [countUse_eq_set h.tabulates.nodup_names hi hname, Array.toList_set]
      rfl
    refine ⟨{ c with table := c.table.set i (c.table[i].1, c.table[i].2 + 1) }, ?_, htable,
      htable ▸ hcounted, h.places_iff_set hi _⟩
    rw [Counts.use, hplace]
    exact dif_pos hi
  | none =>
    have htable : (c.table.push (name, 1)).toList = countUse c.table.toList name := by
      rw [countUse_of_not_mem (h.not_mem_of_places hplace), Array.toList_push]
    refine ⟨⟨c.table.push (name, 1), c.places.insert name c.table.size⟩, ?_, htable,
      htable ▸ hcounted, h.places_iff_push hplace 1⟩
    rw [Counts.use, hplace]

/-- All uses are counted, one after the other. -/
theorem foldlM (h : c.Indexed names) (more : List String) :
    ∃ c', more.foldlM Counts.use c = .ok c' ∧
      c'.table.toList = more.foldl countUse c.table.toList ∧ c'.Indexed (names ++ more) := by
  induction more generalizing names c with
  | nil => exact ⟨c, rfl, rfl, by rwa [List.append_nil]⟩
  | cons name more ih =>
    obtain ⟨c₁, huse, htable, h₁⟩ := h.use name
    obtain ⟨c₂, hmore, htable₂, h₂⟩ := ih h₁
    refine ⟨c₂, ?_, ?_, ?_⟩
    · rw [List.foldlM_cons, huse]
      exact hmore
    · rw [htable₂, htable, List.foldl_cons]
    · rwa [List.append_cons]

end Indexed

end Counts

/-- Every use of a history finds its place, and the table that comes out tabulates the first
words. -/
theorem exists_useCounts (history : List String) : ∃ c, useCounts history = .ok c ∧
    Tabulates (history.map Text.firstWord) c.table.toList := by
  obtain ⟨c, hcounts, -, h⟩ := Counts.Indexed.empty.foldlM (history.map Text.firstWord)
  exact ⟨c, hcounts, h.tabulates⟩

/-- The table is the one that searching for every name would make. -/
theorem table_of_useCounts {history : List String} {c : Counts} (h : useCounts history = .ok c) :
    c.table.toList = (history.map Text.firstWord).foldl countUse [] := by
  obtain ⟨c', hcounts, htable, -⟩ := Counts.Indexed.empty.foldlM (history.map Text.firstWord)
  obtain rfl := Except.ok.inj (h.symm.trans hcounts)
  exact htable

theorem runStats_of_statsText {σ ν : Type} {m : Machine σ ν} {text : String}
    (h : statsText m.session = .ok text) :
    (runStats : Action σ ν Output) m = .ok (.text text) m := by
  change EStateM.map _ (Action.ofAbort (statsText m.session)) m = _
  rw [h]
  rfl

/-- The command gives a text, and does no more. -/
theorem exists_runStats {σ ν : Type} (m : Machine σ ν) :
    ∃ text, (runStats : Action σ ν Output) m = .ok (.text text) m := by
  obtain ⟨c, hcounts, -⟩ := exists_useCounts m.session.history
  obtain ⟨text, htext⟩ : ∃ text, statsText m.session = .ok text :=
    ⟨_, by rw [statsText, hcounts]; rfl⟩
  exact ⟨text, runStats_of_statsText htext⟩

/-! ## The ranking -/

/-- The first entry has the greater count, or the same count and the earlier first use. -/
def Precedes (names : List String) (a b : String × Nat) : Prop :=
  b.2 < a.2 ∨ b.2 = a.2 ∧ names.idxOf a.1 < names.idxOf b.1

instance (names : List String) : DecidableRel (Precedes names) := fun _ _ =>
  inferInstanceAs (Decidable (_ ∨ _))

/-- The entries of a table in the order of their counts, equal ones in that of first use. -/
structure Ranks (names : List String) (counts ranking : List (String × Nat)) : Prop where
  perm : ranking.Perm counts
  ordered : ranking.Pairwise (Precedes names)

/-- A table has one ranking. -/
theorem Ranks.unique {ranking other : List (String × Nat)} (h : Ranks names counts ranking)
    (h' : Ranks names counts other) : ranking = other := by
  refine List.Perm.eq_of_pairwise (fun a b _ _ hab hba => ?_) h.ordered h'.ordered
    (h.perm.trans h'.perm.symm)
  rcases hab with hab | hab <;> rcases hba with hba | hba <;> omega

/-- Two entries with their places in the table, as the sorting compares them: by the counts, and
equal ones by the places. -/
theorem zipIdxLE_iff {p q : (String × Nat) × Nat} :
    List.zipIdxLE (fun a b => decide (b.2 ≤ a.2)) p q = true ↔
      q.1.2 ≤ p.1.2 ∧ (p.1.2 ≤ q.1.2 → p.2 ≤ q.2) := by
  simp only [List.zipIdxLE, decide_eq_true_eq]
  split
  · split <;> simp_all
  · simp_all

/-- Entries of the table with their places stand in the order of first use. -/
theorem Tabulates.idxOf_lt_of_lt (h : Tabulates names counts) {p q : (String × Nat) × Nat}
    (hp : p ∈ counts.zipIdx) (hq : q ∈ counts.zipIdx) (hlt : p.2 < q.2) :
    names.idxOf p.1.1 < names.idxOf q.1.1 := by
  obtain ⟨hi, hpi⟩ := List.getElem?_eq_some_iff.mp (List.mem_zipIdx_iff_getElem?.mp hp)
  obtain ⟨hj, hqj⟩ := List.getElem?_eq_some_iff.mp (List.mem_zipIdx_iff_getElem?.mp hq)
  rw [← hpi, ← hqj]
  exact List.pairwise_iff_getElem.mp h.ordered _ _ hi hj hlt

/-- The sorting is stable, so that equal counts keep the order of first use. -/
theorem Tabulates.ranks_ranked (h : Tabulates names counts) :
    Ranks names counts (ranked counts) := by
  refine ⟨List.mergeSort_perm .., ?_⟩
  have htrans : ∀ a b c : String × Nat, decide (b.2 ≤ a.2) = true → decide (c.2 ≤ b.2) = true →
      decide (c.2 ≤ a.2) = true := fun a b c hab hbc => by
    rw [decide_eq_true_eq] at *
    exact Nat.le_trans hbc hab
  have htotal : ∀ a b : String × Nat, (decide (b.2 ≤ a.2) || decide (a.2 ≤ b.2)) = true :=
    fun a b => by simpa using Nat.le_total b.2 a.2
  have hsorted := List.pairwise_mergeSort (List.zipIdxLE_trans htrans)
    (List.zipIdxLE_total htotal) counts.zipIdx
  have hperm := List.mergeSort_perm counts.zipIdx
    (List.zipIdxLE fun a b : String × Nat => decide (b.2 ≤ a.2))
  have hplaces := (hperm.map Prod.snd).nodup_iff.mpr (by
    rw [List.zipIdx_map_snd]
    exact List.nodup_range')
  rw [ranked, ← List.mergeSort_zipIdx, List.pairwise_map]
  refine (hsorted.and (List.pairwise_map.mp hplaces)).imp_of_mem fun {p q} hp hq hpq => ?_
  obtain ⟨hcount, hplace⟩ := zipIdxLE_iff.mp hpq.1
  rcases Nat.lt_or_eq_of_le hcount with hlt | heq
  · exact .inl hlt
  · have hlt : p.2 < q.2 := Nat.lt_of_le_of_ne (hplace heq.ge) hpq.2
    exact .inr ⟨heq, h.idxOf_lt_of_lt (hperm.mem_iff.mp hp) (hperm.mem_iff.mp hq) hlt⟩

end DevConsole.Utility
