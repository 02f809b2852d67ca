import DevConsole.Text.Blank
import Mathlib.Data.List.DropRight

/-!
# Trimmed texts

A run of characters at the beginning of a text is taken off as far as it goes (`takeWhile_run`,
`dropWhile_run`). Trimming takes everything exactly where there are only blanks
(`trim_eq_empty_iff`), and trimming again changes nothing (`trim_trim`).
-/

namespace DevConsole.Text

/-! ## Runs -/

variable {p : Char → Bool} {run rest : List Char}

theorem takeWhile_run (hrun : ∀ c ∈ run, p c = true) (hrest : ∀ c ∈ rest.head?, p c = false) :
    (run ++ rest).takeWhile p = run := by
  rw [List.takeWhile_append_of_pos hrun]
  cases rest with
  | nil => simp
  | cons c rest => simp [hrest c rfl]

theorem dropWhile_run (hrun : ∀ c ∈ run, p c = true) (hrest : ∀ c ∈ rest.head?, p c = false) :
    (run ++ rest).dropWhile p = rest := by
  rw [List.dropWhile_append_of_pos hrun]
  cases rest with
  | nil => rfl
  | cons c rest => simp [hrest c rfl]

/-! ## Trimming -/

theorem trimEndChars_eq (cs : List Char) : trimEndChars cs = cs.rdropWhile isBlank := rfl

theorem trimChars_eq_nil_iff {cs : List Char} : trimChars cs = [] ↔ ∀ c ∈ cs, isBlank c = true := by
  rw [trimChars, trimEndChars_eq, List.rdropWhile_eq_nil_iff, trimStartChars]
  constructor
  · intro h c hc
    rw [← List.takeWhile_append_dropWhile (p := isBlank) (l := cs)] at hc
    rcases List.mem_append.mp hc with hc | hc
    · exact List.mem_takeWhile_imp hc
    · exact h c hc
  · exact fun h c hc => h c ((List.dropWhile_sublist _).subset hc)

/-- What is left has no blank before it: it starts as the text without the blanks before it. -/
theorem trimStartChars_trimChars (cs : List Char) :
    trimStartChars (trimChars cs) = trimChars cs := by
  refine List.dropWhile_eq_self_iff.mpr fun hpos => ?_
  have hstart : trimChars cs <+: trimStartChars cs := List.rdropWhile_prefix isBlank _
  rw [hstart.getElem hpos]
  exact List.dropWhile_get_zero_not isBlank cs _

theorem trimChars_trimChars (cs : List Char) : trimChars (trimChars cs) = trimChars cs := by
  rw [trimChars, trimStartChars_trimChars, trimChars, trimEndChars_eq, trimEndChars_eq,
    List.rdropWhile_idempotent]

theorem trim_trim (s : String) : trim (trim s) = trim s := by
  simp only [trim, String.toList_ofList, trimChars_trimChars]

theorem trim_eq_empty_iff {s : String} : trim s = "" ↔ ∀ c ∈ s.toList, isBlank c = true := by
  rw [trim, String.ofList_eq_empty_iff, trimChars_eq_nil_iff]

end DevConsole.Text
