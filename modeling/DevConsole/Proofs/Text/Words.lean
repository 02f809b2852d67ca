import DevConsole.Proofs.Text.Blank
import DevConsole.Text.Ascii
import DevConsole.Text.Lines

/-!
# Words of a line

How trimming acts on a text that is put together from parts: blanks are taken from the outer parts
only (`trimEndChars_append`), and no other character is lost (`count_trimChars`). A line that opens
with a word (`Opens`) is cut behind that word, and what is left is the trimmed rest
(`Opens.cutAtBlank_trim`). The words of a text without blanks around it start with what stands
before its first blank (`words_eq_cons`, `firstWord_eq`).
-/

namespace DevConsole.Text

variable {cs ds : List Char} {s word : String}

/-! ## Trimming parts -/

theorem trimEndChars_eq_nil_iff : trimEndChars cs = [] ↔ ∀ c ∈ cs, isBlank c = true := by
  rw [trimEndChars_eq, List.rdropWhile_eq_nil_iff]

/-- Blanks are taken from the last part, and from the one before it if nothing is left of it. -/
theorem trimEndChars_append (cs ds : List Char) :
    trimEndChars (cs ++ ds) =
      if trimEndChars ds = [] then trimEndChars cs else cs ++ trimEndChars ds := by
  rw [trimEndChars, List.reverse_append, List.dropWhile_append]
  by_cases h : ds.reverse.dropWhile isBlank = []
  · have hend : trimEndChars ds = [] := List.reverse_eq_nil_iff.mpr h
    rw [if_pos (List.isEmpty_iff.mpr h), if_pos hend, trimEndChars]
  · have hend : trimEndChars ds ≠ [] := fun hnil => h (List.reverse_eq_nil_iff.mp hnil)
    rw [if_neg (fun hnil => h (List.isEmpty_iff.mp hnil)), if_neg hend, List.reverse_append,
      List.reverse_reverse, trimEndChars]

theorem trimStartChars_append (h : ∀ c ∈ cs, isBlank c = true) (ds : List Char) :
    trimStartChars (cs ++ ds) = trimStartChars ds := List.dropWhile_append_of_pos h

/-- Blanks that are taken before make no difference. -/
theorem trimChars_trimStartChars (cs : List Char) :
    trimChars (trimStartChars cs) = trimChars cs := by
  rw [trimChars, trimChars, trimStartChars, trimStartChars, List.dropWhile_idempotent]

theorem trimStartChars_of_cons {c : Char} (h : isBlank c = false) :
    trimStartChars (c :: cs) = c :: cs := by
  rw [trimStartChars, List.dropWhile_cons, h]
  rfl

theorem exists_trimEndChars_cons {c : Char} (h : isBlank c = false) (cs : List Char) :
    ∃ rest, trimEndChars (c :: cs) = c :: rest := by
  rw [← List.singleton_append, trimEndChars_append]
  split
  · have hone : trimEndChars [c] = [c] := by
      rw [trimEndChars_eq, List.rdropWhile_singleton, if_neg (by rw [h]; exact Bool.false_ne_true)]
    exact ⟨[], hone⟩
  · exact ⟨trimEndChars cs, rfl⟩

/-- It makes no difference on which side blanks are taken first. -/
theorem trimStartChars_trimEndChars (cs : List Char) :
    trimStartChars (trimEndChars cs) = trimChars cs := by
  have hparts : cs.takeWhile isBlank ++ trimStartChars cs = cs := List.takeWhile_append_dropWhile
  have hblank : ∀ c ∈ cs.takeWhile isBlank, isBlank c = true := fun c => List.mem_takeWhile_imp
  rw [trimChars]
  conv_lhs => rw [← hparts, trimEndChars_append]
  split
  · rename_i hnil
    rw [trimEndChars_eq_nil_iff.mpr hblank, hnil]
    rfl
  · rw [trimStartChars_append hblank]
    exact trimStartChars_trimChars cs

theorem trimChars_of_trim (h : trim s = s) : trimChars s.toList = s.toList := by
  conv_rhs => rw [← h, trim, String.toList_ofList]

/-- What a trimmed text ends with is more than blanks. -/
theorem trimStartChars_ne_nil (h : trim s = s) (hs : s.toList = cs ++ ds) (hne : ds ≠ []) :
    trimStartChars ds ≠ [] := by
  intro hnil
  have hend : (cs ++ ds).rdropWhile isBlank = cs ++ ds := by
    rw [← hs, ← trimChars_of_trim h, trimChars, trimEndChars_eq, List.rdropWhile_idempotent]
  have hlast := List.rdropWhile_eq_self_iff.mp hend (List.append_ne_nil_of_right_ne_nil cs hne)
  rw [List.getLast_append_of_ne_nil _ hne] at hlast
  exact hlast (List.dropWhile_eq_nil_iff.mp hnil _ (List.getLast_mem hne))

/-- Trimming takes nothing but blanks. -/
theorem count_trimChars {c : Char} (h : isBlank c = false) (cs : List Char) :
    (trimChars cs).count c = cs.count c := by
  have hnone : ∀ bs : List Char, (∀ b ∈ bs, isBlank b = true) → bs.count c = 0 := by
    intro bs hbs
    refine List.count_eq_zero.mpr fun hc => ?_
    rw [hbs c hc] at h
    cases h
  have hstart : (trimStartChars cs).count c = cs.count c := by
    conv_rhs => rw [← List.takeWhile_append_dropWhile (p := isBlank) (l := cs)]
    rw [List.count_append, hnone _ fun b hb => List.mem_takeWhile_imp hb, Nat.zero_add]
    rfl
  have hend : ∀ ds : List Char, (trimEndChars ds).count c = ds.count c := by
    intro ds
    conv_rhs => rw [← List.rdropWhile_append_rtakeWhile (p := isBlank) (l := ds)]
    rw [List.count_append, hnone _ fun b hb => List.mem_rtakeWhile_imp hb]
    rfl
  rw [trimChars, hend, hstart]

/-! ## The first word of a line -/

/-- A word without blanks. -/
def IsWord (word : String) : Prop := word ≠ "" ∧ ∀ c ∈ word.toList, isBlank c = false

theorem IsWord.ne_nil (h : IsWord word) : word.toList ≠ [] := by
  intro hnil
  exact h.1 (String.toList_inj.mp hnil)

theorem IsWord.trimStartChars_append (h : IsWord word) (cs : List Char) :
    trimStartChars (word.toList ++ cs) = word.toList ++ cs := by
  cases hchars : word.toList with
  | nil => exact absurd hchars h.ne_nil
  | cons c rest =>
    have hc : isBlank c = false := h.2 c (by rw [hchars]; exact List.mem_cons_self)
    exact trimStartChars_of_cons hc

theorem IsWord.trimEndChars_eq (h : IsWord word) : trimEndChars word.toList = word.toList := by
  rw [Text.trimEndChars_eq, List.rdropWhile_eq_self_iff]
  intro hne hlast
  rw [h.2 _ (List.getLast_mem hne)] at hlast
  cases hlast

/-- Nothing is trimmed from a text that starts and ends with a word. -/
theorem IsWord.trim_append {last : String} (h : IsWord word) (hlast : IsWord last)
    (between : String) : trim (word ++ between ++ last) = word ++ between ++ last := by
  have hne : trimEndChars last.toList ≠ [] := by
    rw [hlast.trimEndChars_eq]
    exact hlast.ne_nil
  rw [trim, String.toList_append, String.toList_append, List.append_assoc, trimChars,
    h.trimStartChars_append, ← List.append_assoc, trimEndChars_append, if_neg hne,
    hlast.trimEndChars_eq, ← String.toList_append, ← String.toList_append, String.ofList_toList]

/-- A line with blanks before its first word, and with a blank behind that word unless nothing is
behind it. -/
inductive Opens : String → String → String → Prop
  | mk {before word rest : String} : (∀ c ∈ before.toList, isBlank c = true) → IsWord word →
      (∀ c ∈ rest.toList.head?, isBlank c = true) → Opens (before ++ word ++ rest) word rest

/-- Trimming takes the blanks before the first word, and those after what is behind it. -/
theorem Opens.toList_trim {line rest : String} (h : Opens line word rest) :
    (trim line).toList = word.toList ++ trimEndChars rest.toList := by
  obtain ⟨hbefore, hword, -⟩ := h
  rw [trim, String.toList_ofList, String.toList_append, String.toList_append, List.append_assoc,
    trimChars, trimStartChars_append hbefore, hword.trimStartChars_append, trimEndChars_append,
    hword.trimEndChars_eq]
  split
  · rename_i hnil
    rw [hnil, List.append_nil]
  · rfl

/-- A line is cut behind its first word, and the rest of it is trimmed. -/
theorem Opens.cutAtBlank_trim {line rest : String} (h : Opens line word rest) :
    (cutAtBlank (trim line)).1 = word ∧ trimStart (cutAtBlank (trim line)).2 = trim rest := by
  have hchars := h.toList_trim
  obtain ⟨-, hword, hrest⟩ := h
  have hall : ∀ c ∈ word.toList, (!isBlank c) = true := fun c hc => by rw [hword.2 c hc]; rfl
  -- the blank behind the word is still there
  have hblank : ∀ c ∈ (trimEndChars rest.toList).head?, isBlank c = true := by
    intro c hc
    obtain ⟨more, hmore⟩ : trimEndChars rest.toList <+: rest.toList :=
      List.rdropWhile_prefix isBlank rest.toList
    refine hrest c ?_
    rw [← hmore, List.head?_append, Option.mem_def.mp hc]
    rfl
  have hends : ∀ c ∈ (trimEndChars rest.toList).head?, (!isBlank c) = false := fun c hc => by
    rw [hblank c hc]
    rfl
  have hsame : trimStartChars ((trimEndChars rest.toList).drop 1) = trimChars rest.toList := by
    rw [← trimStartChars_trimEndChars]
    cases htail : trimEndChars rest.toList with
    | nil => rfl
    | cons c cs =>
      rw [trimStartChars, trimStartChars, List.dropWhile_cons, hblank c (by rw [htail]; rfl)]
      rfl
  rw [cutAtBlank, hchars]
  dsimp only
  rw [takeWhile_run hall hends, dropWhile_run hall hends, trimStart, String.toList_ofList, hsame]
  exact ⟨String.ofList_toList, rfl⟩

/-! ## All words -/

theorem words_empty : words "" = [] := rfl

theorem IsWord.words_eq (h : IsWord word) : words word = [word] := by
  rw [words, List.splitOnP_eq_singleton h.2]
  simp [h.1]

theorem IsWord.words_append (h : IsWord word) (rest : String) :
    words (word ++ " " ++ rest) = word :: words rest := by
  have hchars : (word ++ " " ++ rest).toList = word.toList ++ ' ' :: rest.toList := by simp
  rw [words, hchars, List.splitOnP_append_cons_of_forall_mem h.2 ' ' (by decide), words]
  simp [h.1]

/-- The words of a text with no blank before it are what stands before its first blank and the words
after that. -/
theorem words_eq_cons {c : Char} (hs : s.toList = c :: cs) (hc : isBlank c = false) :
    IsWord (cutAtBlank s).1 ∧ (cutAtBlank s).1.toList.head? = some c ∧
      words s = (cutAtBlank s).1 :: words (cutAtBlank s).2 := by
  have hfirst : (cutAtBlank s).1.toList = s.toList.takeWhile (!isBlank ·) := String.toList_ofList
  have hhead : (cutAtBlank s).1.toList.head? = some c := by
    rw [hfirst, hs, List.takeWhile_cons, hc]
    rfl
  have hnone : ∀ d ∈ s.toList.takeWhile (!isBlank ·), isBlank d = false := fun d hd => by
    simpa using List.mem_takeWhile_imp hd
  have hword : IsWord (cutAtBlank s).1 := by
    refine ⟨fun hempty => ?_, fun d hd => hnone d (hfirst ▸ hd)⟩
    rw [hempty] at hhead
    cases hhead
  refine ⟨hword, hhead, ?_⟩
  have hparts : s.toList.takeWhile (!isBlank ·) ++ s.toList.dropWhile (!isBlank ·) = s.toList :=
    List.takeWhile_append_dropWhile
  cases hdrop : s.toList.dropWhile (!isBlank ·) with
  | nil =>
    have hwhole : (cutAtBlank s).1 = s := by
      rw [hdrop, List.append_nil] at hparts
      exact String.toList_inj.mp (hfirst.trans hparts)
    have hrest : (cutAtBlank s).2 = "" := by
      rw [cutAtBlank, hdrop]
      rfl
    rw [hrest, words_empty]
    conv_lhs => rw [← hwhole, hword.words_eq]
  | cons b rest =>
    have hblank : isBlank b = true := by
      have hget := List.dropWhile_get_zero_not (!isBlank ·) s.toList (by simp [hdrop])
      simpa [hdrop] using hget
    have hrest : (cutAtBlank s).2.toList = rest := by
      rw [cutAtBlank, hdrop]
      exact String.toList_ofList
    have hne : (cutAtBlank s).1.toList ≠ [] := hword.ne_nil
    rw [words, ← hparts, hdrop,
      List.splitOnP_append_cons_of_forall_mem hnone b hblank, words, hrest]
    rw [hfirst] at hne
    simp [cutAtBlank, hne]

/-- A text without blanks around it starts with another character, unless it is empty. -/
theorem exists_toList_cons (htrim : trim s = s) (hne : s ≠ "") :
    ∃ c cs, s.toList = c :: cs ∧ isBlank c = false := by
  have hstart : trimStartChars s.toList = s.toList := by
    have hsame := trimStartChars_trimChars s.toList
    rwa [trimChars_of_trim htrim] at hsame
  cases hs : s.toList with
  | nil => exact absurd (String.toList_inj.mp hs) hne
  | cons c cs =>
    rw [hs, trimStartChars, List.dropWhile_eq_self_iff] at hstart
    exact ⟨c, cs, rfl, by simpa using hstart⟩

/-- A text without blanks around it has a word, unless it is empty. -/
theorem exists_words_cons (htrim : trim s = s) (hne : s ≠ "") :
    ∃ first more, words s = first :: more := by
  obtain ⟨c, cs, hs, hc⟩ := exists_toList_cons htrim hne
  exact ⟨_, _, (words_eq_cons hs hc).2.2⟩

/-- The first word is what stands before the first blank. -/
theorem firstWord_eq (htrim : trim s = s) (hne : s ≠ "") :
    firstWord s = (cutAtBlank s).1 ∧ IsWord (firstWord s) := by
  obtain ⟨c, cs, hs, hc⟩ := exists_toList_cons htrim hne
  obtain ⟨hword, -, hwords⟩ := words_eq_cons hs hc
  have hfirst : firstWord s = (cutAtBlank s).1 := by rw [firstWord, hwords, List.headD_cons]
  exact ⟨hfirst, hfirst ▸ hword⟩

/-- Words with blanks between them start with the first one. -/
theorem exists_joinWith_cons (sep first : String) (pieces : List String) :
    ∃ more, joinWith sep (first :: pieces) = first ++ more := by
  cases pieces with
  | nil => exact ⟨"", by simp [joinWith]⟩
  | cons second pieces =>
    exact ⟨sep ++ sep.intercalate (second :: pieces), by
      rw [joinWith, String.intercalate_cons_cons, String.append_assoc]⟩

/-- Words with blanks between them start as the text that they are taken from. -/
theorem head?_joinWith_words {c : Char} (hs : s.toList = c :: cs) (hc : isBlank c = false) :
    (joinWith " " (words s)).toList.head? = some c := by
  obtain ⟨-, hhead, hwords⟩ := words_eq_cons hs hc
  obtain ⟨more, hjoin⟩ := exists_joinWith_cons " " (cutAtBlank s).1 (words (cutAtBlank s).2)
  rw [hwords, hjoin, String.toList_append, List.head?_append, hhead]
  rfl

end DevConsole.Text
