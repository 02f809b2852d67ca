import DevConsole.Decimal.Grouped
import DevConsole.Proofs.Decimal.Fixed
import DevConsole.Proofs.Text.Blank
import Mathlib.Data.List.DropRight

/-!
# Grouped amounts

An amount is its digits in groups, the first of one to three digits and the others of three
(`Grouping`), then behind a point the decimals up to the last that is not zero (`Trimmed`), if
there is one. The text that the amount was made of comes back from it (`ungrouped`).
-/

namespace DevConsole.Decimal

/-! ## Groups -/

/-- Digits in groups of three counted from the right, so that the first group may be shorter. -/
structure Grouping (digits first : List Char) (others : List (List Char)) : Prop where
  digits_eq : digits = first ++ others.flatten
  first_pos : 0 < first.length
  first_le : first.length ≤ 3
  others_eq : ∀ group ∈ others, group.length = 3

theorem Grouping.length_eq {digits first : List Char} {others : List (List Char)}
    (h : Grouping digits first others) : digits.length = first.length + 3 * others.length := by
  have hothers : others.map List.length = List.replicate others.length 3 :=
    List.eq_replicate_iff.mpr ⟨List.length_map _, by simpa using h.others_eq⟩
  rw [h.digits_eq, List.length_append, List.length_flatten, hothers, List.sum_replicate_nat,
    Nat.mul_comm]

/-- The commas that stand in front of every third digit from the right cut the digits in groups. -/
theorem exists_grouping {digits : List Char} (hdigits : digits ≠ []) :
    ∃ first others, Grouping digits first others ∧
      groupDigits digits = [','].intercalate (first :: others) := by
  induction digits with
  | nil => exact absurd rfl hdigits
  | cons c cs ih =>
    rw [groupDigits]
    by_cases hcs : cs = []
    · subst hcs
      exact ⟨[c], [], ⟨rfl, by simp, by simp, by simp⟩, rfl⟩
    · obtain ⟨first, others, hgroups, htext⟩ := ih hcs
      have hlength := hgroups.length_eq
      have hpos := hgroups.first_pos
      have hle := hgroups.first_le
      split
      · rename_i hcomma
        -- The first group of what follows is full, and `c` opens a group of its own.
        have hfull : first.length = 3 := by omega
        refine ⟨[c], first :: others, ⟨?_, by simp, by simp, ?_⟩, ?_⟩
        · rw [List.flatten_cons, ← hgroups.digits_eq]
          rfl
        · rintro group (_ | ⟨_, hgroup⟩)
          · exact hfull
          · exact hgroups.others_eq group hgroup
        · rw [htext]
          rfl
      · rename_i hcomma
        -- The first group of what follows has room for `c`.
        have hroom : first.length < 3 := by
          have hmod : cs.length % 3 ≠ 0 := fun hmod => hcomma ⟨hmod, hcs⟩
          omega
        refine ⟨c :: first, others, ⟨?_, by simp, hroom, hgroups.others_eq⟩, ?_⟩
        · rw [hgroups.digits_eq]
          rfl
        · rw [htext]
          cases others <;> rfl

theorem filter_groupDigits {p : Char → Bool} (hcomma : p ',' = false) {digits : List Char}
    (hdigits : ∀ c ∈ digits, p c = true) : (groupDigits digits).filter p = digits := by
  induction digits with
  | nil => rfl
  | cons c cs ih =>
    obtain ⟨hc, hcs⟩ := List.forall_mem_cons.mp hdigits
    rw [groupDigits]
    split
    · rw [List.filter_cons_of_pos hc, List.filter_cons_of_neg (by simp [hcomma]), ih hcs]
    · rw [List.filter_cons_of_pos hc, ih hcs]

/-! ## Decimals -/

/-- Decimals up to the last that is not zero. -/
structure Trimmed (decimals kept : List Char) : Prop where
  decimals_eq : ∃ zeros, decimals = kept ++ List.replicate zeros '0'
  last : kept.getLast? ≠ some '0'

theorem trimmed_dropFinalZeros (decimals : List Char) :
    Trimmed decimals (dropFinalZeros decimals) := by
  show Trimmed decimals (decimals.rdropWhile (· == '0'))
  induction decimals using List.reverseRecOn with
  | nil => exact ⟨⟨0, rfl⟩, by simp⟩
  | append_singleton decimals c ih =>
    rw [List.rdropWhile_concat]
    split
    · rename_i hzero
      obtain ⟨zeros, hdecimals⟩ := ih.decimals_eq
      refine ⟨⟨zeros + 1, ?_⟩, ih.last⟩
      rw [List.replicate_succ', ← List.append_assoc, ← hdecimals, eq_of_beq hzero]
    · rename_i hnonzero
      exact ⟨⟨0, (List.append_nil _).symm⟩, by simpa using hnonzero⟩

section Trimmed

variable {decimals kept : List Char}

theorem Trimmed.subset (h : Trimmed decimals kept) : kept ⊆ decimals := by
  obtain ⟨zeros, hdecimals⟩ := h.decimals_eq
  exact hdecimals ▸ List.subset_append_left kept _

theorem Trimmed.any_eq (h : Trimmed decimals kept) :
    decimals.any (· != '0') = kept.any (· != '0') := by
  obtain ⟨zeros, hdecimals⟩ := h.decimals_eq
  rw [hdecimals, List.any_append, List.any_replicate]
  cases zeros <;> simp

theorem Trimmed.rightpad_eq (h : Trimmed decimals kept) :
    kept.rightpad decimals.length '0' = decimals := by
  obtain ⟨zeros, hdecimals⟩ := h.decimals_eq
  rw [hdecimals, List.rightpad, List.length_append, List.length_replicate, Nat.add_sub_cancel_left]

/-- What is kept ends in a digit other than zero, so nothing is kept of zeros alone. -/
theorem Trimmed.eq_nil_iff (h : Trimmed decimals kept) :
    kept = [] ↔ decimals.any (· != '0') = false := by
  rw [h.any_eq]
  constructor
  · rintro rfl
    rfl
  · intro hzeros
    by_contra hne
    have hlast := h.last
    rw [List.getLast?_eq_some_getLast hne] at hlast
    have hzero := List.any_eq_false.mp hzeros _ (List.getLast_mem hne)
    exact hlast (by simpa using hzero)

end Trimmed

/-! ## The whole text -/

/-- The text that an amount was made of: without the sign and the commas, and with the zeros that
`places` decimals end in. -/
def ungrouped (places : Nat) (amount : List Char) : List Char :=
  let bare := amount.filter fun c => c != '-' && c != ','
  let kept := (bare.dropWhile (· != '.')).drop 1
  bare.takeWhile (· != '.') ++ behindPoint (kept.rightpad places '0')

/-- Digits go as far as the point, and behind it are the decimals. -/
theorem split_at_point {whole : List Char} (hdigits : ∀ c ∈ whole, Text.isDigit c = true)
    (decimals : List Char) :
    (whole ++ behindPoint decimals).takeWhile (· != '.') = whole ∧
      ((whole ++ behindPoint decimals).dropWhile (· != '.')).drop 1 = decimals := by
  have hwhole : ∀ c ∈ whole, (c != '.') = true := fun c hc =>
    bne_iff_ne.mpr (Text.ne_of_isDigit (hdigits c hc) (by decide))
  have hpoint : ∀ c ∈ (behindPoint decimals).head?, (c != '.') = false := by
    rw [behindPoint]
    split <;> simp
  rw [Text.takeWhile_run hwhole hpoint, Text.dropWhile_run hwhole hpoint, behindPoint]
  split
  · rename_i hnone
    exact ⟨rfl, hnone.symm⟩
  · exact ⟨rfl, rfl⟩

section FixedPoint

variable {places : Nat} {whole decimals text : List Char}

theorem FixedPoint.isDigit_of_mem (h : FixedPoint places whole decimals text) {c : Char}
    (hc : c ∈ whole ++ decimals) : Text.isDigit c = true := by
  rcases List.mem_append.mp hc with hwhole | hdecimals
  · exact h.whole_digits c hwhole
  · exact h.decimals_digits c hdecimals

theorem FixedPoint.all_zero_eq (h : FixedPoint places whole decimals text) :
    (text.all fun c => c == '0' || c == '.') = !(whole ++ decimals).any (· != '0') := by
  rw [Bool.eq_iff_iff]
  simp only [List.all_eq_true, Bool.or_eq_true, beq_iff_eq, Bool.not_eq_true', List.any_eq_false,
    bne_iff_ne, ne_eq, not_not, h.text_eq, List.mem_append, mem_behindPoint]
  constructor
  · intro hall c hc
    have hpoint : c ≠ '.' :=
      Text.ne_of_isDigit (h.isDigit_of_mem (List.mem_append.mpr hc)) (by decide)
    exact (hall c (hc.imp_right .inl)).resolve_right hpoint
  · rintro hall c (hwhole | hdecimal | ⟨hpoint, -⟩)
    · exact .inl (hall c (.inl hwhole))
    · exact .inl (hall c (.inr hdecimal))
    · exact .inr hpoint

/-- The parts of an amount: a sign where something other than zeros is left, the digits with their
commas, and the decimals up to the last that is not zero. -/
theorem FixedPoint.groupText_eq (h : FixedPoint places whole decimals text) (negative : Bool) :
    groupText negative text =
      (if negative && (whole ++ dropFinalZeros decimals).any (· != '0') then ['-'] else []) ++
        groupDigits whole ++ behindPoint (dropFinalZeros decimals) := by
  obtain ⟨hwhole, hdecimals⟩ := split_at_point h.whole_digits decimals
  rw [← h.text_eq] at hwhole hdecimals
  have hnonzero : (!(text.all fun c => c == '0' || c == '.')) =
      (whole ++ dropFinalZeros decimals).any (· != '0') := by
    rw [h.all_zero_eq, Bool.not_not, List.any_append, List.any_append,
      (trimmed_dropFinalZeros decimals).any_eq]
  simp only [groupText, hwhole, hdecimals, hnonzero, behindPoint, List.isEmpty_iff]

/-- An amount gives back the text that it was made of. -/
theorem FixedPoint.ungrouped_groupText (h : FixedPoint places whole decimals text)
    (negative : Bool) : ungrouped places (groupText negative text) = text := by
  have htrimmed := trimmed_dropFinalZeros decimals
  have hdigit : ∀ c, Text.isDigit c = true → (c != '-' && c != ',') = true := by
    intro c hc
    rw [Bool.and_eq_true, bne_iff_ne, bne_iff_ne]
    exact ⟨Text.ne_of_isDigit hc (by decide), Text.ne_of_isDigit hc (by decide)⟩
  have hkept : (behindPoint (dropFinalZeros decimals)).filter (fun c => c != '-' && c != ',') =
      behindPoint (dropFinalZeros decimals) := by
    refine List.filter_eq_self.mpr fun c hc => ?_
    rcases mem_behindPoint.mp hc with hdecimal | ⟨rfl, -⟩
    · exact hdigit c (h.decimals_digits c (htrimmed.subset hdecimal))
    · decide
  have hbare : (groupText negative text).filter (fun c => c != '-' && c != ',') =
      whole ++ behindPoint (dropFinalZeros decimals) := by
    rw [h.groupText_eq, List.filter_append, List.filter_append, hkept,
      filter_groupDigits (by decide) fun c hc => hdigit c (h.whole_digits c hc)]
    split <;> rfl
  obtain ⟨hbefore, hbehind⟩ := split_at_point h.whole_digits (dropFinalZeros decimals)
  simp only [ungrouped, hbare, hbefore, hbehind]
  rw [h.text_eq, ← h.length_decimals, htrimmed.rightpad_eq]

end FixedPoint

/-- **The amount of a finite value.** The text of its magnitude is digits and `places` decimals.
The amount has the digits in groups of three with commas between them, and the decimals up to the
last that is not zero, with their point where there is one. It starts with a minus sign where the
value is negative and a digit other than zero is written, and the text of the magnitude comes back
from it. -/
theorem grouped_eq {x : Float} (hx : x.isFinite = true) (places : Nat) :
    ∃ whole decimals first others kept,
      FixedPoint places whole decimals (fixed places x.abs).toList ∧
        Grouping whole first others ∧ Trimmed decimals kept ∧
        (grouped places x).toList =
          (if x < 0 ∧ (whole ++ kept).any (· != '0') then ['-'] else []) ++
            [','].intercalate (first :: others) ++
            (if decimals.any (· != '0') then '.' :: kept else []) ∧
        ungrouped places (grouped places x).toList = (fixed places x.abs).toList := by
  obtain ⟨whole, decimals, htext⟩ := exists_fixedPoint hx places
  obtain ⟨first, others, hgroups, hdigits⟩ := exists_grouping htext.whole_ne
  have htrimmed := trimmed_dropFinalZeros decimals
  have hamount : (grouped places x).toList = groupText (x < 0) (fixed places x.abs).toList :=
    String.toList_ofList
  have hkept : behindPoint (dropFinalZeros decimals) =
      if decimals.any (· != '0') then '.' :: dropFinalZeros decimals else [] := by
    rw [behindPoint]
    simp only [htrimmed.eq_nil_iff]
    cases decimals.any (· != '0') <;> rfl
  refine ⟨whole, decimals, first, others, dropFinalZeros decimals, htext, hgroups, htrimmed, ?_, ?_⟩
  · rw [hamount, htext.groupText_eq, hdigits, hkept]
    simp only [Bool.and_eq_true, decide_eq_true_eq]
  · rw [hamount, htext.ungrouped_groupText]

theorem grouped_eq_negative :
    (-123456.5 : Float).isFinite = true ∧ grouped 2 (-123456.5) = "-123,456.5" ∧
      ∃ whole decimals first others kept,
        FixedPoint 2 whole decimals (fixed 2 (-123456.5 : Float).abs).toList ∧
          Grouping whole first others ∧ Trimmed decimals kept ∧
          "-123,456.5".toList =
            (if (-123456.5 : Float) < 0 ∧ (whole ++ kept).any (· != '0') then ['-'] else []) ++
              [','].intercalate (first :: others) ++
              (if decimals.any (· != '0') then '.' :: kept else []) ∧
          ungrouped 2 "-123,456.5".toList = (fixed 2 (-123456.5 : Float).abs).toList := by
  have hfinite : (-123456.5 : Float).isFinite = true := by decide +kernel
  have htext : grouped 2 (-123456.5) = "-123,456.5" := by decide +kernel
  have hamount := grouped_eq hfinite 2
  rw [htext] at hamount
  exact ⟨hfinite, htext, hamount⟩

end DevConsole.Decimal
