import DevConsole.Proofs.Text.Integer
import DevConsole.Text.Lines

/-!
# Joined lines

Pieces that have no line end in them (`Inline`), joined by line feeds, are the lines of the text
that they make (`lines_joinWith`), if the last one is not empty: an empty one behind a line feed
does not count as a line.
-/

namespace DevConsole.Text

variable {a b piece last : String} {pieces : List String}

/-- There is neither a line feed nor a carriage return in the text. -/
def Inline (piece : String) : Prop := '\n' ∉ piece.toList ∧ '\r' ∉ piece.toList

instance (piece : String) : Decidable (Inline piece) := inferInstanceAs (Decidable (_ ∧ _))

theorem Inline.append (ha : Inline a) (hb : Inline b) : Inline (a ++ b) := by
  simp only [Inline, String.toList_append, List.mem_append, not_or]
  exact ⟨⟨ha.1, hb.1⟩, ha.2, hb.2⟩

theorem inline_join (h : ∀ piece ∈ pieces, Inline piece) : Inline (String.join pieces) := by
  simp only [Inline, String.toList_join, List.mem_flatMap, not_exists, not_and]
  exact ⟨fun piece hpiece => (h piece hpiece).1, fun piece hpiece => (h piece hpiece).2⟩

theorem inline_repeated {c : Char} (hfeed : c ≠ '\n') (hreturn : c ≠ '\r') (count : Nat) :
    Inline (repeated count c) := by
  simp only [Inline, repeated, String.toList_ofList, List.mem_replicate, not_and]
  exact ⟨fun _ => hfeed.symm, fun _ => hreturn.symm⟩

theorem inline_toString (n : Nat) : Inline (toString n) :=
  ⟨fun h => absurd (isDigit_of_mem_toString h) (by decide),
    fun h => absurd (isDigit_of_mem_toString h) (by decide)⟩

theorem toList_splitOn_joinWith (hne : pieces ≠ []) (h : ∀ piece ∈ pieces, '\n' ∉ piece.toList) :
    (joinWith "\n" pieces).toList.splitOn '\n' = pieces.map String.toList := by
  have hfeed : "\n".toList = ['\n'] := by decide
  have hchars : ∀ cs ∈ pieces.map String.toList, '\n' ∉ cs := by
    intro cs hcs
    obtain ⟨piece, hpiece, rfl⟩ := List.mem_map.mp hcs
    exact h piece hpiece
  rw [joinWith, String.toList_intercalate, hfeed,
    List.splitOn_intercalate '\n' hchars (mt List.map_eq_nil_iff.mp hne)]

theorem map_ofList_toList (pieces : List String) :
    (pieces.map String.toList).map String.ofList = pieces := by
  rw [List.map_map]
  exact (List.map_congr_left fun piece _ => String.ofList_toList).trans (List.map_id pieces)

/-- The pieces are found again between the line feeds. -/
theorem splitOn_joinWith (hne : pieces ≠ []) (h : ∀ piece ∈ pieces, '\n' ∉ piece.toList) :
    splitOn '\n' (joinWith "\n" pieces) = pieces := by
  rw [splitOn, toList_splitOn_joinWith hne h, map_ofList_toList]

theorem map_withoutReturn (h : ∀ piece ∈ pieces, Inline piece) :
    (pieces.map String.toList).map withoutReturn = pieces.map String.toList := by
  rw [List.map_map]
  exact List.map_congr_left fun piece hpiece =>
    if_neg fun hlast => (h piece hpiece).2 (List.mem_of_getLast? hlast)

theorem lines_joinWith (h : ∀ piece ∈ pieces, Inline piece) (hlast : Inline last)
    (hne : last ≠ "") : lines (joinWith "\n" (pieces ++ [last])) = pieces ++ [last] := by
  have hfeed : ∀ piece ∈ pieces ++ [last], '\n' ∉ piece.toList := by
    intro piece hpiece
    rcases List.mem_append.mp hpiece with hpiece | hpiece
    · exact (h piece hpiece).1
    · exact List.mem_singleton.mp hpiece ▸ hlast.1
  have hfull : ¬last.toList.isEmpty = true := by
    rw [List.isEmpty_iff]
    exact mt String.toList_eq_nil_iff.mp hne
  rw [lines, toList_splitOn_joinWith (List.append_ne_nil_of_right_ne_nil _ (List.cons_ne_nil _ _))
    hfeed, List.map_append, List.map_singleton, List.reverse_append, List.reverse_singleton,
    List.singleton_append]
  dsimp only
  rw [if_neg hfull, List.reverse_reverse, map_withoutReturn h, List.map_append, map_ofList_toList,
    List.map_singleton, String.ofList_toList]

end DevConsole.Text
