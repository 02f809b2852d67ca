import DevConsole.Proofs.Game.Snake
import DevConsole.Proofs.Text.Lines
import Mathlib.Data.List.Perm.Basic

/-!
# Frames

`shownAt` reads off a frame what it has in the two columns of a cell, and `countShown` how many
cells of the board are shown alike. A frame that is `Pictured` has its nineteen lines and shows at
each cell just what lies there. That the board is laid out as it should holds of the frame of any
game (`lines_render`, `shownAt_render`); that head, body and food are each shown where they are, and
as often as there are cells, is due to what every reachable game keeps (`Reachable.pictured`).
-/

namespace DevConsole

namespace Snake

theorem nodup_board : board.Nodup := by
  rw [board, List.nodup_flatMap]
  constructor
  · intro y _
    refine List.Nodup.map (fun x x' hx => ?_) List.nodup_range
    exact Int.ofNat_inj.mp (Cell.mk.inj hx).1
  · refine List.nodup_range.imp fun {y y'} hy => List.disjoint_left.mpr ?_
    intro c hc hc'
    obtain ⟨x, -, rfl⟩ := List.mem_map.mp hc
    obtain ⟨x', -, hx'⟩ := List.mem_map.mp hc'
    exact hy (Int.ofNat_inj.mp (Cell.mk.inj hx').2).symm

/-- Of different cells of the board, the board has as many as there are. -/
theorem countP_mem_board {cells : List Cell} (hboard : ∀ c ∈ cells, c.onBoard = true)
    (hdistinct : cells.Nodup) : board.countP (· ∈ cells) = cells.length := by
  have hperm : (board.filter (· ∈ cells)).Perm cells := by
    refine (List.perm_ext_iff_of_nodup (nodup_board.filter _) hdistinct).mpr fun c => ?_
    rw [List.mem_filter, mem_board_iff, decide_eq_true_iff]
    exact and_iff_right_of_imp (hboard c)
  rw [List.countP_eq_length_filter, hperm.length_eq]

namespace Game

variable {g : Game} {c : Cell}

/-- What a frame has in the two columns of a cell. -/
def shownAt (frame : String) (c : Cell) : Option String :=
  (Text.lines frame)[c.y.toNat + 2]?.map fun line =>
    String.ofList ((line.toList.drop (2 * c.x.toNat + 1)).take 2)

/-- How many cells of the board are shown like this in a frame. -/
def countShown (frame glyph : String) : Nat :=
  board.countP fun c => shownAt frame c = some glyph

/-- A row of a frame: twenty cells of two columns between two bars. -/
structure IsRow (row : String) (cells : List String) : Prop where
  eq : row = "│" ++ String.join cells ++ "│"
  length : cells.length = 20
  columns : ∀ cell ∈ cells, cell.length = 2

/-- The frame shows just what the game is. -/
structure Pictured (g : Game) (frame : String) : Prop where
  lines : ∃ rows : List String,
    Text.lines frame =
      ["Score: " ++ toString g.score, "┌" ++ Text.repeated 40 '─' ++ "┐"] ++ rows ++
        ["└" ++ Text.repeated 40 '─' ++ "┘", "Controls: W/A/S/D to move, Q to quit"] ∧
      rows.length = 15 ∧ ∀ row ∈ rows, ∃ cells, IsRow row cells
  length : (Text.lines frame).length = 19
  head : ∀ c : Cell, c.onBoard = true → (shownAt frame c = some "●●" ↔ c = g.head)
  body : ∀ c : Cell, c.onBoard = true →
    (shownAt frame c = some "○○" ↔ c ∈ g.body ∧ c ≠ g.head)
  food : ∀ c : Cell, c.onBoard = true → (shownAt frame c = some "◆◆" ↔ g.food = some c)
  blank : ∀ c : Cell, c.onBoard = true →
    (shownAt frame c = some "  " ↔ c ∉ g.body ∧ g.food ≠ some c)
  heads : countShown frame "●●" = 1
  bodies : countShown frame "○○" = g.length - 1
  foods : countShown frame "◆◆" = if g.food.isSome then 1 else 0

/-! ## Glyphs -/

/-- What a cell shows, and why. -/
inductive Shows (g : Game) (c : Cell) : String → Prop
  | head : c = g.head → Shows g c "●●"
  | body : c ∈ g.body → c ≠ g.head → Shows g c "○○"
  | food : c ∉ g.body → g.food = some c → Shows g c "◆◆"
  | blank : c ∉ g.body → g.food ≠ some c → Shows g c "  "

theorem shows_glyph (g : Game) (c : Cell) : g.Shows c (g.glyph c) := by
  unfold glyph
  split
  · exact .head ‹_›
  · split
    · rename_i hhead hbody
      exact .body (by simpa using hbody) hhead
    · rename_i hbody
      split
      · exact .food (by simpa using hbody) ‹_›
      · exact .blank (by simpa using hbody) ‹_›

namespace Shows

variable {glyph : String}

theorem length_eq (h : g.Shows c glyph) : glyph.length = 2 := by
  cases h <;> rfl

theorem inline (h : g.Shows c glyph) : Text.Inline glyph := by
  cases h <;> decide

theorem eq_head_iff (h : g.Shows c glyph) : glyph = "●●" ↔ c = g.head := by
  cases h with
  | head hc => exact iff_of_true rfl hc
  | body _ hne => exact iff_of_false (by decide) hne
  | food hoff _ | blank hoff _ =>
    exact iff_of_false (by decide) fun hc => hoff (hc ▸ List.mem_cons_self)

theorem eq_body_iff (h : g.Shows c glyph) : glyph = "○○" ↔ c ∈ g.body ∧ c ≠ g.head := by
  cases h with
  | head hc => exact iff_of_false (by decide) fun h => h.2 hc
  | body hmem hne => exact iff_of_true rfl ⟨hmem, hne⟩
  | food hoff _ | blank hoff _ => exact iff_of_false (by decide) fun h => hoff h.1

/-- Food under the snake would not be shown, but there is none. -/
theorem eq_food_iff (h : g.Shows c glyph) (hfed : g.Fed) : glyph = "◆◆" ↔ g.food = some c := by
  have hoff : g.food = some c → c ∉ g.body := fun hfood => (hfed.lies c hfood).2
  cases h with
  | head hc => exact iff_of_false (by decide) fun h => hoff h (hc ▸ List.mem_cons_self)
  | body hmem _ => exact iff_of_false (by decide) fun h => hoff h hmem
  | food _ hfood => exact iff_of_true rfl hfood
  | blank _ hnone => exact iff_of_false (by decide) hnone

theorem eq_blank_iff (h : g.Shows c glyph) : glyph = "  " ↔ c ∉ g.body ∧ g.food ≠ some c := by
  cases h with
  | head hc => exact iff_of_false (by decide) fun h => h.1 (hc ▸ List.mem_cons_self)
  | body hmem _ => exact iff_of_false (by decide) fun h => h.1 hmem
  | food _ hfood => exact iff_of_false (by decide) fun h => h.2 hfood
  | blank hoff hnone => exact iff_of_true rfl ⟨hoff, hnone⟩

end Shows

/-! ## The layout of a frame -/

/-- The glyphs of a row. -/
def rowGlyphs (g : Game) (y : Nat) : List String :=
  (List.range width).map fun (x : Nat) => g.glyph ⟨x, y⟩

theorem isRow_renderRow (g : Game) (y : Nat) : IsRow (g.renderRow y) (g.rowGlyphs y) where
  eq := rfl
  length := by simp [rowGlyphs, width]
  columns cell hcell := by
    obtain ⟨x, -, rfl⟩ := List.mem_map.mp hcell
    exact (g.shows_glyph _).length_eq

/-- The lines of a frame. -/
def frameLines (g : Game) : List String :=
  ["Score: " ++ toString g.score, "┌" ++ Text.repeated 40 '─' ++ "┐"] ++
    (List.range height).map g.renderRow ++
      ["└" ++ Text.repeated 40 '─' ++ "┘", "Controls: W/A/S/D to move, Q to quit"]

theorem inline_renderRow (g : Game) (y : Nat) : Text.Inline (g.renderRow y) := by
  have hbar : Text.Inline "│" := ⟨by decide, by decide⟩
  refine (hbar.append (Text.inline_join fun piece hpiece => ?_)).append hbar
  obtain ⟨x, -, rfl⟩ := List.mem_map.mp hpiece
  exact (g.shows_glyph _).inline

theorem lines_render (g : Game) : Text.lines g.render = g.frameLines := by
  have hborder : Text.Inline (Text.repeated 40 '─') :=
    Text.inline_repeated (by decide) (by decide) _
  have hinline : ∀ piece ∈ ["Score: " ++ toString g.score, "┌" ++ Text.repeated 40 '─' ++ "┐"] ++
      (List.range height).map g.renderRow ++ ["└" ++ Text.repeated 40 '─' ++ "┘"],
        Text.Inline piece := by
    simp only [List.forall_mem_append, List.forall_mem_cons, List.forall_mem_map]
    refine ⟨⟨⟨?_, ?_, nofun⟩, fun y _ => g.inline_renderRow y⟩, ?_, nofun⟩
    · exact Text.Inline.append ⟨by decide, by decide⟩ (Text.inline_toString _)
    · exact (Text.Inline.append ⟨by decide, by decide⟩ hborder).append ⟨by decide, by decide⟩
    · exact (Text.Inline.append ⟨by decide, by decide⟩ hborder).append ⟨by decide, by decide⟩
  have hcontrols : Text.Inline "Controls: W/A/S/D to move, Q to quit" := ⟨by decide, by decide⟩
  have hlines := Text.lines_joinWith hinline hcontrols (by decide)
  simp only [List.append_assoc, List.singleton_append] at hlines
  simpa only [render, frameLines, width, List.append_assoc] using hlines

/-- The two columns of a cell in a row. -/
theorem take_drop_flatten {cells : List (List Char)} (h : ∀ cell ∈ cells, cell.length = 2)
    {x : Nat} (hx : x < cells.length) (rest : List Char) :
    ((cells.flatten ++ rest).drop (2 * x)).take 2 = cells[x] := by
  induction cells generalizing x with
  | nil => cases hx
  | cons cell cells ih =>
    obtain ⟨hcell, hcells⟩ := List.forall_mem_cons.mp h
    cases x with
    | zero =>
      rw [List.flatten_cons, List.append_assoc, Nat.mul_zero, List.drop_zero, ← hcell,
        List.take_left]
      rfl
    | succ x =>
      have hplace : 2 * (x + 1) = cell.length + 2 * x := by omega
      rw [List.flatten_cons, List.append_assoc, hplace, List.drop_length_add_append,
        List.getElem_cons_succ]
      exact ih hcells (Nat.lt_of_succ_lt_succ hx)

theorem toList_renderRow (g : Game) (y : Nat) :
    (g.renderRow y).toList = '│' :: (((g.rowGlyphs y).map String.toList).flatten ++ ['│']) := by
  have hbar : "│".toList = ['│'] := by decide
  have hrow : g.renderRow y = "│" ++ String.join (g.rowGlyphs y) ++ "│" := rfl
  rw [hrow, String.toList_append, String.toList_append, String.toList_join, hbar,
    List.flatMap_def, List.singleton_append, List.cons_append]

/-- In the frame stands the glyph of the cell. -/
theorem shownAt_render (g : Game) (h : c.onBoard = true) :
    shownAt g.render c = some (g.glyph c) := by
  obtain ⟨hx, hx', hy, hy'⟩ := Cell.onBoard_iff.mp h
  obtain ⟨x, y, hc⟩ : ∃ x y : Nat, c = ⟨x, y⟩ :=
    ⟨c.x.toNat, c.y.toNat, by rw [Int.toNat_of_nonneg hx, Int.toNat_of_nonneg hy]⟩
  subst hc
  have hxw : x < width := Int.ofNat_lt.mp hx'
  have hyh : y < height := Int.ofNat_lt.mp hy'
  have hline : (Text.lines g.render)[y + 2]? = some (g.renderRow y) := by
    rw [lines_render, frameLines, List.append_assoc, List.cons_append, List.cons_append,
      List.nil_append, List.getElem?_cons_succ, List.getElem?_cons_succ,
      List.getElem?_append_left (by simpa using hyh), List.getElem?_map,
      List.getElem?_range hyh, Option.map_some]
  have hcells : ∀ cell ∈ (g.rowGlyphs y).map String.toList, cell.length = 2 := by
    intro cell hcell
    obtain ⟨glyph, hglyph, rfl⟩ := List.mem_map.mp hcell
    exact (isRow_renderRow g y).columns glyph hglyph
  have hcount : x < ((g.rowGlyphs y).map String.toList).length := by
    simpa [rowGlyphs] using hxw
  have hcell := take_drop_flatten hcells hcount ['│']
  simp only [rowGlyphs, List.getElem_map, List.getElem_range] at hcell
  simp only [shownAt, Int.toNat_natCast, hline, Option.map_some, toList_renderRow,
    List.drop_succ_cons, rowGlyphs, hcell, String.ofList_toList]

/-! ## Counting cells -/

theorem countShown_eq {frame glyph : String} {cells : List Cell}
    (hboard : ∀ c ∈ cells, c.onBoard = true) (hdistinct : cells.Nodup)
    (h : ∀ c : Cell, c.onBoard = true → (shownAt frame c = some glyph ↔ c ∈ cells)) :
    countShown frame glyph = cells.length := by
  rw [← countP_mem_board hboard hdistinct, countShown]
  refine List.countP_congr fun c hc => ?_
  simpa using h c (mem_board_iff.mp hc)

theorem Intact.pictured_render (h : g.Intact) : g.Pictured g.render where
  lines := by
    refine ⟨(List.range height).map g.renderRow, g.lines_render, by simp [height], ?_⟩
    intro row hrow
    obtain ⟨y, -, rfl⟩ := List.mem_map.mp hrow
    exact ⟨_, g.isRow_renderRow y⟩
  length := by
    rw [lines_render]
    simp [frameLines, height]
  head c hc := by rw [shownAt_render g hc, Option.some_inj, (g.shows_glyph c).eq_head_iff]
  body c hc := by rw [shownAt_render g hc, Option.some_inj, (g.shows_glyph c).eq_body_iff]
  food c hc := by rw [shownAt_render g hc, Option.some_inj, (g.shows_glyph c).eq_food_iff h.toFed]
  blank c hc := by rw [shownAt_render g hc, Option.some_inj, (g.shows_glyph c).eq_blank_iff]
  heads := by
    refine countShown_eq ?_ (List.nodup_singleton g.head) fun c hc => ?_
    · exact List.forall_mem_singleton.mpr (h.laid.onBoard _ List.mem_cons_self)
    · rw [shownAt_render g hc, Option.some_inj, (g.shows_glyph c).eq_head_iff, List.mem_singleton]
  bodies := by
    obtain ⟨hhead, htail⟩ := List.nodup_cons.mp h.laid.distinct
    refine countShown_eq (fun c hc => ?_) htail fun c hc => ?_
    · exact h.laid.onBoard c (List.mem_cons_of_mem _ hc)
    · rw [shownAt_render g hc, Option.some_inj, (g.shows_glyph c).eq_body_iff, Game.body,
        List.mem_cons]
      refine ⟨fun hbody => hbody.1.resolve_left hbody.2, fun hmem => ⟨.inr hmem, ?_⟩⟩
      rintro rfl
      exact hhead hmem
  foods := by
    have hcount : countShown g.render "◆◆" = g.food.toList.length := by
      refine countShown_eq (fun c hc => ?_) ?_ fun c hc => ?_
      · exact (h.lies c (Option.mem_toList.mp hc)).1
      · cases g.food with
        | none => exact List.nodup_nil
        | some c => exact List.nodup_singleton c
      · rw [shownAt_render g hc, Option.some_inj, (g.shows_glyph c).eq_food_iff h.toFed,
          Option.mem_toList]
    rw [hcount]
    cases g.food <;> rfl

/-- The frame of every game shows the score and the cells of the board, each as what lies there: one
head, the cells behind it, and the food if there is any. -/
theorem Reachable.pictured (h : g.Reachable) : g.Pictured g.render := h.toIntact.pictured_render

/-- A snake that has eaten a piece of food, and the next piece. -/
theorem pictured_fed :
    let g := (new 158).play [.step]
    g.Reachable ∧ g.body = [⟨11, 7⟩, ⟨10, 7⟩] ∧ g.food = some ⟨2, 6⟩ ∧ g.Pictured g.render ∧
      shownAt g.render ⟨11, 7⟩ = some "●●" ∧ shownAt g.render ⟨10, 7⟩ = some "○○" ∧
      shownAt g.render ⟨2, 6⟩ = some "◆◆" ∧ countShown g.render "●●" = 1 ∧
        countShown g.render "○○" = 1 ∧ countShown g.render "◆◆" = 1 := by
  intro g
  have hreach : g.Reachable := (Reachable.new 158).play _
  have hstate : (g.head, g.body, g.food) = (⟨11, 7⟩, [⟨11, 7⟩, ⟨10, 7⟩], some ⟨2, 6⟩) := by
    decide +kernel
  simp only [Prod.mk.injEq] at hstate
  obtain ⟨hhead, hbody, hfood⟩ := hstate
  have hpictured := hreach.pictured
  have hbodies := hpictured.bodies
  have hfoods := hpictured.foods
  rw [length, hbody] at hbodies
  rw [hfood] at hfoods
  refine ⟨hreach, hbody, hfood, hpictured, ?_, ?_, ?_, hpictured.heads, hbodies, hfoods⟩
  · exact (hpictured.head _ (by decide)).mpr hhead.symm
  · exact (hpictured.body _ (by decide)).mpr (by rw [hbody, hhead]; decide)
  · exact (hpictured.food _ (by decide)).mpr hfood

end Game
end Snake
end DevConsole
