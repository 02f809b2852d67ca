import DevConsole.Game.Snake
import DevConsole.Proofs.Random
import Mathlib.Data.List.Chain
import Mathlib.Data.List.Nodup

/-!
# The snake over a whole game

`Game.Reachable` holds of the games that can come about: a new one, and whatever steps, turns and
quitting make of it. In each of them the snake is a chain of different cells of the board and the
food lies on a cell that it leaves free (`Game.Intact`). `Game.Stepped` tells apart what a step can
do, and what steps change and keep is read off it (`Game.Advances`, `Intact.stepped`).
-/

namespace DevConsole.Snake

/-! ## Cells -/

namespace Cell

/-- The cells have a side in common. -/
def Beside (c d : Cell) : Prop :=
  c.x = d.x ∧ (c.y = d.y + 1 ∨ d.y = c.y + 1) ∨ c.y = d.y ∧ (c.x = d.x + 1 ∨ d.x = c.x + 1)

theorem beside_next (c : Cell) (h : Heading) : (c.next h).Beside c := by
  cases h <;> simp [next, Beside]

theorem onBoard_iff {c : Cell} :
    c.onBoard = true ↔ 0 ≤ c.x ∧ c.x < width ∧ 0 ≤ c.y ∧ c.y < height := by
  simp [onBoard, and_assoc]

end Cell

theorem mem_board_iff {c : Cell} : c ∈ board ↔ c.onBoard = true := by
  rw [Cell.onBoard_iff]
  simp only [board, List.mem_flatMap, List.mem_map, List.mem_range]
  constructor
  · rintro ⟨y, hy, x, hx, rfl⟩
    simp only
    omega
  · rintro ⟨hx, hx', hy, hy'⟩
    refine ⟨c.y.toNat, by omega, c.x.toNat, by omega, ?_⟩
    rw [Int.toNat_of_nonneg hx, Int.toNat_of_nonneg hy]

namespace Game

variable {g g' : Game} {o : Step} {c : Cell}

/-! ## Food -/

theorem mem_freeCells_iff : c ∈ g.freeCells ↔ c.onBoard = true ∧ c ∉ g.body := by
  simp [freeCells, mem_board_iff]

@[simp] theorem body_spawnFood (g : Game) : g.spawnFood.body = g.body := rfl

/-- Food lies on the board and off the snake, and is missing only where the snake fills the
board. -/
structure Fed (g : Game) : Prop where
  lies : ∀ c, g.food = some c → c.onBoard = true ∧ c ∉ g.body
  full : g.food = none ↔ ∀ c : Cell, c.onBoard = true → c ∈ g.body

theorem fed_spawnFood (g : Game) : g.spawnFood.Fed where
  lies _ hc := mem_freeCells_iff.mp (Random.mem_of_choose? hc)
  full := by
    have hnone : g.spawnFood.food = none ↔ g.freeCells = [] := Random.choose?_eq_none_iff
    rw [hnone, List.eq_nil_iff_forall_not_mem, body_spawnFood]
    simp only [mem_freeCells_iff, not_and, not_not]

/-! ## Steps -/

/-- The cell that the next step enters. -/
def ahead (g : Game) : Cell := g.head.next g.heading

/-- The snake moved on by one cell. -/
def shifted (g : Game) : Game := { g with head := g.ahead, tail := g.body.dropLast }

/-- The snake with the cell ahead added to it, and food in a new place if there is one left. -/
def grown (g : Game) : Game :=
  spawnFood { g with head := g.ahead, tail := g.body, score := g.score + 1 }

/-- What a step can do. -/
inductive Stepped (g : Game) : Step → Game → Prop
  | idle : g.isOver = true → Stepped g .gameOver g
  | crashed : g.isOver = false → g.ahead.onBoard = false ∨ g.ahead ∈ g.body →
      Stepped g .gameOver g.quit
  | ate : g.isOver = false → g.ahead.onBoard = true → g.ahead ∉ g.body → g.food = some g.ahead →
      Stepped g .ate { g.grown with isOver := g.grown.food.isNone }
  | moved : g.isOver = false → g.ahead.onBoard = true → g.ahead ∉ g.body →
      g.food ≠ some g.ahead → Stepped g .moved g.shifted

theorem step_of_isOver (h : g.isOver = true) : g.step = (.gameOver, g) := if_pos h

/-- After a meal the game is over exactly if there is no food left. -/
theorem ended_grown (h : g.isOver = false) :
    (if g.grown.food.isNone then g.grown.quit else g.grown) =
      { g.grown with isOver := g.grown.food.isNone } := by
  have hkept : g.grown.isOver = false := h
  split
  · rename_i hnone
    rw [hnone]
    rfl
  · rename_i hsome
    rw [Bool.eq_false_iff.mpr hsome, ← hkept]

theorem stepped_step (g : Game) : g.Stepped g.step.1 g.step.2 := by
  cases hover : g.isOver with
  | true =>
    rw [step_of_isOver hover]
    exact .idle hover
  | false =>
    have hstep : g.step =
        if !g.ahead.onBoard || g.body.contains g.ahead then (.gameOver, g.quit)
        else if g.food = some g.ahead then
          (.ate, if g.grown.food.isNone then g.grown.quit else g.grown)
        else (.moved, g.shifted) := by
      rw [step, if_neg (by simp [hover])]
      rfl
    rw [hstep]
    split
    · rename_i hcrash
      exact .crashed hover (by simpa using hcrash)
    · rename_i hfree
      obtain ⟨hboard, hbody⟩ : g.ahead.onBoard = true ∧ g.ahead ∉ g.body := by simpa using hfree
      split
      · rename_i hfood
        rw [ended_grown hover]
        exact .ate hover hboard hbody hfood
      · rename_i hfood
        exact .moved hover hboard hbody hfood

/-- What a step does to the snake: it is moved on by one cell, or longer by one cell, or the game is
over and all is as it was. -/
structure Advances (g : Game) : Prop where
  moved : ∀ g', g.step = (.moved, g') →
    g'.length = g.length ∧ g'.score = g.score ∧ g'.body = g.ahead :: g.body.dropLast
  ate : ∀ g', g.step = (.ate, g') →
    g'.length = g.length + 1 ∧ g'.score = g.score + 1 ∧ g'.body = g.ahead :: g.body
  gameOver : ∀ g', g.step = (.gameOver, g') → g' = g.quit

theorem Stepped.of_eq (h : g.step = (o, g')) : g.Stepped o g' := by
  have hstepped := g.stepped_step
  rw [h] at hstepped
  exact hstepped

theorem step_eq_gameOver_iff :
    g.step.1 = .gameOver ↔ g.isOver = true ∨ g.ahead.onBoard = false ∨ g.ahead ∈ g.body := by
  rcases hstep : g.step with ⟨o, g'⟩
  cases Stepped.of_eq hstep with
  | idle hover => exact iff_of_true rfl (.inl hover)
  | crashed _ hcrash => exact iff_of_true rfl (.inr hcrash)
  | ate hover hboard hbody _ | moved hover hboard hbody _ =>
    exact iff_of_false nofun (by simp [hover, hboard, hbody])

theorem advances (g : Game) : g.Advances where
  moved g' h := by
    cases Stepped.of_eq h
    exact ⟨by simp [length, shifted, body], rfl, rfl⟩
  ate g' h := by
    cases Stepped.of_eq h
    exact ⟨rfl, rfl, rfl⟩
  gameOver g' h := by
    cases Stepped.of_eq h with
    | idle hover => rw [quit, ← hover]
    | crashed => rfl

/-! ## What every game keeps -/

/-- Different cells of the board, each beside the next one. -/
structure Laid (cells : List Cell) : Prop where
  onBoard : ∀ c ∈ cells, c.onBoard = true
  distinct : cells.Nodup
  linked : cells.IsChain Cell.Beside

theorem Laid.enter (h : Laid g.body) (hboard : g.ahead.onBoard = true) (hbody : g.ahead ∉ g.body) :
    Laid (g.ahead :: g.body) where
  onBoard := List.forall_mem_cons.mpr ⟨hboard, h.onBoard⟩
  distinct := h.distinct.cons hbody
  linked := .cons_cons (Cell.beside_next _ _) h.linked

theorem Laid.dropLast {cells : List Cell} (h : Laid cells) : Laid cells.dropLast where
  onBoard c hc := h.onBoard c (List.dropLast_subset _ hc)
  distinct := h.distinct.sublist (List.dropLast_sublist _)
  linked := h.linked.dropLast

/-- What holds of a game at any time. -/
structure Intact (g : Game) : Prop extends Fed g where
  laid : Laid g.body
  length_eq : g.length = g.score + 1
  unfed : g.food = none → g.isOver = true

theorem body_new (seed : UInt64) : (new seed).body = [⟨10, 7⟩] := rfl

theorem intact_new (seed : UInt64) : (new seed).Intact where
  toFed := fed_spawnFood _
  laid := ⟨by rw [body_new]; decide, List.nodup_singleton _, .singleton _⟩
  length_eq := rfl
  -- the snake leaves the corner free
  unfed hnone := by
    have hcorner := (fed_spawnFood _).full.mp hnone ⟨0, 0⟩ (by decide)
    rw [← new, body_new] at hcorner
    exact absurd hcorner (by decide)

namespace Intact

theorem exists_food (h : g.Intact) (hover : g.isOver = false) : ∃ c, g.food = some c :=
  Option.ne_none_iff_exists'.mp fun hnone => by
    rw [h.unfed hnone] at hover
    cases hover

theorem shifted (h : g.Intact) (hover : g.isOver = false) (hboard : g.ahead.onBoard = true)
    (hbody : g.ahead ∉ g.body) (hfood : g.food ≠ some g.ahead) : g.shifted.Intact := by
  have hlies : ∀ c, g.food = some c → c.onBoard = true ∧ c ∉ g.shifted.body := fun c hc => by
    obtain ⟨hon, hoff⟩ := h.lies c hc
    refine ⟨hon, fun hmem => ?_⟩
    rcases List.mem_cons.mp hmem with rfl | hmem
    · exact hfood hc
    · exact hoff (List.dropLast_subset _ hmem)
  obtain ⟨food, hsome⟩ := h.exists_food hover
  refine ⟨⟨hlies, ⟨fun hnone => ?_, fun hall => ?_⟩⟩, (h.laid.enter hboard hbody).dropLast, ?_,
    h.unfed⟩
  · exact absurd hnone (by rw [Game.shifted, hsome]; exact nofun)
  · exact absurd (hall food (hlies food hsome).1) (hlies food hsome).2
  · have hlength := h.length_eq
    simpa [length, Game.shifted, body] using hlength

theorem ate (h : g.Intact) (hboard : g.ahead.onBoard = true) (hbody : g.ahead ∉ g.body) :
    ({ g.grown with isOver := g.grown.food.isNone } : Game).Intact := by
  have hfed : g.grown.Fed := fed_spawnFood _
  have hlength : g.grown.length = g.grown.score + 1 := congrArg Nat.succ h.length_eq
  exact ⟨⟨hfed.lies, hfed.full⟩, h.laid.enter hboard hbody, hlength, Option.isNone_iff_eq_none.mpr⟩

/-- The heading is of no matter, and a game may be over for any reason. -/
theorem of_eq (h : g.Intact) (hbody : g'.body = g.body) (hscore : g'.score = g.score)
    (hfood : g'.food = g.food) (hover : g.isOver = true → g'.isOver = true) : g'.Intact where
  lies := by rw [hfood, hbody]; exact h.lies
  full := by rw [hfood, hbody]; exact h.full
  laid := by rw [hbody]; exact h.laid
  length_eq := by rw [length, hbody, hscore]; exact h.length_eq
  unfed hnone := hover (h.unfed (by rw [← hfood, hnone]))

theorem quit (h : g.Intact) : g.quit.Intact := h.of_eq rfl rfl rfl fun _ => rfl

theorem steer (h : g.Intact) (k : Heading) : (g.steer k).Intact := by
  unfold Game.steer
  split
  · exact h
  · exact h.of_eq rfl rfl rfl id

/-- What a step keeps. -/
theorem stepped (h : g.Intact) (hstep : g.Stepped o g') : g'.Intact := by
  cases hstep with
  | idle => exact h
  | crashed => exact h.quit
  | ate _ hboard hbody _ => exact h.ate hboard hbody
  | moved hover hboard hbody hfood => exact h.shifted hover hboard hbody hfood

end Intact

/-! ## Games -/

/-- What can be done with a game. -/
inductive Move where
  | step
  | steer (heading : Heading)
  | quit
  deriving DecidableEq, Repr

/-- The game after a move. -/
def after (g : Game) : Move → Game
  | .step => g.step.2
  | .steer heading => g.steer heading
  | .quit => g.quit

/-- The game after moves, one after the other. -/
def play (g : Game) (moves : List Move) : Game := moves.foldl after g

/-- The games that can come about. -/
inductive Reachable : Game → Prop
  | new (seed : UInt64) : Reachable (new seed)
  | after {g : Game} (move : Move) : Reachable g → Reachable (g.after move)

theorem Reachable.play (h : g.Reachable) (moves : List Move) : (g.play moves).Reachable := by
  induction moves generalizing g with
  | nil => exact h
  | cons move rest ih => exact ih (h.after move)

theorem Reachable.toIntact (h : g.Reachable) : g.Intact := by
  induction h with
  | new seed => exact intact_new seed
  | @after g move _ ih =>
    cases move with
    | step => exact ih.stepped g.stepped_step
    | steer heading => exact ih.steer heading
    | quit => exact ih.quit

theorem isOver_after (h : g.isOver = true) (move : Move) : (g.after move).isOver = true := by
  cases move with
  | step => rw [after, step_of_isOver h, h]
  | steer heading =>
    rw [after, steer]
    split <;> exact h
  | quit => rfl

theorem isOver_play (h : g.isOver = true) (moves : List Move) : (g.play moves).isOver = true := by
  induction moves generalizing g with
  | nil => exact h
  | cons move rest ih => exact ih (isOver_after h move)

/-- In every game the snake is a chain of different cells of the board, one cell longer than the
score; food lies off the snake, and is missing only where the snake fills the board and the game is
over. A step moves the snake on or makes it longer by the cell ahead. A game that is over stays over
whatever is done with it, and its steps do nothing. -/
theorem Reachable.intact_advances (h : g.Reachable) :
    g.Intact ∧ g.Advances ∧ (g.isOver = false → ∃ c, g.food = some c) ∧
      (g.isOver = true → ∀ moves, (g.play moves).isOver = true ∧
        (g.play moves).step = (.gameOver, g.play moves)) := by
  refine ⟨h.toIntact, g.advances, fun hover => ?_, fun hover moves => ?_⟩
  · exact h.toIntact.exists_food hover
  · have hover' := isOver_play hover moves
    exact ⟨hover', step_of_isOver hover'⟩

/-- A snake that has eaten a piece of food and then run into the border. -/
theorem intact_advances_crashed :
    let g := (new 158).play (List.replicate 10 .step)
    g.Reachable ∧ g.body = [⟨19, 7⟩, ⟨18, 7⟩] ∧ g.score = 1 ∧ g.food = some ⟨2, 6⟩ ∧
      g.isOver = true ∧ g.Intact ∧ g.Advances ∧
        ∀ moves, (g.play moves).isOver = true ∧
          (g.play moves).step = (.gameOver, g.play moves) := by
  intro g
  have hreach : g.Reachable := (Reachable.new 158).play _
  have hstate : (g.body, g.score, g.food, g.isOver) =
      ([⟨19, 7⟩, ⟨18, 7⟩], 1, some ⟨2, 6⟩, true) := by decide +kernel
  simp only [Prod.mk.injEq] at hstate
  obtain ⟨hbody, hscore, hfood, hover⟩ := hstate
  obtain ⟨hintact, hadvances, -, hstays⟩ := hreach.intact_advances
  exact ⟨hreach, hbody, hscore, hfood, hover, hintact, hadvances, hstays hover⟩

end Game
end DevConsole.Snake
