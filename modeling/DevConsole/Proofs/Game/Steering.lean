import DevConsole.Proofs.Game.Snake
import Mathlib.Data.List.Induction

/-!
# Turns between two steps

A turn is refused where it is opposite to the heading, and the heading is the last turn that was not
refused, not the direction in which the snake has moved. So single turns never reverse a snake, but
turns between two steps may do so together. `Heading.Reverses` says when they do: a turn to a side
is followed by the opposite of the direction moved, and by nothing to a side after it
(`foldl_turn_eq_opposite_iff`). Exactly then the next step runs into the cell behind the head
(`Reachable.sparesNeck_iff_not_reverses`).
-/

namespace DevConsole.Snake

/-! ## Headings -/

namespace Heading

variable {d h k : Heading} {turns : List Heading}

/-- The heading after a turn. -/
def turn (h k : Heading) : Heading := if k = h.opposite then h else k

/-- The heading is on the line of a direction. -/
def Along (d k : Heading) : Prop := k = d ∨ k = d.opposite

instance : DecidableRel Along := fun d k => inferInstanceAs (Decidable (k = d ∨ k = d.opposite))

/-- Turns that reverse someone who moves in the direction `d`. -/
def Reverses (d : Heading) (turns : List Heading) : Prop :=
  ∃ before side after, turns = before ++ side :: d.opposite :: after ∧ ¬d.Along side ∧
    ∀ k ∈ after, d.Along k

/-- The last of the turns is one to a side. -/
def EndsAside (d : Heading) (turns : List Heading) : Prop :=
  ∃ side, turns.getLast? = some side ∧ ¬d.Along side

theorem opposite_ne (d : Heading) : d.opposite ≠ d := by cases d <;> decide

theorem along_turn_iff : d.Along (h.turn k) ↔ d.Along k := by
  cases d <;> cases h <;> cases k <;> decide

theorem turn_self_eq_opposite_iff : h.turn d = d.opposite ↔ h = d.opposite := by
  cases d <;> cases h <;> decide

theorem turn_opposite_eq_opposite_iff : h.turn d.opposite = d.opposite ↔ h ≠ d := by
  cases d <;> cases h <;> decide

theorem ne_iff : h ≠ d ↔ h = d.opposite ∨ ¬d.Along h := by
  cases d <;> cases h <;> decide

theorem not_along_foldl_turn_iff : ¬d.Along (turns.foldl turn d) ↔ d.EndsAside turns := by
  induction turns using List.reverseRecOn with
  | nil => simp [EndsAside, Along]
  | append_singleton turns k _ => simp [EndsAside, along_turn_iff]

/-- The reversal is there already, or the last turn makes it. -/
theorem reverses_append_singleton :
    d.Reverses (turns ++ [k]) ↔
      d.Along k ∧ d.Reverses turns ∨ k = d.opposite ∧ d.EndsAside turns := by
  constructor
  · rintro ⟨before, side, after, heq, hside, hafter⟩
    rcases List.eq_nil_or_concat after with rfl | ⟨after, last, rfl⟩
    · have hsplit : turns ++ [k] = (before ++ [side]) ++ [d.opposite] := by simpa using heq
      obtain ⟨rfl, hk⟩ := List.append_inj' hsplit rfl
      exact .inr ⟨List.singleton_inj.mp hk, side, by simp, hside⟩
    · have hsplit : turns ++ [k] = (before ++ side :: d.opposite :: after) ++ [last] := by
        simpa using heq
      obtain ⟨rfl, hk⟩ := List.append_inj' hsplit rfl
      obtain rfl := List.singleton_inj.mp hk
      exact .inl ⟨hafter k (by simp), before, side, after, rfl, hside, fun k' hk' =>
        hafter k' (by simp [hk'])⟩
  · rintro (⟨hk, before, side, after, rfl, hside, hafter⟩ | ⟨rfl, side, hlast, hside⟩)
    · refine ⟨before, side, after ++ [k], by simp, hside, fun k' hk' => ?_⟩
      rcases List.mem_append.mp hk' with hk' | hk'
      · exact hafter k' hk'
      · rwa [List.mem_singleton.mp hk']
    · obtain ⟨before, rfl⟩ := List.getLast?_eq_some_iff.mp hlast
      exact ⟨before, side, [], by simp, hside, nofun⟩

/-- The turns that reverse someone whose heading is the direction in which he has moved. -/
theorem foldl_turn_eq_opposite_iff : turns.foldl turn d = d.opposite ↔ d.Reverses turns := by
  induction turns using List.reverseRecOn with
  | nil => exact iff_of_false (opposite_ne d).symm fun ⟨_, _, _, h, _⟩ => by simp at h
  | append_singleton turns k ih =>
    rw [List.foldl_append, List.foldl_cons, List.foldl_nil, reverses_append_singleton, ← ih,
      ← not_along_foldl_turn_iff]
    by_cases hk : d.Along k
    · rcases hk with rfl | rfl
      · rw [turn_self_eq_opposite_iff]
        simp [Along, (opposite_ne k).symm]
      · rw [turn_opposite_eq_opposite_iff, ne_iff]
        simp [Along]
    · have hturn : (turns.foldl turn d).turn k ≠ d.opposite := fun heq =>
        hk (along_turn_iff.mp (.inr heq))
      have hne : k ≠ d.opposite := fun heq => hk (.inr heq)
      simp [hturn, hk, hne]

end Heading

/-- The way back. -/
theorem Cell.next_next_eq_self_iff {c : Cell} {h k : Heading} :
    (c.next h).next k = c ↔ k = h.opposite := by
  obtain ⟨x, y⟩ := c
  cases h <;> cases k <;> simp [next, Heading.opposite] <;> omega

/-! ## Steering -/

namespace Game

variable {g g' : Game} {o : Step} {neck : Cell} {turns : List Heading}

/-- The game after turns, one after the other. -/
def steers (g : Game) (turns : List Heading) : Game := turns.foldl steer g

theorem steers_append (g : Game) (first second : List Heading) :
    g.steers (first ++ second) = (g.steers first).steers second := List.foldl_append

theorem steer_eq (g : Game) (k : Heading) : g.steer k = { g with heading := g.heading.turn k } := by
  unfold steer Heading.turn
  split <;> rfl

/-- Turns change the heading and nothing else. -/
theorem steers_eq (g : Game) (turns : List Heading) :
    g.steers turns = { g with heading := turns.foldl Heading.turn g.heading } := by
  induction turns generalizing g with
  | nil => rfl
  | cons k rest ih =>
    rw [steers, List.foldl_cons, steer_eq, ← steers, ih]
    rfl

theorem Reachable.steers (h : g.Reachable) (turns : List Heading) : (g.steers turns).Reachable := by
  induction turns generalizing g with
  | nil => exact h
  | cons k rest ih => exact ih (h.after (.steer k))

/-- If the next step is a crash, then into the border or into another cell of the snake than the one
right behind the head. -/
def SparesNeck (g : Game) : Prop :=
  g.step.1 = .gameOver → g.ahead.onBoard = false ∨ g.ahead ∈ g.body ∧ g.tail.head? ≠ some g.ahead

theorem sparesNeck_iff_ahead_ne (h : g.Intact) (hover : g.isOver = false)
    (hneck : g.tail.head? = some neck) : g.SparesNeck ↔ g.ahead ≠ neck := by
  have hcrash : g.step.1 = .gameOver ↔ g.ahead.onBoard = false ∨ g.ahead ∈ g.body := by
    rw [step_eq_gameOver_iff, hover]
    simp
  rw [SparesNeck, hcrash, hneck]
  constructor
  · rintro hspares rfl
    have hbody : g.ahead ∈ g.body := List.mem_cons_of_mem _ (List.mem_of_mem_head? hneck)
    rcases hspares (.inr hbody) with hoff | ⟨-, hne⟩
    · rw [h.laid.onBoard _ hbody] at hoff
      cases hoff
    · exact hne rfl
  · intro hne hwhere
    exact hwhere.imp_right fun hmem => ⟨hmem, fun heq => hne (Option.some.inj heq).symm⟩

/-- After a step that has gone well the cell that the head has left is the one right behind it. -/
theorem Stepped.head?_tail (h : g.Stepped o g') (ho : o ≠ .gameOver) (hlength : 2 ≤ g'.length) :
    g'.head = g.head.next g.heading ∧ g'.heading = g.heading ∧ g'.tail.head? = some g.head := by
  cases h with
  | idle | crashed => exact absurd rfl ho
  | ate => exact ⟨rfl, rfl, rfl⟩
  | moved =>
    refine ⟨rfl, rfl, ?_⟩
    cases htail : g.tail with
    | nil => simp [length, shifted, body, htail] at hlength
    | cons c rest => simp [shifted, body, htail]

/-- A game that goes on with a snake of some length has made a step that has gone well, and then
turns at most. -/
theorem Reachable.exists_steers (h : g.Reachable) (hover : g.isOver = false)
    (hlength : 2 ≤ g.length) :
    ∃ (before : Game) (turns : List Heading), before.Reachable ∧ before.step.1 ≠ .gameOver ∧
      g = before.step.2.steers turns := by
  induction h with
  | new seed => exact absurd hlength (by rw [length, body_new]; decide)
  | @after g move hreach ih =>
    cases move with
    | step =>
      refine ⟨g, [], hreach, fun hcrash => ?_, rfl⟩
      rw [Game.after, g.advances.gameOver g.step.2 (Prod.ext hcrash rfl)] at hover
      cases hover
    | steer k =>
      rw [Game.after, steer_eq] at hover hlength
      obtain ⟨before, turns, hbefore, hwell, rfl⟩ := ih hover hlength
      exact ⟨before, turns ++ [k], hbefore, hwell, by rw [steers_append]; rfl⟩
    | quit => cases hover

/-- Between two steps of a snake of some length, the next step spares the cell behind the head
exactly if the turns since the last step, those to come included, do not reverse the snake. -/
theorem Reachable.sparesNeck_iff_not_reverses (h : g.Reachable) (hover : g.isOver = false)
    (hlength : 2 ≤ g.length) :
    (∃ (before : Game) (past : List Heading), before.Reachable ∧ before.step.1 ≠ .gameOver ∧
        g = before.step.2.steers past) ∧
      ∀ (before : Game) (past : List Heading), before.Reachable → before.step.1 ≠ .gameOver →
        g = before.step.2.steers past →
          ∀ turns, (g.steers turns).SparesNeck ↔ ¬before.heading.Reverses (past ++ turns) := by
  refine ⟨h.exists_steers hover hlength, ?_⟩
  rintro before past hbefore hwell rfl turns
  have hturned := h.steers turns
  rw [← steers_append, steers_eq] at hturned ⊢
  rw [steers_eq] at hover hlength
  obtain ⟨hhead, hheading, hneck⟩ := before.stepped_step.head?_tail hwell hlength
  rw [sparesNeck_iff_ahead_ne hturned.toIntact hover hneck, ahead, hhead, hheading, ne_eq,
    Cell.next_next_eq_self_iff, Heading.foldl_turn_eq_opposite_iff]

/-- A turn to a side that is taken back is harmless. -/
theorem sparesNeck_taken_back :
    let g := (new 158).play [.step]
    g.Reachable ∧ g.isOver = false ∧ 2 ≤ g.length ∧ (new 158).step.1 = .ate ∧
      ¬(new 158).heading.Reverses [.up, .right] ∧ (g.steers [.up, .right]).SparesNeck := by
  intro g
  have hreach : g.Reachable := (Reachable.new 158).play _
  have hover : g.isOver = false := by decide +kernel
  have hlength : 2 ≤ g.length := by decide +kernel
  have hate : (new 158).step.1 = .ate := by decide +kernel
  have hreverses : ¬(new 158).heading.Reverses [.up, .right] :=
    Heading.foldl_turn_eq_opposite_iff.not.mp (by decide +kernel)
  obtain ⟨-, hspares⟩ := hreach.sparesNeck_iff_not_reverses hover hlength
  exact ⟨hreach, hover, hlength, hate, hreverses,
    (hspares (new 158) [] (.new 158) (by rw [hate]; exact nofun) rfl [.up, .right]).mpr hreverses⟩

/-- A snake of two cells that moves to the right, and is turned up and left before the next step,
runs into the cell behind its head. -/
theorem not_sparesNeck_aside_reversed :
    let g := (new 158).play [.step]
    g.Reachable ∧ g.isOver = false ∧ 2 ≤ g.length ∧ ¬(g.steers [.up, .left]).SparesNeck := by
  intro g
  have hcrash : (g.steers [.up, .left]).step.1 = .gameOver ∧
      (g.steers [.up, .left]).ahead.onBoard = true ∧
      (g.steers [.up, .left]).tail.head? = some (g.steers [.up, .left]).ahead := by decide +kernel
  refine ⟨(Reachable.new 158).play _, by decide +kernel, by decide +kernel, fun hspares => ?_⟩
  rcases hspares hcrash.1 with hoff | ⟨-, hne⟩
  · rw [hcrash.2.1] at hoff
    cases hoff
  · exact hne hcrash.2.2

end Game
end DevConsole.Snake
