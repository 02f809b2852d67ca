import DevConsole.Proofs.Game.Blackjack
import Mathlib.Logic.Function.Iterate

/-!
# Shuffled lists and decks

Shuffling exchanges places of a list, from the last one down to the second, each with a place drawn
at or before it (`exchanges`). `Exchanged` relates a list to what is left of it after exchanges that
all lie within it. So shuffling is a run of exchanges, one draw each (`shuffled_shuffle`), and a
shuffled deck has each of the fifty-two cards once (`count_shuffledDeck`).
-/

namespace DevConsole

namespace Random

variable {α : Type} {items : Array α} {r : Random}

/-- The source after as many draws. -/
def after (r : Random) (draws : Nat) : Random := (fun r => r.next64.2)^[draws] r

/-- The exchange that shuffling a list of this length makes after as many others: of the last place
that is not settled yet, with the one drawn for it. -/
def exchange (length : Nat) (r : Random) (made : Nat) : Nat × Nat :=
  (length - 1 - made, ((r.after made).below (length - made)).1)

/-- The exchanges that shuffling a list of this length makes. -/
def exchanges (length : Nat) (r : Random) : List (Nat × Nat) :=
  (List.range (length - 1)).map (exchange length r)

/-- The places are exchanged in order, all of them within the list. -/
inductive Exchanged {α : Type} : List (Nat × Nat) → Array α → Array α → Prop
  | done (items : Array α) : Exchanged [] items items
  | swap {items result : Array α} {i j : Nat} {rest : List (Nat × Nat)} (hi : i < items.size)
      (hj : j < items.size) :
      Exchanged rest (items.swap i j) result → Exchanged ((i, j) :: rest) items result

/-- What shuffling a list comes to. -/
structure Shuffled (items : List α) (r : Random) (result : List α) (r' : Random) : Prop where
  perm : result.Perm items
  exchanged : Exchanged (exchanges items.length r) items.toArray result.toArray
  inRange : ∀ e ∈ exchanges items.length r, e.2 ≤ e.1 ∧ e.1 < items.length
  short : items.length ≤ 1 → result = items
  draws : r' = r.after (items.length - 1)

theorem below_snd (n : Nat) (r : Random) : (r.below n).2 = r.next64.2 := rfl

theorem after_succ (r : Random) (draws : Nat) : r.after (draws + 1) = r.next64.2.after draws :=
  Function.iterate_succ_apply _ _ _

theorem exchanges_succ (last : Nat) (r : Random) :
    exchanges (last + 2) r =
      (last + 1, (r.below (last + 2)).1) :: exchanges (last + 1) (r.below (last + 2)).2 := by
  have hlater : ∀ made, exchange (last + 2) r (made + 1) =
      exchange (last + 1) (r.below (last + 2)).2 made := by
    intro made
    have hplace : last + 2 - 1 - (made + 1) = last + 1 - 1 - made := by omega
    have hbound : last + 2 - (made + 1) = last + 1 - made := by omega
    rw [exchange, exchange, hplace, hbound, after_succ, below_snd]
  have hcount : last + 2 - 1 = last + 1 := rfl
  rw [exchanges, hcount, List.range_succ_eq_map, List.map_cons, List.map_map]
  exact congrArg (List.cons _) (List.map_congr_left fun made _ => hlater made)

theorem exchanges_inRange {length : Nat} {e : Nat × Nat} (h : e ∈ exchanges length r) :
    e.2 ≤ e.1 ∧ e.1 < length := by
  obtain ⟨made, hmade, rfl⟩ := List.mem_map.mp h
  rw [List.mem_range] at hmade
  have hdrawn := below_lt (n := length - made) (by omega) (r.after made)
  simp only [exchange]
  omega

theorem exchanged_shuffleFrom {last : Nat} (h : last < items.size) (r : Random) :
    Exchanged (exchanges (last + 1) r) items (shuffleFrom last items r).1 := by
  induction last generalizing items r with
  | zero => exact .done items
  | succ last ih =>
    have hdrawn := below_lt (Nat.succ_pos (last + 1)) r
    have hj : (r.below (last + 2)).1 < items.size := Nat.lt_of_lt_of_le hdrawn h
    rw [exchanges_succ, shuffleFrom_succ]
    dsimp only
    rw [Array.swapIfInBounds_def, dif_pos h, dif_pos hj]
    exact .swap h hj (ih (by rw [Array.size_swap]; omega) _)

theorem shuffleFrom_snd (last : Nat) (items : Array α) (r : Random) :
    (shuffleFrom last items r).2 = r.after last := by
  induction last generalizing items r with
  | zero => rfl
  | succ last ih =>
    rw [shuffleFrom_succ, after_succ, ← below_snd (last + 2)]
    exact ih _ _

theorem shuffled_shuffle (items : List α) (r : Random) :
    Shuffled items r (r.shuffle items).1 (r.shuffle items).2 where
  perm := perm_shuffle items r
  exchanged := by
    cases items with
    | nil => exact .done #[]
    | cons first rest => exact exchanged_shuffleFrom (Nat.lt_succ_self rest.length) r
  inRange _ h := exchanges_inRange h
  short h := by
    have hnone : items.length - 1 = 0 := Nat.sub_eq_zero_of_le h
    rw [shuffle, hnone]
    rfl
  draws := shuffleFrom_snd _ _ r

end Random

namespace Blackjack

/-- Of each card there is one in a shuffled deck. -/
theorem count_shuffledDeck (r : Random) (c : Card) :
    (shuffledDeck r).1.count c = if 1 ≤ c.rank ∧ c.rank ≤ 13 then 1 else 0 := by
  have hperm : (shuffledDeck r).1.Perm fullDeck := Random.perm_shuffle fullDeck r
  rw [hperm.count_eq, nodup_fullDeck.count]
  simp only [mem_fullDeck_iff]

/-- Shuffling a list permutes it by exchanges within it, one for each draw, and draws as often as
the list has members besides the first. A shuffled deck has fifty-two cards, one of each rank and
suit. -/
theorem shuffle_permutes {α : Type} (items : List α) (r : Random) :
    Random.Shuffled items r (r.shuffle items).1 (r.shuffle items).2 ∧
      (shuffledDeck r).1.length = 52 ∧
      ∀ c : Card, (shuffledDeck r).1.count c = if 1 ≤ c.rank ∧ c.rank ≤ 13 then 1 else 0 := by
  refine ⟨Random.shuffled_shuffle items r, ?_, count_shuffledDeck r⟩
  rw [shuffledDeck, (Random.perm_shuffle fullDeck r).length_eq, length_fullDeck]

end Blackjack

end DevConsole
