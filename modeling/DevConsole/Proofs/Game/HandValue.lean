import DevConsole.Proofs.Game.Blackjack
import Mathlib.Order.Bounds.Basic

/-!
# The best total of a hand

An ace may be counted as one or as eleven, every other card in one way only. `Counted hand n` says
that `n` is a total of the hand. The totals lie ten apart, from the one with every ace at eleven
down to the one with every ace at one (`counted_iff`), and the value of a hand is the best of them
(`best_handValue`): the greatest up to twenty-one, or the least if none is so small. Totals do not
depend on the order of the cards, so neither does the value (`handValue_best`).
-/

namespace DevConsole.Blackjack

variable {c : Card} {hand hand' : List Card} {m n v w : Nat}

/-- The ways to count a card. -/
inductive Card.Counts (c : Card) : Nat → Prop
  | low : c.rank = 1 → c.Counts 1
  | high : c.rank = 1 → c.Counts 11
  | court : 11 ≤ c.rank → c.rank ≤ 13 → c.Counts 10
  | pips : c.rank ≠ 1 → ¬(11 ≤ c.rank ∧ c.rank ≤ 13) → c.Counts c.rank

/-- A total of the hand, every card counted in one of its ways. -/
inductive Counted : List Card → Nat → Prop
  | nil : Counted [] 0
  | cons {c : Card} {hand : List Card} {m n : Nat} :
      c.Counts m → Counted hand n → Counted (c :: hand) (m + n)

/-- The best total: the greatest up to twenty-one if there is one, otherwise the least. -/
structure Best (hand : List Card) (v : Nat) : Prop where
  greatest : (∃ n ≤ 21, Counted hand n) → IsGreatest {n | Counted hand n ∧ n ≤ 21} v
  least : (¬∃ n ≤ 21, Counted hand n) → IsLeast {n | Counted hand n} v

/-- The total that counts every ace as one. -/
def leastTotal : List Card → Nat
  | [] => 0
  | c :: rest => (if c.isAce then 1 else c.points) + leastTotal rest

/-! ## Totals -/

theorem Card.points_of_isAce (h : c.isAce = true) : c.points = 11 :=
  if_pos (beq_iff_eq.mp h)

theorem Card.counts_points (c : Card) : c.Counts c.points := by
  unfold points
  split
  · exact .high ‹_›
  · split
    · rename_i hcourt
      exact .court hcourt.1 hcourt.2
    · exact .pips ‹_› ‹_›

/-- A card counts its points, and an ace ten less as well. -/
theorem Card.counts_iff : c.Counts m ↔ m = c.points ∨ c.isAce = true ∧ m = 1 := by
  constructor
  · rintro (hace | hace | ⟨hleast, hmost⟩ | ⟨hne, hcourt⟩)
    · exact .inr ⟨beq_iff_eq.mpr hace, rfl⟩
    · exact .inl (by simp [points, hace])
    · exact .inl (by rw [points, if_neg (by omega), if_pos ⟨hleast, hmost⟩])
    · exact .inl (by rw [points, if_neg hne, if_neg hcourt])
  · rintro (rfl | ⟨hace, rfl⟩)
    · exact c.counts_points
    · exact .low (beq_iff_eq.mp hace)

theorem leastTotal_add (hand : List Card) :
    leastTotal hand + 10 * hand.countP Card.isAce = totalPoints hand := by
  induction hand with
  | nil => rfl
  | cons c hand ih =>
    rw [leastTotal, totalPoints, List.countP_cons]
    split
    · rename_i hace
      rw [Card.points_of_isAce hace]
      omega
    · omega

/-- The totals are those with any number of aces taken down from eleven to one. -/
theorem counted_iff :
    Counted hand n ↔ ∃ k ≤ hand.countP Card.isAce, n + 10 * k = totalPoints hand := by
  constructor
  · intro h
    induction h with
    | nil => exact ⟨0, Nat.le_refl _, rfl⟩
    | @cons c hand m n hm _ ih =>
      obtain ⟨k, hk, hn⟩ := ih
      rw [totalPoints, List.countP_cons]
      rcases Card.counts_iff.mp hm with rfl | ⟨hace, rfl⟩
      · exact ⟨k, by omega, by omega⟩
      · rw [Card.points_of_isAce hace, if_pos hace]
        exact ⟨k + 1, by omega, by omega⟩
  · rintro ⟨k, hk, hn⟩
    induction hand generalizing n k with
    | nil =>
      rw [List.countP_nil] at hk
      rw [totalPoints] at hn
      obtain rfl : n = 0 := by omega
      exact .nil
    | cons c hand ih =>
      have hleast := leastTotal_add hand
      rw [totalPoints] at hn
      rw [List.countP_cons] at hk
      by_cases hk' : k ≤ hand.countP Card.isAce
      · -- the rest has aces enough, this card counts its points
        obtain rfl : n = c.points + (totalPoints hand - 10 * k) := by omega
        exact .cons c.counts_points (ih k hk' (by omega))
      · have hace : c.isAce = true := by
          by_contra hace
          rw [if_neg hace] at hk
          omega
        rw [Card.points_of_isAce hace] at hn
        rw [if_pos hace] at hk
        obtain rfl : n = 1 + (totalPoints hand - 10 * (k - 1)) := by omega
        exact .cons (Card.counts_iff.mpr (.inr ⟨hace, rfl⟩)) (ih (k - 1) (by omega) (by omega))

theorem Counted.of_perm (hperm : hand.Perm hand') (h : Counted hand n) : Counted hand' n := by
  induction hperm generalizing n with
  | nil => exact h
  | cons c _ ih =>
    cases h with
    | cons hc hrest => exact .cons hc (ih hrest)
  | swap a b hand =>
    cases h with
    | cons hb hrest =>
      cases hrest with
      | cons ha hrest =>
        rw [Nat.add_left_comm]
        exact .cons ha (.cons hb hrest)
  | trans _ _ ih ih' => exact ih' (ih h)

theorem counted_perm (hperm : hand.Perm hand') : Counted hand n ↔ Counted hand' n :=
  ⟨.of_perm hperm, .of_perm hperm.symm⟩

/-! ## The best of them -/

/-- Tens are taken off until the total is small enough or there are no more aces, and no sooner. -/
theorem soften_spec {total aces : Nat} (h : 10 * aces ≤ total) :
    ∃ k ≤ aces, soften total aces + 10 * k = total ∧
      (soften total aces ≤ 21 ∨ k = aces) ∧ (k = 0 ∨ 21 < soften total aces + 10) := by
  induction aces generalizing total with
  | zero => exact ⟨0, Nat.le_refl _, rfl, .inr rfl, .inl rfl⟩
  | succ aces ih =>
    rw [soften]
    split
    · have hrest : 10 * aces ≤ total - 10 := by omega
      obtain ⟨k, hk, htotal, hstop, hneeded⟩ := ih hrest
      exact ⟨k + 1, by omega, by omega, by omega, by omega⟩
    · exact ⟨0, Nat.zero_le _, rfl, .inl (by omega), .inl rfl⟩

theorem handValue_spec (hand : List Card) :
    ∃ k ≤ hand.countP Card.isAce, handValue hand + 10 * k = totalPoints hand ∧
      (handValue hand ≤ 21 ∨ k = hand.countP Card.isAce) ∧ (k = 0 ∨ 21 < handValue hand + 10) := by
  have hleast := leastTotal_add hand
  have haces : 10 * hand.countP Card.isAce ≤ totalPoints hand := by omega
  exact soften_spec haces

theorem best_handValue (hand : List Card) : Best hand (handValue hand) := by
  obtain ⟨k, hk, htotal, hstop, hneeded⟩ := handValue_spec hand
  have hcounted : Counted hand (handValue hand) := counted_iff.mpr ⟨k, hk, htotal⟩
  constructor
  · rintro ⟨n, hn, hcount⟩
    obtain ⟨j, hj, hsum⟩ := counted_iff.mp hcount
    refine ⟨⟨hcounted, by omega⟩, fun n' ⟨hcount', hn'⟩ => ?_⟩
    obtain ⟨j', hj', hsum'⟩ := counted_iff.mp hcount'
    omega
  · intro hnone
    have hbust : 21 < handValue hand := by
      by_contra hle
      exact hnone ⟨_, Nat.not_lt.mp hle, hcounted⟩
    refine ⟨hcounted, fun n hcount => ?_⟩
    obtain ⟨j, hj, hsum⟩ := counted_iff.mp hcount
    omega

/-- Once every ace counts as one there is nothing left to take off. -/
theorem bust_iff (hand : List Card) : 21 < handValue hand ↔ 21 < leastTotal hand := by
  have hleast := leastTotal_add hand
  obtain ⟨k, hk, htotal, hstop, -⟩ := handValue_spec hand
  omega

theorem Best.unique (hv : Best hand v) (hw : Best hand w) : v = w := by
  by_cases h : ∃ n ≤ 21, Counted hand n
  · exact (hv.greatest h).unique (hw.greatest h)
  · exact (hv.least h).unique (hw.least h)

theorem Best.of_perm (hperm : hand.Perm hand') (h : Best hand v) : Best hand' v := by
  have hcounted : ∀ n, Counted hand n ↔ Counted hand' n := fun _ => counted_perm hperm
  constructor
  · simpa only [hcounted] using h.greatest
  · simpa only [hcounted] using h.least

/-- The value of a hand is the best of its totals, whatever the order of the cards. A player is bust
exactly if the hand is too much with every ace counted as one. -/
theorem handValue_best (hand : List Card) :
    Best hand (handValue hand) ∧
      (∀ hand', hand'.Perm hand → handValue hand' = handValue hand) ∧
      (21 < handValue hand ↔ 21 < leastTotal hand) ∧
      ∀ r : Round, r.player = hand → (r.isBust = true ↔ 21 < leastTotal hand) := by
  refine ⟨best_handValue hand, fun hand' hperm => ?_, bust_iff hand, ?_⟩
  · exact ((best_handValue hand').of_perm hperm).unique (best_handValue hand)
  · rintro r rfl
    exact decide_eq_true_iff.trans (bust_iff r.player)

/-- A hand with a total of twenty-one, and one that is bust with both aces at one. -/
theorem handValue_best_aces :
    let soft : List Card := [⟨1, .spades⟩, ⟨9, .hearts⟩, ⟨1, .clubs⟩]
    let bust : List Card := [⟨1, .spades⟩, ⟨13, .hearts⟩, ⟨12, .diamonds⟩, ⟨1, .clubs⟩]
    IsGreatest {n | Counted soft n ∧ n ≤ 21} 21 ∧ handValue soft.reverse = 21 ∧
      IsLeast {n | Counted bust n} 22 ∧ 21 < leastTotal bust := by
  intro soft bust
  have hsoft : handValue soft = 21 := by decide
  have hbust : handValue bust = 22 := by decide
  obtain ⟨hbest, hperm, -, -⟩ := handValue_best soft
  obtain ⟨hleast, -, hover, -⟩ := handValue_best bust
  have hcounted : Counted soft 21 := counted_iff.mpr ⟨1, by decide, by decide⟩
  have hnone : ¬∃ n ≤ 21, Counted bust n := by
    rintro ⟨n, hn, hcount⟩
    obtain ⟨k, hk, hsum⟩ := counted_iff.mp hcount
    have haces : bust.countP Card.isAce = 2 := by decide
    have htotal : totalPoints bust = 42 := by decide
    omega
  refine ⟨?_, ?_, ?_, hover.mp (by rw [hbust]; decide)⟩
  · simpa only [hsoft] using hbest.greatest ⟨21, Nat.le_refl _, hcounted⟩
  · rw [hperm _ (List.reverse_perm soft), hsoft]
  · simpa only [hbust] using hleast.least hnone

end DevConsole.Blackjack
