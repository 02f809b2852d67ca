import DevConsole.Game.Blackjack
import DevConsole.Proofs.Random
import Mathlib.Data.List.Nodup

/-!
# Rounds that have cards enough

A hand is worth at least as much as it has cards (`length_le_handValue`), so someone who goes on
drawing holds few of them. `Round.Dealt` says that a round has been dealt from a shuffled deck, and
that the player has drawn only while not bust. Deck and hands together are then the fifty-two cards
(`Dealt.perm_cards`), and the deck is long enough for one more card and for all that the dealer
draws (`Dealt.playsOut`).
-/

namespace DevConsole.Blackjack

variable {c card : Card} {hand deck : List Card} {r r' : Round}

/-! ## The deck -/

theorem mem_fullDeck_iff : c ∈ fullDeck ↔ 1 ≤ c.rank ∧ c.rank ≤ 13 := by
  obtain ⟨rank, suit⟩ := c
  simp only [fullDeck, List.mem_flatMap, List.mem_map, List.mem_range, Card.mk.injEq]
  constructor
  · rintro ⟨_, _, n, hn, rfl, _⟩
    omega
  · intro h
    exact ⟨suit, by cases suit <;> decide, rank - 1, by omega, by omega, rfl⟩

theorem nodup_fullDeck : fullDeck.Nodup := by decide +kernel

theorem length_fullDeck : fullDeck.length = 52 := by decide +kernel

/-! ## The value of a hand -/

theorem soften_le (total aces : Nat) : soften total aces ≤ total := by
  induction aces generalizing total with
  | zero => exact Nat.le_refl _
  | succ aces ih =>
    rw [soften]
    split
    · exact Nat.le_trans (ih _) (Nat.sub_le _ _)
    · exact Nat.le_refl _

theorem le_soften_add (total aces : Nat) : total ≤ soften total aces + 10 * aces := by
  induction aces generalizing total with
  | zero => exact Nat.le_refl _
  | succ aces ih =>
    rw [soften]
    split
    · have hless := ih (total - 10)
      omega
    · omega

theorem soften_add_le (total points aces : Nat) :
    soften (total + points) aces ≤ soften total aces + points := by
  induction aces generalizing total with
  | zero => exact Nat.le_refl _
  | succ aces ih =>
    have hall := soften_le (total + points - 10) aces
    have hless := ih (total - 10)
    simp only [soften]
    split <;> split
    · have hsub : total + points - 10 = total - 10 + points := by omega
      rwa [hsub]
    · omega
    · omega
    · exact Nat.le_refl _

theorem totalPoints_append (hand hand' : List Card) :
    totalPoints (hand ++ hand') = totalPoints hand + totalPoints hand' := by
  induction hand with
  | nil => rw [List.nil_append, totalPoints, Nat.zero_add]
  | cons c hand ih => rw [List.cons_append, totalPoints, ih, totalPoints, Nat.add_assoc]

/-- One more card makes a hand worth ten more at most, if it is then worth more than twenty-one. -/
theorem handValue_append_le (hc : c ∈ fullDeck) (hand : List Card) :
    handValue (hand ++ [c]) ≤ max 21 (handValue hand + 10) := by
  obtain ⟨hleast, hmost⟩ := mem_fullDeck_iff.mp hc
  simp only [handValue, totalPoints_append, totalPoints, List.countP_append, List.countP_singleton,
    Card.isAce, Card.points, Nat.add_zero]
  by_cases hace : c.rank = 1
  · have hless := soften_add_le (totalPoints hand) 1 (hand.countP Card.isAce)
    simp only [hace, beq_self_eq_true, if_true, soften]
    split
    · have hten : totalPoints hand + 11 - 10 = totalPoints hand + 1 := by omega
      rw [hten]
      omega
    · omega
  · have hpoints := soften_add_le (totalPoints hand)
      (if 11 ≤ c.rank ∧ c.rank ≤ 13 then 10 else c.rank) (hand.countP Card.isAce)
    simp only [hace, if_false, beq_eq_false_iff_ne.mpr hace, Bool.false_eq_true, Nat.add_zero]
    split at hpoints <;> split <;> omega

theorem points_le (hc : c ∈ fullDeck) : c.points ≤ 11 := by
  obtain ⟨-, hmost⟩ := mem_fullDeck_iff.mp hc
  rw [Card.points]
  split
  · exact Nat.le_refl _
  · split <;> omega

/-- Two cards are worth twenty-one at most. -/
theorem handValue_le_of_length_eq_two (hhand : ∀ c ∈ hand, c ∈ fullDeck) (h : hand.length = 2) :
    handValue hand ≤ 21 := by
  obtain ⟨a, b, rfl⟩ := List.length_eq_two.mp h
  have hfirst : handValue [a] ≤ 11 :=
    Nat.le_trans (soften_le _ _) (points_le (hhand a (by simp)))
  have hboth := handValue_append_le (hhand b (by simp)) [a]
  rw [List.singleton_append] at hboth
  omega

/-- Every card counts one at least. -/
theorem length_le_handValue (h : ∀ c ∈ hand, c ∈ fullDeck) : hand.length ≤ handValue hand := by
  have hpoints : hand.length + 10 * hand.countP Card.isAce ≤ totalPoints hand := by
    induction hand with
    | nil => exact Nat.le_refl _
    | cons c hand ih =>
      obtain ⟨hc, hand⟩ := List.forall_mem_cons.mp h
      obtain ⟨hleast, -⟩ := mem_fullDeck_iff.mp hc
      have hrest := ih hand
      simp only [List.length_cons, List.countP_cons, totalPoints, Card.isAce,
        Card.points] at hrest ⊢
      by_cases hace : c.rank = 1
      · simp only [hace, beq_self_eq_true, if_true]
        omega
      · simp only [hace, if_false, beq_eq_false_iff_ne.mpr hace, Bool.false_eq_true]
        split <;> omega
  have hsoft := le_soften_add (totalPoints hand) (hand.countP Card.isAce)
  rw [handValue]
  omega

/-! ## Rounds -/

namespace Round

/-- A round that has been dealt from a shuffled deck, and in which the player has drawn any number
of cards, none of them while bust. -/
inductive Dealt : Round → Prop
  | deal (bet : Nat) (random : Random) : Dealt (deal bet random).1
  | hit {r r' : Round} {card : Card} : Dealt r → r.isBust = false → r.hit = some (card, r') →
      Dealt r'

/-- All cards: the rest of the deck and the two hands. -/
def cards (r : Round) : List Card := r.deck ++ (r.player ++ r.dealer)

theorem hit_eq_some_iff :
    r.hit = some (card, r') ↔
      ∃ deck, r.deck = card :: deck ∧ r' = { r with deck, player := r.player ++ [card] } := by
  unfold hit
  split
  · rename_i hdeck
    simp [hdeck]
  · rename_i first deck hdeck
    simp only [hdeck, Option.some.injEq, Prod.mk.injEq, List.cons.injEq]
    constructor
    · rintro ⟨rfl, rfl⟩
      exact ⟨deck, ⟨rfl, rfl⟩, rfl⟩
    · rintro ⟨_, ⟨rfl, rfl⟩, rfl⟩
      exact ⟨rfl, rfl⟩

theorem perm_cards_ofDeck (bet : Nat) (deck : List Card) : (ofDeck bet deck).cards.Perm deck := by
  have hhands : deck.reverse.take 2 ++ (deck.reverse.drop 2).take 2 = deck.reverse.take 4 :=
    (List.take_add (l := deck.reverse) (i := 2) (j := 2)).symm
  simp only [cards, ofDeck, hhands]
  refine List.perm_append_comm.trans ?_
  rw [List.take_append_drop]
  exact List.reverse_perm deck

theorem deal_fst (bet : Nat) (random : Random) :
    (deal bet random).1 = ofDeck bet (random.shuffle fullDeck).1 := by
  unfold deal shuffledDeck
  generalize random.shuffle fullDeck = shuffled
  cases shuffled
  rfl

/-- No card is lost. -/
theorem Dealt.perm_cards (h : r.Dealt) : r.cards.Perm fullDeck := by
  induction h with
  | deal bet random =>
    rw [deal_fst]
    exact (perm_cards_ofDeck bet _).trans (Random.perm_shuffle fullDeck random)
  | hit _ _ hhit ih =>
    obtain ⟨deck, hdeck, rfl⟩ := hit_eq_some_iff.mp hhit
    refine List.Perm.trans ?_ ih
    simp only [cards, hdeck, List.append_assoc, List.cons_append]
    refine (List.Perm.append_left deck List.perm_middle).trans ?_
    exact List.perm_middle

theorem Dealt.length_cards (h : r.Dealt) :
    r.deck.length + (r.player.length + r.dealer.length) = 52 := by
  have hlength := h.perm_cards.length_eq
  rwa [cards, List.length_append, List.length_append, length_fullDeck] at hlength

theorem Dealt.mem_fullDeck (h : r.Dealt) :
    (∀ c ∈ r.deck, c ∈ fullDeck) ∧ (∀ c ∈ r.player, c ∈ fullDeck) ∧
      ∀ c ∈ r.dealer, c ∈ fullDeck := by
  have hmem : ∀ c ∈ r.cards, c ∈ fullDeck := fun c hc => h.perm_cards.mem_iff.mp hc
  simpa only [cards, List.forall_mem_append] using hmem

theorem length_hands_deal (bet : Nat) (random : Random) :
    (deal bet random).1.player.length = 2 ∧ (deal bet random).1.dealer.length = 2 := by
  have hlength := (Random.perm_shuffle fullDeck random).length_eq
  rw [length_fullDeck] at hlength
  simp [deal_fst, ofDeck, hlength]

theorem Dealt.length_dealer (h : r.Dealt) : r.dealer.length = 2 := by
  induction h with
  | deal bet random => exact (length_hands_deal bet random).2
  | hit _ _ hhit ih =>
    obtain ⟨deck, -, rfl⟩ := hit_eq_some_iff.mp hhit
    exact ih

theorem not_isBust_iff : r.isBust = false ↔ handValue r.player ≤ 21 :=
  decide_eq_false_iff_not.trans Nat.not_lt

/-- Only the last card can make a player bust. -/
theorem Dealt.length_player (h : r.Dealt) : r.player.length ≤ 22 := by
  cases h with
  | deal bet random =>
    have hplayer := (length_hands_deal bet random).1
    omega
  | hit hdealt hbust hhit =>
    obtain ⟨deck, -, rfl⟩ := hit_eq_some_iff.mp hhit
    have hlength := length_le_handValue hdealt.mem_fullDeck.2.1
    have hvalue := not_isBust_iff.mp hbust
    simp only [List.length_append, List.length_singleton]
    omega

/-- There is a card for a player who is not bust. -/
theorem Dealt.exists_hit (h : r.Dealt) : ∃ card r', r.hit = some (card, r') := by
  cases hdeck : r.deck with
  | nil =>
    have hall := h.length_cards
    have hdealer := h.length_dealer
    have hplayer := h.length_player
    rw [hdeck, List.length_nil] at hall
    omega
  | cons card deck => exact ⟨card, _, hit_eq_some_iff.mpr ⟨deck, hdeck, rfl⟩⟩

/-! ## The dealer -/

/-- The dealer has drawn the first cards of the deck, one after the other, each for a hand worth
less than seventeen; the hand is then worth seventeen at least, and not much more. -/
structure PlaysDealer (r : Round) (drawn : List Card) (r' : Round) : Prop where
  deck : r.deck = drawn ++ r'.deck
  dealer : r'.dealer = r.dealer ++ drawn
  player : r'.player = r.player
  bet : r'.bet = r.bet
  below : ∀ k < drawn.length, handValue (r.dealer ++ drawn.take k) < 17
  least : 17 ≤ r'.dealerValue
  most : r'.dealerValue ≤ 26

theorem drawTo17_spec (hdeck : ∀ c ∈ deck, c ∈ fullDeck) (hhand : ∀ c ∈ hand, c ∈ fullDeck)
    (hlong : 17 ≤ hand.length + deck.length) (hmost : handValue hand ≤ 26) :
    ∃ drawn rest, deck = drawn ++ rest ∧ drawTo17 deck hand = (rest, hand ++ drawn) ∧
      (∀ k < drawn.length, handValue (hand ++ drawn.take k) < 17) ∧
        17 ≤ handValue (hand ++ drawn) ∧ handValue (hand ++ drawn) ≤ 26 := by
  induction deck generalizing hand with
  | nil =>
    have hvalue := length_le_handValue hhand
    refine ⟨[], [], rfl, by simp [drawTo17], nofun, ?_, by simpa using hmost⟩
    rw [List.append_nil]
    exact Nat.le_trans hlong hvalue
  | cons card deck ih =>
    obtain ⟨hcard, hdeck⟩ := List.forall_mem_cons.mp hdeck
    rw [drawTo17]
    split
    · rename_i hbelow
      have hnext := handValue_append_le hcard hand
      have hmore : ∀ c ∈ hand ++ [card], c ∈ fullDeck := by
        simpa [or_imp, forall_and] using ⟨hhand, hcard⟩
      obtain ⟨drawn, rest, rfl, hdrawn, hall, hleast, hmost⟩ :=
        ih hdeck hmore (by simp at hlong ⊢; omega) (by omega)
      refine ⟨card :: drawn, rest, rfl, by simpa using hdrawn, ?_, by simpa using hleast,
        by simpa using hmost⟩
      intro k hk
      cases k with
      | zero => simpa using hbelow
      | succ k =>
        have hstep := hall k (Nat.lt_of_succ_lt_succ hk)
        simpa using hstep
    · rename_i hreached
      exact ⟨[], card :: deck, rfl, by simp, nofun, by simpa using hreached, by simpa using hmost⟩

theorem Dealt.playsDealer (h : r.Dealt) : ∃ drawn, r.PlaysDealer drawn r.playDealer := by
  obtain ⟨hdeck, -, hdealer⟩ := h.mem_fullDeck
  have hall := h.length_cards
  have htwo := h.length_dealer
  have hplayer := h.length_player
  have hvalue := handValue_le_of_length_eq_two hdealer htwo
  obtain ⟨drawn, rest, hparts, hdrawn, hbelow, hleast, hmost⟩ :=
    drawTo17_spec hdeck hdealer (by omega) (by omega)
  have hplay : r.playDealer = { r with deck := rest, dealer := r.dealer ++ drawn } := by
    simp only [playDealer, hdrawn]
  rw [hplay]
  exact ⟨drawn, hparts, rfl, rfl, rfl, hbelow, hleast, hmost⟩

theorem PlaysDealer.perm_cards {drawn : List Card} (h : r.PlaysDealer drawn r') :
    r'.cards.Perm r.cards := by
  have hmoved : ((r'.deck ++ (r.player ++ r.dealer)) ++ drawn).Perm
      (drawn ++ (r'.deck ++ (r.player ++ r.dealer))) := List.perm_append_comm
  simpa only [cards, h.deck, h.dealer, h.player, List.append_assoc] using hmoved

/-- The cards last: all fifty-two of them are in the deck and the hands, there is one more for a
player who is not bust, and the dealer comes to an end. -/
structure PlaysOut (r : Round) : Prop where
  cards : r.cards.Perm fullDeck
  hit : r.isBust = false → ∃ card r', r.hit = some (card, r')
  dealer : ∃ drawn, r.PlaysDealer drawn r.playDealer
  played : r.playDealer.cards.Perm fullDeck

theorem Dealt.playsOut (h : r.Dealt) : r.PlaysOut where
  cards := h.perm_cards
  hit _ := h.exists_hit
  dealer := h.playsDealer
  played := by
    obtain ⟨drawn, hplay⟩ := h.playsDealer
    exact hplay.perm_cards.trans h.perm_cards

/-- No player is bust from the start. -/
theorem not_isBust_deal (bet : Nat) (random : Random) : (deal bet random).1.isBust = false :=
  not_isBust_iff.mpr (handValue_le_of_length_eq_two (Dealt.deal bet random).mem_fullDeck.2.1
    (length_hands_deal bet random).1)

end Round

end DevConsole.Blackjack
