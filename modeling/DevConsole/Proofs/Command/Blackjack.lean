import DevConsole.Proofs.Command.Handlers
import DevConsole.Proofs.Store.Calls
import DevConsole.Proofs.Text.Integer

/-!
# The money of a player

The `wealth` of a player is the stored balance together with the `stake`, the bet of the round in
progress. What a call of blackjack adds to it can be told from the words of the call and the round:
`Novelty.gain` is not zero only where the player goes bust or stands. Every accepted call keeps to
this (`Does.wealth`), and a refused one had nothing to gain (`meets_runBlackjack_idle`). Settling a
round adds what is due to the balance, or aborts where the sum does not fit into 64 bits
(`stand_eq`); no other call aborts (`completes_runBlackjack`).
-/

namespace DevConsole

open Files Net Blackjack

namespace Blackjack

/-- What a settled bet adds to the wealth of the player. -/
def Outcome.gain (bet : Nat) : Outcome → Int
  | .win => bet
  | .push => 0
  | .lose => -bet

theorem amount_eq_ok {n k : Nat} (h : amount n = .ok k) : k = n ∧ n < UInt64.size := by
  unfold amount at h
  split at h
  · rename_i hn
    cases h
    exact ⟨rfl, hn⟩
  · cases h

theorem amount_of_lt {n : Nat} (h : n < UInt64.size) : amount n = .ok n := if_pos h

theorem amount_of_le {n : Nat} (h : UInt64.size ≤ n) : amount n = .error .amount :=
  if_neg (Nat.not_lt_of_le h)

/-- The payout is the bet and what is gained with it. -/
theorem Outcome.payout_eq_ok {o : Outcome} {bet payout : Nat} (h : o.payout bet = .ok payout) :
    (payout : Int) = bet + o.gain bet := by
  cases o with
  | win =>
    obtain ⟨rfl, -⟩ := amount_eq_ok h
    simp only [gain]
    omega
  | push =>
    cases h
    simp [gain]
  | lose =>
    cases h
    simp only [gain]
    omega

/-- What the player gets back for a settled bet, however much that is. -/
def Outcome.due (bet : Nat) : Outcome → Nat
  | .win => 2 * bet
  | .push => bet
  | .lose => 0

theorem Outcome.due_le (o : Outcome) (bet : Nat) : o.due bet ≤ 2 * bet := by
  cases o <;> simp only [due] <;> omega

/-- What is paid out is what is due, where that fits. -/
theorem Outcome.payout_eq_amount (o : Outcome) {bet : Nat} (h : bet < UInt64.size) :
    o.payout bet = amount (o.due bet) := by
  cases o with
  | win => rw [payout, due, Nat.mul_comm]
  | push => exact (amount_of_lt h).symm
  | lose => rfl

theorem Round.bet_deal (bet : Nat) (r : Random) : (Round.deal bet r).1.bet = bet := by
  unfold Round.deal
  generalize shuffledDeck r = dealt
  cases dealt
  rfl

theorem Round.bet_of_hit {r r' : Round} {card : Card} (h : r.hit = some (card, r')) :
    r'.bet = r.bet := by
  unfold Round.hit at h
  split at h <;> cases h
  rfl

end Blackjack

namespace Novelty

variable {σ : Type} [Backend σ] {s : Store σ}

theorem loadBalance_le (s : Store σ) : loadBalance s ≤ Text.maxNatural64 := by
  unfold loadBalance
  cases hread : (s.get? Key.blackjackBalance).bind fun text => Text.natural64? (Text.trim text) with
  | none => exact by decide
  | some n =>
    obtain ⟨text, -, hn⟩ := Option.bind_eq_some_iff.mp hread
    exact of_decide_eq_true (Option.filter_eq_some_iff.mp hn).2

/-- A balance that is stored is read back. -/
theorem loadBalance_set {up : σ → Prop} (h : Backend.Reliable up) (hs : up s.backend) {n : Nat}
    (hn : n ≤ Text.maxNatural64) :
    loadBalance (s.set Key.blackjackBalance (toString n)) = n := by
  rw [loadBalance, Store.get?_set h hs, Option.bind_some, Text.trim_toString,
    Text.natural64?_toString hn, Option.getD_some]

/-- What a call of blackjack with these words adds to the wealth of a player. -/
def gain (args : List String) (round : Option Round) : Int :=
  match args.head?, round with
  | some "hit", some round =>
    match round.hit with
    | some (_, drawn) => if drawn.isBust then -round.bet else 0
    | none => 0
  | some "stand", some round => round.playDealer.settle.gain round.bet
  | _, _ => 0

/-- The bet that the words of a call place. -/
def bet? (args : List String) : Option Nat := args.head?.bind Text.natural64?

theorem gain_of_none (args : List String) : gain args none = 0 := by
  unfold gain
  split <;> simp_all

theorem gain_of_ne {args : List String} (hhit : args.head?.getD "balance" ≠ "hit")
    (hstand : args.head?.getD "balance" ≠ "stand") (round : Option Round) :
    gain args round = 0 := by
  unfold gain
  split
  · rename_i hword
    rw [hword] at hhit
    exact absurd rfl hhit
  · rename_i hword
    rw [hword] at hstand
    exact absurd rfl hstand
  · rfl

end Novelty

variable {σ ν : Type} [Backend σ] {m : Machine σ ν} {call : Call} {e : Effect}

namespace Machine

/-- The balance that is stored. -/
def balance (m : Machine σ ν) : Nat := Novelty.loadBalance m.store

/-- The bet of the round in progress. -/
def stake (m : Machine σ ν) : Nat := (m.session.blackjack.map Round.bet).getD 0

/-- What the player owns: the balance, and the stake that has been taken off it. -/
def wealth (m : Machine σ ν) : Nat := m.balance + m.stake

omit [Backend σ] in
theorem stake_of_some {round : Round} (h : m.session.blackjack = some round) :
    m.stake = round.bet := by rw [stake, h, Option.map_some, Option.getD_some]

omit [Backend σ] in
theorem stake_of_none (h : m.session.blackjack = none) : m.stake = 0 := by
  rw [stake, h, Option.map_none, Option.getD_none]

end Machine

/-! ## Accepted calls -/

namespace Builtin

variable [Client ν] {up : σ → Prop}

/-- An accepted call of blackjack adds its gain to the wealth. -/
theorem Does.wealth (hdoes : (Builtin.novelty .blackjack).Does call m e)
    (h : Backend.Reliable up) (hm : up m.store.backend) :
    ((e.apply m).wealth : Int) = m.wealth + Novelty.gain call.args m.session.blackjack := by
  cases hdoes with
  | quiet hquiet => cases hquiet
  | balance hword =>
    rw [Novelty.gain_of_ne (by rw [hword]; decide) (by rw [hword]; decide), Effect.apply,
      Int.add_zero]
  | @deal bet hbet hpos hnone hle =>
    have hafter : ((Effect.blackjack (some (Round.deal bet m.random).1)
        (some (Novelty.loadBalance m.store - bet))).apply m).balance = m.balance - bet :=
      Novelty.loadBalance_set h hm
        (Nat.le_trans (Nat.sub_le _ _) (Novelty.loadBalance_le m.store))
    have hbalance : bet ≤ m.balance := hle
    have hstake := Machine.stake_of_none hnone
    have hdealt : ((Effect.blackjack (some (Round.deal bet m.random).1)
        (some (Novelty.loadBalance m.store - bet))).apply m).stake = bet :=
      (Machine.stake_of_some rfl).trans (Round.bet_deal _ _)
    rw [hnone, Novelty.gain_of_none, Machine.wealth, Machine.wealth, hafter, hstake, hdealt]
    omega
  | @hit round round' card hword hround hhit =>
    have hbet := Round.bet_of_hit hhit
    have hafter : ((Effect.blackjack (if round'.isBust then none else some round') none).apply
        m).balance = m.balance := rfl
    have hstake := Machine.stake_of_some hround
    simp only [Novelty.gain, hword, hround, hhit, Machine.wealth, hafter, hstake]
    split
    · rw [Machine.stake_of_none rfl]
      omega
    · rw [Machine.stake_of_some rfl]
      omega
  | @stand round payout balance hword hround hpayout hbalance =>
    obtain ⟨rfl, hlt⟩ := amount_eq_ok hbalance
    have hafter : ((Effect.blackjack none (some (Novelty.loadBalance m.store + payout))).apply
        m).balance = m.balance + payout :=
      Novelty.loadBalance_set h hm (Nat.le_of_lt_succ hlt)
    have hgain := Outcome.payout_eq_ok hpayout
    have hstake := Machine.stake_of_some hround
    simp only [Novelty.gain, hword, hround, Machine.wealth, hafter, hstake]
    rw [Machine.stake_of_none rfl]
    omega

/-- An accepted bet is one that the balance covers while there is no round; it is taken off the
balance, and a round begins. -/
theorem Does.bet_accepted (hdoes : (Builtin.novelty .blackjack).Does call m e)
    (h : Backend.Reliable up) (hm : up m.store.backend) {bet : Nat}
    (hbet : Novelty.bet? call.args = some bet) :
    (0 < bet ∧ bet ≤ m.balance ∧ m.session.blackjack = none) ∧
      (e.apply m).balance = m.balance - bet ∧
        ∃ round, (e.apply m).session.blackjack = some round ∧ round.bet = bet := by
  have not_word : ∀ {word : String}, Text.natural64? word = none →
      call.args.head? ≠ some word := fun hnone hword => by
    rw [Novelty.bet?, hword, Option.bind_some, hnone] at hbet
    cases hbet
  cases hdoes with
  | quiet hquiet => cases hquiet
  | balance hword =>
    cases hhead : call.args.head? with
    | none =>
      rw [Novelty.bet?, hhead] at hbet
      cases hbet
    | some word =>
      rw [hhead, Option.getD_some] at hword
      exact absurd (hword ▸ hhead) (not_word (by decide))
  | @deal placed hplaced hpos hnone hle =>
    obtain rfl : placed = bet := Option.some.inj (hplaced.symm.trans hbet)
    refine ⟨⟨hpos, hle, hnone⟩, ?_, _, rfl, Round.bet_deal _ _⟩
    exact Novelty.loadBalance_set h hm
      (Nat.le_trans (Nat.sub_le _ _) (Novelty.loadBalance_le m.store))
  | hit hword => exact absurd hword (not_word (by decide))
  | stand hword => exact absurd hword (not_word (by decide))

/-- A round begins with a bet. -/
theorem Does.round_begun (hdoes : (Builtin.novelty .blackjack).Does call m e)
    (hnone : m.session.blackjack = none) {round : Round}
    (hround : (e.apply m).session.blackjack = some round) :
    Novelty.bet? call.args = some round.bet := by
  cases hdoes with
  | quiet hquiet => cases hquiet
  | balance =>
    rw [Effect.apply, hnone] at hround
    cases hround
  | @deal bet hbet =>
    obtain rfl : (Round.deal bet m.random).1 = round := Option.some.inj hround
    rw [Round.bet_deal]
    exact hbet
  | hit _ hsome =>
    rw [hnone] at hsome
    cases hsome
  | stand _ hsome =>
    rw [hnone] at hsome
    cases hsome

/-- A round that goes on is the same one, with a card more at most. -/
theorem Does.round_kept (hdoes : (Builtin.novelty .blackjack).Does call m e) {round round' : Round}
    (hround : m.session.blackjack = some round)
    (hround' : (e.apply m).session.blackjack = some round') :
    round' = round ∨ ∃ card, round.hit = some (card, round') := by
  cases hdoes with
  | quiet hquiet => cases hquiet
  | balance =>
    rw [Effect.apply, hround] at hround'
    exact .inl (Option.some.inj hround').symm
  | deal _ _ hnone =>
    rw [hround] at hnone
    cases hnone
  | @hit _ drawn card _ hsome hhit =>
    rw [hround] at hsome
    cases hsome
    simp only [Effect.apply] at hround'
    split at hround' <;> cases hround'
    exact .inr ⟨card, hhit⟩
  | stand => cases hround'

/-- Nothing is gained as long as there is a round. -/
theorem Does.gain_nonpos (hdoes : (Builtin.novelty .blackjack).Does call m e)
    (hround : (e.apply m).session.blackjack ≠ none) :
    Novelty.gain call.args m.session.blackjack ≤ 0 := by
  cases hdoes with
  | quiet hquiet => cases hquiet
  | balance hword =>
    exact Int.le_of_eq
      (Novelty.gain_of_ne (by rw [hword]; decide) (by rw [hword]; decide) _)
  | deal _ _ hnone => exact Int.le_of_eq (hnone ▸ Novelty.gain_of_none _)
  | hit hword hsome hhit =>
    simp only [Novelty.gain, hword, hsome, hhit]
    split <;> omega
  | stand => exact absurd rfl hround

end Builtin

/-! ## Refused calls -/

namespace Novelty

/-- The call is one that changes nothing: it has nothing to gain, and a bet that it places is zero,
more than the balance, or placed during a round. -/
structure Idle (m : Machine σ ν) (args : List String) : Prop where
  gain : gain args m.session.blackjack = 0
  bet : ∀ bet, bet? args = some bet → ¬(0 < bet ∧ bet ≤ m.balance ∧ m.session.blackjack = none)

variable {args : List String}

theorem idle_of_word {word : String} (hword : args.head? = some word)
    (hbet : Text.natural64? word = none) (hgain : gain args m.session.blackjack = 0) :
    Idle m args where
  gain := hgain
  bet bet h := by
    rw [bet?, hword, Option.bind_some, hbet] at h
    cases h

theorem meets_hit_idle (hword : args.head? = some "hit") :
    (hit : Action σ ν Output).Meets m (fun _ _ => True) fun _ _ => Idle m args := by
  have hbet : Text.natural64? "hit" = none := by decide
  simp only [hit, Action.meets_bind, Action.meets_get, Action.meets_required]
  refine ⟨fun round hround => ⟨fun drawn _ => ?_, fun hhit => ?_⟩, fun hnone => ?_⟩
  · split <;> trivial
  · exact idle_of_word hword hbet (by simp only [gain, hword, hround, hhit])
  · exact idle_of_word hword hbet (hnone ▸ gain_of_none args)

theorem meets_stand_idle (hword : args.head? = some "stand") :
    (stand : Action σ ν Output).Meets m (fun _ _ => True) fun _ _ => Idle m args := by
  have hbet : Text.natural64? "stand" = none := by decide
  simp only [stand, putRound, saveBalance, Action.meets_bind, Action.meets_get,
    Action.meets_required, Action.meets_onSession, Action.meets_ofAbort, Action.meets_onStore,
    Action.meets_pure]
  exact ⟨fun _ _ _ _ _ _ => trivial,
    fun hnone => idle_of_word hword hbet (hnone ▸ gain_of_none args)⟩

/-- A call that is refused is idle. -/
theorem meets_runBlackjack_idle (args : List String) :
    (runBlackjack args : Action σ ν Output).Meets m (fun _ _ => True) fun _ _ => Idle m args := by
  unfold runBlackjack
  split
  · trivial
  · rename_i hword
    exact meets_hit_idle (head?_of_word hword (by decide))
  · rename_i hword
    exact meets_stand_idle (head?_of_word hword (by decide))
  · rename_i hbalance hhit hstand
    have hword := head?_of_word rfl hbalance
    have hgain := gain_of_ne hhit hstand m.session.blackjack
    simp only [deal, Action.meets_bind, Action.meets_required, Action.meets_get]
    refine ⟨fun bet hbet => ?_, fun hnone => ⟨hgain, fun bet hread hpos => ?_⟩⟩
    · obtain ⟨hread, -⟩ := Option.filter_eq_some_iff.mp hbet
      have hsame : ∀ other, bet? args = some other → other = bet := fun other hother => by
        rw [bet?, hword, Option.bind_some, hread] at hother
        exact (Option.some.inj hother).symm
      split
      · rename_i hround
        refine ⟨hgain, fun other hother hplaced => ?_⟩
        rw [hplaced.2.2] at hround
        cases hround
      · split
        · rename_i hpoor
          refine ⟨hgain, fun other hother hplaced => ?_⟩
          rw [hsame other hother] at hplaced
          exact absurd hplaced.2.1 (Nat.not_le_of_lt hpoor)
        · simp only [saveBalance, putRound, Action.meets_bind, Action.meets_onStore,
            Action.meets_onRandom, Action.meets_onSession, Action.meets_pure]
    · rw [bet?, hword, Option.bind_some] at hread
      rw [hread] at hnone
      simp only [Option.filter_some, decide_eq_true_eq, if_pos hpos.1] at hnone
      cases hnone

/-! ## Calls that come to an end -/

/-- What is shown of a round that has been settled, with the balance after it. -/
def settledLines (r : Round) (balance : Nat) : List Line :=
  [playerLine r, .plain ("Dealer's hand: " ++ handText r.dealer),
    resultLine r.settle r.bet balance]

/-- What is due for the round is added to the balance, or the sum does not fit into 64 bits and the
call aborts. -/
theorem stand_eq {round : Round} (hround : m.session.blackjack = some round)
    (hbet : round.bet < UInt64.size) :
    (stand : Action σ ν Output) m =
      if m.balance + round.playDealer.settle.due round.bet < UInt64.size then
        .ok (.lines (settledLines round.playDealer
            (m.balance + round.playDealer.settle.due round.bet)))
          ((Effect.blackjack none
            (some (m.balance + round.playDealer.settle.due round.bet))).apply m)
      else .error (.aborted .amount) ((Effect.blackjack none none).apply m) := by
  have hpayout : round.playDealer.settle.payout round.playDealer.bet =
      amount (round.playDealer.settle.due round.bet) := Outcome.payout_eq_amount _ hbet
  have hget : (get : Action σ ν (Machine σ ν)) m = .ok m m := rfl
  -- what is left to do once the round has been taken away
  have hrest : (stand : Action σ ν Output) m =
      (do
        let payout ← Action.ofAbort (amount (round.playDealer.settle.due round.bet))
        let balance ← Action.ofAbort (amount (m.balance + payout))
        saveBalance balance
        return .lines (settledLines round.playDealer balance) : Action σ ν Output)
      ((Effect.blackjack none none).apply m) := by
    rw [← hpayout]
    simp only [stand, bind, EStateM.bind, hget, hround, Action.required]
    rfl
  rw [hrest]
  by_cases hfits : m.balance + round.playDealer.settle.due round.bet < UInt64.size
  · rw [if_pos hfits, amount_of_lt (Nat.lt_of_le_of_lt (Nat.le_add_left ..) hfits)]
    simp only [Action.ofAbort, pure_bind, amount_of_lt hfits]
    rfl
  · have hsum := amount_of_le (Nat.le_of_not_lt hfits)
    rw [if_neg hfits]
    by_cases hdue : round.playDealer.settle.due round.bet < UInt64.size
    · simp only [amount_of_lt hdue, Action.ofAbort, pure_bind, hsum]
      rfl
    · simp only [amount_of_le (Nat.le_of_not_lt hdue), Action.ofAbort]
      rfl

theorem runBlackjack_stand {args : List String} (hword : args.head? = some "stand") :
    (runBlackjack args : Action σ ν Output) = stand := by
  rw [runBlackjack, hword]
  rfl

/-- A call does not abort, unless it settles a round and the balance after that does not fit. -/
theorem completes_runBlackjack (args : List String)
    (h : ∀ round, args.head? = some "stand" → m.session.blackjack = some round →
      round.bet < UInt64.size ∧
        m.balance + round.playDealer.settle.due round.bet < UInt64.size) :
    (runBlackjack args : Action σ ν Output).Completes m fun _ _ => True := by
  unfold runBlackjack
  split
  · trivial
  · simp only [hit, Action.completes_bind, Action.completes_get, Action.completes_required]
    intro round _ drawn _
    split <;> trivial
  · rename_i hword
    have hhead := head?_of_word hword (by decide)
    cases hround : m.session.blackjack with
    | none =>
      simp only [stand, Action.completes_bind, Action.completes_get, Action.completes_required]
      exact fun round hsome => absurd (hround.symm.trans hsome) (by simp)
    | some round =>
      obtain ⟨hbet, hfits⟩ := h round hhead hround
      rw [Action.Completes, stand_eq hround hbet, if_pos hfits]
      trivial
  · simp only [deal, Action.completes_bind, Action.completes_required, Action.completes_get]
    intro bet _
    split
    · trivial
    · split <;> trivial

end Novelty

end DevConsole
