import DevConsole.Proofs.Game.Blackjack
import DevConsole.Proofs.Shell.Reachable
import DevConsole.Proofs.Shell.Wealth

/-!
# Rounds in a session

The round of every reachable shell has been dealt from a whole deck, and its player is not bust
(`Shell.Reachable.inPlay`). So there is always one more card for the player, no call of blackjack is
refused for want of cards, and a round is settled with a hand that the dealer has finished
(`Shell.Reachable.cards_last`).
-/

namespace DevConsole

open Net Blackjack

variable {σ ν : Type} [Backend σ] {m : Machine σ ν} {call : Call} {c : Builtin} {e : Effect}

/-! ## One command -/

/-- The round in progress has been dealt from a whole deck, and the player is not bust. -/
def Machine.InPlay (m : Machine σ ν) : Prop :=
  ∀ round, m.session.blackjack = some round → round.Dealt ∧ round.isBust = false

omit [Backend σ] in
theorem Machine.InPlay.of_eq {m' : Machine σ ν} (h : m.InPlay)
    (hround : m'.session.blackjack = m.session.blackjack) : m'.InPlay := by
  unfold InPlay
  rw [hround]
  exact h

omit [Backend σ] in
theorem Machine.inPlay_of_none (h : m.session.blackjack = none) : m.InPlay := by
  intro round hround
  rw [h] at hround
  cases hround

namespace Builtin

variable [Client ν]

/-- What a call of blackjack does keeps to the rules of the game. -/
theorem Does.inPlay_blackjack (hdoes : (Builtin.novelty .blackjack).Does call m e)
    (h : m.InPlay) : (e.apply m).InPlay := by
  cases hdoes with
  | quiet hquiet => cases hquiet
  | balance => exact h
  | @deal bet =>
    intro round hround
    obtain rfl : (Round.deal bet m.random).1 = round := Option.some.inj hround
    exact ⟨.deal bet m.random, Round.not_isBust_deal bet m.random⟩
  | @hit round round' card _ hsome hhit =>
    intro drawn hdrawn
    obtain ⟨hdealt, hbust⟩ := h round hsome
    simp only [Effect.apply] at hdrawn
    split at hdrawn <;> cases hdrawn
    rename_i hnot
    exact ⟨hdealt.hit hbust hhit, Bool.eq_false_of_not_eq_true hnot⟩
  | stand => exact Machine.inPlay_of_none rfl

theorem Does.inPlay (hdoes : c.Does call m e) (h : m.InPlay) : (e.apply m).InPlay := by
  by_cases hc : c = .novelty .blackjack
  · subst hc
    exact hdoes.inPlay_blackjack h
  · refine h.of_eq (e.same_apply m (p := .round) fun hfacet => hc ?_)
    exact List.mem_singleton.mp (hdoes.mem_changers hfacet)

end Builtin

namespace Novelty

/-- The refusal of a player for whom there is no card. -/
def noCards : Error := .usage "No cards left in the deck!"

/-- No call is refused for want of cards while there is a card. -/
theorem meets_runBlackjack_cards (args : List String)
    (h : ∀ round, m.session.blackjack = some round → round.hit ≠ none) :
    (runBlackjack args : Action σ ν Output).Meets m (fun _ _ => True) fun e _ => e ≠ noCards := by
  unfold runBlackjack
  split
  · trivial
  · simp only [hit, Action.meets_bind, Action.meets_get, Action.meets_required]
    refine ⟨fun round hround => ⟨fun drawn _ => ?_, fun hhit => absurd hhit (h round hround)⟩, ?_⟩
    · split <;> trivial
    · exact fun _ => by decide
  · simp only [stand, putRound, saveBalance, Action.meets_bind, Action.meets_get,
      Action.meets_required, Action.meets_onSession, Action.meets_ofAbort, Action.meets_onStore,
      Action.meets_pure]
    exact ⟨fun _ _ _ _ _ _ => trivial, fun _ => by decide⟩
  · simp only [deal, Action.meets_bind, Action.meets_required, Action.meets_get]
    refine ⟨fun bet _ => ?_, fun _ => by decide⟩
    have hprogress :
        Error.usage "Game in progress! Use blackjack hit or blackjack stand." ≠ noCards := by
      decide
    have hpoor : Error.usage "Insufficient balance!" ≠ noCards := by decide
    split
    · exact hprogress
    · split
      · exact hpoor
      · trivial

/-- A call that settles a round compares the hands after the dealer has played. -/
theorem meets_stand_settled {round : Round} (hround : m.session.blackjack = some round) :
    (stand : Action σ ν Output).Meets m
      (fun output _ => ∃ balance, output = .lines (settledLines round.playDealer balance))
      fun _ _ => False := by
  simp only [stand, putRound, saveBalance, Action.meets_bind, Action.meets_get,
    Action.meets_required, Action.meets_onSession, Action.meets_ofAbort, Action.meets_onStore,
    Action.meets_pure]
  refine ⟨fun other hother payout _ balance _ => ⟨balance, ?_⟩, fun hnone => ?_⟩
  · obtain rfl := Option.some.inj (hround.symm.trans hother)
    rfl
  · rw [hround] at hnone
    cases hnone

end Novelty

namespace Shell

variable [Client ν] {s s' : Shell σ ν} {now : Instant} {raw line : String} {shown : Display}

/-! ## Reachable shells -/

theorem inPlay_dispatch (h : s.toMachine.InPlay) (hd : s.dispatch now raw = .ok (s', shown)) :
    s'.toMachine.InPlay := by
  have hrecorded : (s.recorded (Text.trim raw)).toMachine.InPlay := h.of_eq rfl
  refine of_dispatch hd h hrecorded ?_
  rintro c call m ⟨e, hdoes, hafter⟩
  rw [hafter]
  exact (hdoes.inPlay hrecorded).of_eq rfl

theorem inPlay_kept : Kept fun s : Shell σ ν => s.toMachine.InPlay where
  alike h hst := h.of_eq (congrArg Session.blackjack hst.session)
  line := inPlay_dispatch
  event h he hs := h.of_eq (congrArg (·.session.blackjack) (handle_eq he hs))
  tick h hs := h.of_eq (congrArg (·.session.blackjack) (tick_eq hs))

/-- Whatever a shell has been through, its round keeps to the rules of the game. -/
theorem Reachable.inPlay (h : s.Reachable) : s.toMachine.InPlay :=
  inPlay_kept.of_reachable (fun _ _ _ _ _ => Machine.inPlay_of_none rfl) h

/-! ## Cards for every call -/

theorem not_refuses_noCards (h : s.toMachine.InPlay) (hcalls : s.CallsBlackjack line) :
    ¬s.Refuses now line Novelty.noCards := by
  have hcards : ∀ round, (s.recorded line).session.blackjack = some round → round.hit ≠ none := by
    intro round hround hnone
    obtain ⟨card, drawn, hhit⟩ := (h round hround).1.exists_hit
    rw [hhit] at hnone
    cases hnone
  intro hrefuses
  obtain ⟨m, hrun⟩ := refused_of_refuses hcalls hrefuses
  rw [run_blackjack] at hrun
  exact (Novelty.meets_runBlackjack_cards _ hcards).of_refused hrun rfl

/-- What is shown of a round that is settled tells of the hands after the dealer has played. -/
theorem shown_of_stand {round : Round} (hcalls : s.CallsBlackjack (Text.trim raw))
    (hword : (argsOf (Text.trim raw)).head? = some "stand")
    (hround : s.session.blackjack = some round) (hd : s.dispatch now raw = .ok (s', shown)) :
    ∃ balance, shown = s.echo (Text.trim raw) ::
      Display.ofLines (Novelty.settledLines round.playDealer balance) := by
  have hrecorded : (s.recorded (Text.trim raw)).session.blackjack = some round := hround
  rw [dispatch_of_calls hcalls, run_blackjack_stand hword] at hd
  cases hperform : (s.recorded (Text.trim raw)).perform Novelty.stand with
  | error a =>
    rw [hperform] at hd
    cases hd
  | ok p =>
    rw [hperform] at hd
    cases hd
    rcases performed (Novelty.meets_stand_settled hrecorded) hperform with
      ⟨output, m, ⟨balance, rfl⟩, hrender⟩ | ⟨e, m, hfalse, -⟩
    · have hshown := congrArg Prod.snd hrender
      exact ⟨balance, congrArg _ hshown.symm⟩
    · exact hfalse.elim

/-- The cards last. All fifty-two of them are in the deck and the hands of a round as long as it is
played, there is one for every player who is not bust, and the dealer comes to an end. So in a
reachable shell no call of blackjack is refused for want of cards, and a round is settled with a
hand that the dealer has finished. -/
theorem Reachable.cards_last (h : s.Reachable) :
    fullDeck.Nodup ∧ fullDeck.length = 52 ∧ (∀ round : Round, round.Dealt → round.PlaysOut) ∧
      (∀ round, s.session.blackjack = some round → round.Dealt ∧ round.isBust = false) ∧
      (∀ now line, s.CallsBlackjack line →
        ¬s.Refuses now line (.usage "No cards left in the deck!")) ∧
      ∀ now raw s' shown round, s.CallsBlackjack (Text.trim raw) →
        (argsOf (Text.trim raw)).head? = some "stand" → s.session.blackjack = some round →
        s.dispatch now raw = .ok (s', shown) →
        17 ≤ round.playDealer.dealerValue ∧ round.playDealer.dealerValue ≤ 26 ∧
          ∃ balance, shown = s.echo (Text.trim raw) ::
            Display.ofLines (Novelty.settledLines round.playDealer balance) := by
  have hrounds := h.inPlay
  refine ⟨nodup_fullDeck, length_fullDeck, fun _ hdealt => hdealt.playsOut, hrounds,
    fun _ _ => not_refuses_noCards hrounds, ?_⟩
  intro now raw s' shown round hcalls hword hround hd
  obtain ⟨drawn, hplay⟩ := (hrounds round hround).1.playsDealer
  exact ⟨hplay.least, hplay.most, shown_of_stand hcalls hword hround hd⟩

set_option maxRecDepth 4000 in
/-- A player draws a third card and stands on twenty-one; the dealer goes from thirteen to
twenty-four. -/
theorem cards_last_third :
    ∃ (t t' : Shell MemoryStore Offline) (round : Round) (balance : Nat),
      t.Reachable ∧ t.session.blackjack = some round ∧ round.Dealt ∧ round.player.length = 3 ∧
        round.playerValue = 21 ∧ round.dealerValue = 13 ∧ round.playDealer.dealerValue = 24 ∧
          ¬t.Refuses ⟨0⟩ "blackjack hit" (.usage "No cards left in the deck!") ∧
            t.dispatch ⟨0⟩ "blackjack stand" = .ok (t', t.echo "blackjack stand" ::
              Display.ofLines (Novelty.settledLines round.playDealer balance)) := by
  let s : Shell MemoryStore Offline :=
    start {} ⟨{ entries := [(Key.mode, "fun")] }, []⟩ ⟨⟨⟩, []⟩ {} ⟨3⟩
  have hstand : Text.trim "blackjack stand" = "blackjack stand" := by decide +kernel
  have hword : (argsOf "blackjack stand").head? = some "stand" := by decide +kernel
  have hplay : ((s.dispatch ⟨0⟩ "blackjack 50").toOption.bind fun p =>
        (p.1.dispatch ⟨0⟩ "blackjack hit").toOption.bind fun q =>
          q.1.session.blackjack.bind fun round =>
            (q.1.dispatch ⟨0⟩ "blackjack stand").toOption.map fun _ =>
              ((round.playerValue, round.player.length, round.dealerValue,
                round.playDealer.dealerValue), decide (q.1.CallsBlackjack "blackjack hit"),
                decide (q.1.CallsBlackjack "blackjack stand"))) =
      some ((21, 3, 13, 24), true, true) := by
    decide +kernel
  obtain ⟨⟨p, _⟩, hbet, hplay⟩ := Option.bind_eq_some_iff.mp hplay
  obtain ⟨⟨t, _⟩, hhit, hplay⟩ := Option.bind_eq_some_iff.mp hplay
  obtain ⟨round, hround, hplay⟩ := Option.bind_eq_some_iff.mp hplay
  obtain ⟨⟨t', shown⟩, hsettle, hvalues⟩ := Option.map_eq_some_iff.mp hplay
  simp only [Prod.mk.injEq, decide_eq_true_eq] at hvalues
  obtain ⟨⟨hplayer, hthree, hdealer, hplayed⟩, hcallsHit, hcallsStand⟩ := hvalues
  have hstart : s.Reachable := .start ..
  have ht : t.Reachable := (hstart.dispatch (Step.eq_ok_of_toOption hbet)).dispatch
    (Step.eq_ok_of_toOption hhit)
  have hd := Step.eq_ok_of_toOption hsettle
  obtain ⟨-, -, -, hdealt, hcards, hsettled⟩ := ht.cards_last
  obtain ⟨-, -, balance, hshown⟩ := hsettled ⟨0⟩ "blackjack stand" t' shown round
    (by rw [hstand]; exact hcallsStand) (by rw [hstand]; exact hword) hround hd
  rw [hstand] at hshown
  exact ⟨t, t', round, balance, ht, hround, (hdealt round hround).1, hthree, hplayer, hdealer,
    hplayed, hcards _ _ hcallsHit, hshown ▸ hd⟩

end Shell
end DevConsole
