import DevConsole.Proofs.Shell.Wealth

/-!
# Payouts that fit

Balances and bets are numbers of 64 bits, and the wealth of a player always is one, as it only grows
where a round ends and its payout is stored (`Earns.wealth_lt`). So there is one sum that may not
fit: the balance and twice the bet of a round that is won. `Shell.Overflows` says that a line comes
to it. Such a line aborts; every other call of blackjack comes to an end, and one that settles a
round adds what is due, as numbers of any size (`Earns.paid`).
-/

namespace DevConsole.Shell

open Files Net Blackjack

variable {σ ν : Type} [Backend σ] [Client ν] {s s' : Shell σ ν} {now : Instant}
  {raw line : String} {shown : Display} {round : Round} {up : σ → Prop}

/-- The line settles a round that is won, and the balance with twice the bet does not fit into 64
bits. -/
def Overflows (s : Shell σ ν) (line : String) : Prop :=
  ∃ round, (argsOf line).head? = some "stand" ∧ s.session.blackjack = some round ∧
    round.playDealer.settle = .win ∧ UInt64.size ≤ s.balance + 2 * round.bet

/-! ## The wealth fits -/

/-- A line gains nothing if there is a round after it. -/
theorem gain_nonpos (hd : s.dispatch now raw = .ok (s', shown))
    (hround : s'.session.blackjack ≠ none) : s.gain (Text.trim raw) ≤ 0 := by
  unfold gain
  split
  · rename_i hcalls
    have hruns := runs_of_dispatch hd
    generalize hm : s'.toMachine = m at hruns
    cases hruns with
    | blank hblank => exact absurd hblank (ne_empty_of_calls hcalls)
    | refused hrefuses => exact Int.le_of_eq (idle_of_refuses hcalls hrefuses).gain
    | called hcalls' hacts =>
      obtain rfl := hcalls'.unique hcalls
      obtain ⟨e, hdoes, hafter⟩ := hacts
      have hnone : (e.apply (s.recorded (Text.trim raw)).toMachine).session.blackjack ≠ none := by
        rw [← hm] at hafter
        rw [hafter] at hround
        exact hround
      have hgain := hdoes.gain_nonpos hnone
      rw [args_callBy] at hgain
      exact hgain
  · exact Int.le_refl 0

omit [Client ν] in
theorem balance_lt (s : Shell σ ν) : s.balance < UInt64.size :=
  Nat.lt_succ_of_le (Novelty.loadBalance_le s.store)

theorem wealth_lt_of_dispatch (h : Backend.Dependable up) (hs : up s.store.backend)
    (hfits : s.wealth < UInt64.size) (hd : s.dispatch now raw = .ok (s', shown)) :
    s'.wealth < UInt64.size := by
  cases hround : s'.session.blackjack with
  | none =>
    rw [Machine.wealth, Machine.stake_of_none hround]
    exact s'.balance_lt
  | some round =>
    have hgain := gain_nonpos hd (by simp [hround])
    have hwealth := (accounts_of_dispatch h hs hd).wealth
    omega

theorem Earns.wealth_lt {g : Int} {t : Shell σ ν} (hrun : s.Earns g t)
    (h : Backend.Dependable up) (hs : up s.store.backend) (hfits : s.wealth < UInt64.size) :
    t.wealth < UInt64.size := by
  induction hrun with
  | start => exact hfits
  | line hrun hd ih => exact wealth_lt_of_dispatch h (hrun.wealth h hs).1 ih hd
  | tick _ hd ih =>
    rw [tick_eq hd]
    exact ih
  | outside _ _ _ _ ih => exact ih

/-! ## One line -/

omit [Client ν] in
theorem bet_lt (hfits : s.wealth < UInt64.size) (hround : s.session.blackjack = some round) :
    round.bet < UInt64.size := by
  rw [Machine.wealth, Machine.stake_of_some hround] at hfits
  omega

omit [Client ν] in
/-- What is due fits, unless the line comes to the one sum that does not. -/
theorem due_lt_iff (hfits : s.wealth < UInt64.size) (hround : s.session.blackjack = some round)
    (hword : (argsOf line).head? = some "stand") :
    s.balance + round.playDealer.settle.due round.bet < UInt64.size ↔ ¬s.Overflows line := by
  rw [Machine.wealth, Machine.stake_of_some hround] at hfits
  have hbalance := s.balance_lt
  constructor
  · rintro hdue ⟨won, -, hsome, hwin, hle⟩
    obtain rfl := Option.some.inj (hround.symm.trans hsome)
    rw [hwin, Outcome.due] at hdue
    omega
  · intro hnot
    cases hsettle : round.playDealer.settle with
    | win => exact Nat.lt_of_not_le fun hle => hnot ⟨round, hword, hround, hsettle, hle⟩
    | push => exact hfits
    | lose => exact hbalance

/-- A line that settles a round adds what is due to the balance, or aborts. -/
theorem dispatch_stand (hfits : s.wealth < UInt64.size)
    (hcalls : s.CallsBlackjack (Text.trim raw))
    (hword : (argsOf (Text.trim raw)).head? = some "stand")
    (hround : s.session.blackjack = some round) :
    s.dispatch now raw =
      if s.balance + round.playDealer.settle.due round.bet < UInt64.size then
        .ok ({ s.recorded (Text.trim raw) with
            toMachine := (Effect.blackjack none
              (some (s.balance + round.playDealer.settle.due round.bet))).apply
                (s.recorded (Text.trim raw)).toMachine },
          s.echo (Text.trim raw) :: Display.ofLines (Novelty.settledLines round.playDealer
            (s.balance + round.playDealer.settle.due round.bet)))
      else .error .amount := by
  have hrecorded : (s.recorded (Text.trim raw)).session.blackjack = some round := hround
  have hstand := Novelty.stand_eq (ν := ν) hrecorded (bet_lt hfits hround)
  have hbalance : (s.recorded (Text.trim raw)).balance = s.balance := rfl
  rw [dispatch_of_calls hcalls, run_blackjack_stand hword, perform, hstand, hbalance]
  by_cases hdue : s.balance + round.playDealer.settle.due round.bet < UInt64.size
  · simp only [if_pos hdue]
    rfl
  · simp only [if_neg hdue]
    rfl

/-- How a line comes out that settles a round: the payout is what is due, and the balance grows by
it, as numbers of any size. -/
structure Pays (s : Shell σ ν) (now : Instant) (raw : String) (round : Round) : Prop where
  payout : round.playDealer.settle.payout round.bet =
    .ok (round.playDealer.settle.due round.bet)
  added : ∃ s', s.dispatch now raw = .ok (s', s.echo (Text.trim raw) ::
      Display.ofLines (Novelty.settledLines round.playDealer
        (s.balance + round.playDealer.settle.due round.bet))) ∧
    s'.balance = s.balance + round.playDealer.settle.due round.bet ∧
      s'.session.blackjack = none

theorem pays_of_not_overflows (h : Backend.Reliable up) (hs : up s.store.backend)
    (hfits : s.wealth < UInt64.size) (hcalls : s.CallsBlackjack (Text.trim raw))
    (hword : (argsOf (Text.trim raw)).head? = some "stand")
    (hround : s.session.blackjack = some round) (hnot : ¬s.Overflows (Text.trim raw)) :
    s.Pays now raw round where
  payout := by
    have hdue := (due_lt_iff hfits hround hword).mpr hnot
    rw [Outcome.payout_eq_amount _ (bet_lt hfits hround), amount_of_lt (by omega)]
  added := by
    have hdue := (due_lt_iff hfits hround hword).mpr hnot
    refine ⟨_, (dispatch_stand hfits hcalls hword hround).trans (if_pos hdue), ?_, rfl⟩
    exact Novelty.loadBalance_set h hs (Nat.le_of_lt_succ hdue)

/-! ## A session -/

/-- From the start of a session on, whatever balance is stored, a call of blackjack aborts exactly
where it settles a round that is won and the balance with twice the bet does not fit into 64 bits.
Every other call comes to an end, and one that settles a round pays what is due. -/
theorem Earns.paid (h : Backend.Dependable up) {store : Store σ} (hs : up store.backend)
    {config : Config} {network : Network ν} {clock : Clock} {random : Random} {g : Int}
    {t : Shell σ ν} (hrun : (Shell.start config store network clock random).Earns g t)
    (hcalls : t.CallsBlackjack (Text.trim raw)) (now : Instant) :
    t.wealth < UInt64.size ∧
      (t.Overflows (Text.trim raw) → t.dispatch now raw = .error .amount) ∧
      (¬t.Overflows (Text.trim raw) →
        (∃ t' shown, t.dispatch now raw = .ok (t', shown)) ∧
          ∀ round, (argsOf (Text.trim raw)).head? = some "stand" →
            t.session.blackjack = some round → t.Pays now raw round) := by
  have hstart := up_start h hs config network clock random
  have hup := (hrun.wealth h hstart).1
  have hbegun : (Shell.start config store network clock random).wealth < UInt64.size := by
    rw [wealth_start h.separate]
    exact Nat.lt_succ_of_le (Novelty.loadBalance_le store)
  have hfits := hrun.wealth_lt h hstart hbegun
  refine ⟨hfits, ?_, fun hnot => ⟨?_, fun round hword hround => ?_⟩⟩
  · intro hover
    have ⟨round, hword, hround, _⟩ := hover
    have hdue := fun hlt => (due_lt_iff hfits hround hword).mp hlt hover
    exact (dispatch_stand hfits hcalls hword hround).trans (if_neg hdue)
  · refine exists_dispatch_of_completes hcalls fun call hargs =>
      Novelty.completes_runBlackjack call.args fun round hword hround => ?_
    rw [hargs] at hword
    exact ⟨bet_lt hfits hround, (due_lt_iff hfits hround hword).mpr hnot⟩
  · exact pays_of_not_overflows h.reliable hup hfits hcalls hword hround hnot

set_option maxRecDepth 4000 in
/-- One dollar below the greatest balance, a dollar that is won still fits. -/
theorem paid_greatest :
    let store : Store MemoryStore :=
      ⟨{ entries := [(Key.blackjackBalance, "18446744073709551614"), (Key.mode, "fun")] }, []⟩
    let s : Shell MemoryStore Offline := start {} store ⟨⟨⟩, []⟩ {} ⟨1⟩
    ∃ t round, s.Earns 0 t ∧ t.CallsBlackjack "blackjack stand" ∧
      ¬t.Overflows "blackjack stand" ∧ t.session.blackjack = some round ∧
        round.playDealer.settle = .win ∧ t.Pays ⟨0⟩ "blackjack stand" round ∧
          t.balance + round.playDealer.settle.due round.bet = Text.maxNatural64 := by
  intro store s
  have hup : store.backend.failReads = false ∧ store.backend.failWrites = false := ⟨rfl, rfl⟩
  have hbet : Text.trim "blackjack 1" = "blackjack 1" := by decide +kernel
  have hstand : Text.trim "blackjack stand" = "blackjack stand" := by decide +kernel
  have hword : (argsOf "blackjack stand").head? = some "stand" := by decide +kernel
  have hplay : ((s.dispatch ⟨0⟩ "blackjack 1").toOption.bind fun p =>
        p.1.session.blackjack.map fun round =>
          (s.gain "blackjack 1", p.1.balance, round.bet, round.playDealer.settle,
            decide (p.1.CallsBlackjack "blackjack stand"))) =
      some (0, 18446744073709551613, 1, .win, true) := by
    decide +kernel
  obtain ⟨⟨t, shown⟩, hfirst, hrest⟩ := Option.bind_eq_some_iff.mp hplay
  obtain ⟨round, hround, hvalues⟩ := Option.map_eq_some_iff.mp hrest
  simp only [Prod.mk.injEq, decide_eq_true_eq] at hvalues
  obtain ⟨hgain, hbalance, hone, hwin, hcalls⟩ := hvalues
  have hrun : s.Earns 0 t := by
    have hline := Earns.start.line (Step.eq_ok_of_toOption hfirst)
    rw [hbet, hgain] at hline
    exact hline
  have hnot : ¬t.Overflows "blackjack stand" := by
    rintro ⟨other, -, hsome, -, hle⟩
    obtain rfl := Option.some.inj (hround.symm.trans hsome)
    rw [hbalance, hone] at hle
    exact absurd hle (by decide)
  have hcalled : t.CallsBlackjack (Text.trim "blackjack stand") := by
    rw [hstand]
    exact hcalls
  obtain ⟨-, -, hpaid⟩ := hrun.paid MemoryStore.dependable hup hcalled ⟨0⟩
  rw [hstand] at hpaid
  have hpays := (hpaid hnot).2 round hword hround
  refine ⟨t, round, hrun, hcalls, hnot, hround, hwin, hpays, ?_⟩
  rw [hbalance, hone, hwin]
  rfl

set_option maxRecDepth 4000 in
/-- With the greatest balance, a dollar that is won ends the session. -/
theorem not_paid_greatest :
    let store : Store MemoryStore :=
      ⟨{ entries := [(Key.blackjackBalance, "18446744073709551615"), (Key.mode, "fun")] }, []⟩
    let s : Shell MemoryStore Offline := start {} store ⟨⟨⟩, []⟩ {} ⟨1⟩
    ∃ t round, s.Earns 0 t ∧ t.CallsBlackjack "blackjack stand" ∧
      t.session.blackjack = some round ∧ round.playDealer.settle = .win ∧
        t.dispatch ⟨0⟩ "blackjack stand" = .error .amount := by
  intro store s
  have hbet : Text.trim "blackjack 1" = "blackjack 1" := by decide +kernel
  have hplay : ((s.dispatch ⟨0⟩ "blackjack 1").toOption.bind fun p =>
        p.1.session.blackjack.map fun round =>
          (s.gain "blackjack 1", round.playDealer.settle,
            decide (p.1.CallsBlackjack "blackjack stand"),
            match p.1.dispatch ⟨0⟩ "blackjack stand" with
            | .ok _ => none
            | .error a => some a)) =
      some (0, .win, true, some .amount) := by
    decide +kernel
  obtain ⟨⟨t, shown⟩, hfirst, hrest⟩ := Option.bind_eq_some_iff.mp hplay
  obtain ⟨round, hround, hvalues⟩ := Option.map_eq_some_iff.mp hrest
  simp only [Prod.mk.injEq, decide_eq_true_eq] at hvalues
  obtain ⟨hgain, hwin, hcalls, haborts⟩ := hvalues
  have hrun : s.Earns 0 t := by
    have hline := Earns.start.line (Step.eq_ok_of_toOption hfirst)
    rw [hbet, hgain] at hline
    exact hline
  refine ⟨t, round, hrun, hcalls, hround, hwin, ?_⟩
  split at haborts
  · cases haborts
  · rename_i hdispatch
    rw [hdispatch, Option.some.inj haborts]

end DevConsole.Shell
