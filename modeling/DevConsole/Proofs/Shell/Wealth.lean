import DevConsole.Proofs.Command.Blackjack
import DevConsole.Proofs.Shell.Footprint

/-!
# The money over a session

`Shell.gain` is what a line adds to the wealth of the player: what it gains where it is a call of
blackjack, and nothing otherwise. `Shell.Accounts` lists what a line that is run does to balance,
stake and round; every line keeps to it (`accounts_of_dispatch`). So from the start of a session
on, the wealth is the stored balance and the sum of all gains (`Earns.wealth`).
-/

namespace DevConsole

open Files Net Blackjack

variable {σ ν : Type} [Backend σ] {m : Machine σ ν} {call : Call} {c : Builtin} {e : Effect}

/-! ## Other commands -/

namespace Builtin

variable [Client ν]

/-- No other command touches the balance or the round. -/
theorem Does.money_same (h : c.Does call m e) (hsep : Backend.Separate σ)
    (hc : c ≠ .novelty .blackjack) :
    (e.apply m).balance = m.balance ∧ (e.apply m).session.blackjack = m.session.blackjack := by
  constructor
  · have hkeys : ∀ w ∈ e.writes m, w.key ≠ Key.blackjackBalance := fun w hw hkey =>
      hc (h.writes.eq_owner hw (by rw [hkey]; decide))
    have hget := Store.get?_calls (s := m.store) hsep hkeys
    rw [← e.store_apply] at hget
    simp only [Machine.balance, Novelty.loadBalance, hget]
  · refine e.same_apply m (p := .round) fun hfacet => hc ?_
    exact List.mem_singleton.mp (h.mem_changers hfacet)

end Builtin

namespace Shell

variable [Client ν] {s s' : Shell σ ν} {now : Instant} {raw line : String} {shown : Display}

/-! ## One line -/

/-- The line is a call of blackjack. -/
abbrev CallsBlackjack (s : Shell σ ν) (line : String) : Prop :=
  s.Calls line (.novelty .blackjack)

/-- What a line adds to the wealth of the player. -/
def gain (s : Shell σ ν) (line : String) : Int :=
  if s.CallsBlackjack line then Novelty.gain (argsOf line) s.session.blackjack else 0

/-- What running a line without blanks around it does to the money. -/
structure Accounts (s : Shell σ ν) (now : Instant) (line : String) (s' : Shell σ ν) : Prop where
  /-- The gain of the line is added to the wealth. -/
  wealth : (s'.wealth : Int) = s.wealth + s.gain line
  /-- A bet is accepted, and taken off the balance, exactly if it is covered and there is no
  round. -/
  bet : ∀ bet, s.CallsBlackjack line → Novelty.bet? (argsOf line) = some bet →
    if 0 < bet ∧ bet ≤ s.balance ∧ s.session.blackjack = none then
      s'.balance = s.balance - bet ∧ ∃ round, s'.session.blackjack = some round ∧ round.bet = bet
    else ∃ e, s.Refuses now line e
  /-- A round begins with a bet. -/
  begun : ∀ round, s.session.blackjack = none → s'.session.blackjack = some round →
    s.CallsBlackjack line ∧ Novelty.bet? (argsOf line) = some round.bet
  /-- No other round begins during a round. -/
  kept : ∀ round round', s.session.blackjack = some round → s'.session.blackjack = some round' →
    round' = round ∨ ∃ card, round.hit = some (card, round')
  /-- A refused line leaves all as it was. -/
  refused : ∀ e, s.Refuses now line e →
    s'.balance = s.balance ∧ s'.session.blackjack = s.session.blackjack
  /-- So does every other command. -/
  other : ¬s.CallsBlackjack line →
    s'.balance = s.balance ∧ s'.session.blackjack = s.session.blackjack

theorem run_blackjack (call : Call) :
    ((Builtin.novelty .blackjack).run call : Action σ ν Output) =
      Novelty.runBlackjack call.args := rfl

theorem run_blackjack_stand (hword : (argsOf line).head? = some "stand") :
    (Builtin.novelty .blackjack).run (s.callBy now line) = (Novelty.stand : Action σ ν Output) := by
  rw [run_blackjack, args_callBy, Novelty.runBlackjack_stand hword]

/-- A call that is refused was idle. -/
theorem idle_of_refuses {e : Error} (hcalls : s.CallsBlackjack line) (h : s.Refuses now line e) :
    Novelty.Idle s.toMachine (argsOf line) := by
  obtain ⟨m, hrun⟩ := refused_of_refuses hcalls h
  rw [run_blackjack] at hrun
  have hidle := (Novelty.meets_runBlackjack_idle _).of_refused hrun
  rw [args_callBy] at hidle
  exact ⟨hidle.gain, hidle.bet⟩

theorem same_of_refuses {e : Error} (hd : s.dispatch now raw = .ok (s', shown))
    (h : s.Refuses now (Text.trim raw) e) :
    s'.balance = s.balance ∧ s'.session.blackjack = s.session.blackjack := by
  by_cases hline : Text.trim raw = ""
  · rw [dispatch_of_blank hline] at hd
    cases hd
    exact ⟨rfl, rfl⟩
  · rw [dispatch_refused hline h] at hd
    cases hd
    exact ⟨rfl, rfl⟩

/-- A line that leaves balance and round alone, and is no call of blackjack that could have changed
them. -/
theorem accounts_of_same (hbalance : s'.balance = s.balance)
    (hround : s'.session.blackjack = s.session.blackjack)
    (hidle : s.CallsBlackjack line →
      Novelty.Idle s.toMachine (argsOf line) ∧ ∃ e, s.Refuses now line e) :
    s.Accounts now line s' where
  wealth := by
    have hgain : s.gain line = 0 := by
      unfold gain
      split
      · rename_i hcalls
        exact (hidle hcalls).1.gain
      · rfl
    rw [hgain, Machine.wealth, Machine.wealth, Machine.stake, Machine.stake, hbalance, hround,
      Int.add_zero]
  bet bet hcalls hbet := by
    rw [if_neg ((hidle hcalls).1.bet bet hbet)]
    exact (hidle hcalls).2
  begun round hnone hsome := by
    rw [hround, hnone] at hsome
    cases hsome
  kept round round' hsome hsome' := by
    rw [hround, hsome] at hsome'
    exact .inl (Option.some.inj hsome').symm
  refused _ _ := ⟨hbalance, hround⟩
  other _ := ⟨hbalance, hround⟩

theorem accounts_of_acts {up : σ → Prop} (h : Backend.Reliable up) (hs : up s.store.backend)
    (hcalls : s.CallsBlackjack line)
    (hrefused : ∀ e, s.Refuses now line e →
      s'.balance = s.balance ∧ s'.session.blackjack = s.session.blackjack)
    (hacts : (Builtin.novelty .blackjack).Acts (s.callBy now line) (s.recorded line).toMachine
      s'.toMachine) : s.Accounts now line s' := by
  obtain ⟨e, hdoes, hm⟩ := hacts
  -- balance, stake and round do not depend on what is drawn and asked
  have hbalance : s'.balance = (e.apply (s.recorded line).toMachine).balance := by
    rw [hm]
    rfl
  have hround : s'.session.blackjack = (e.apply (s.recorded line).toMachine).session.blackjack := by
    rw [hm]
  refine ⟨?_, fun bet _ hbet => ?_, fun round hnone hsome => ⟨hcalls, ?_⟩,
    fun round round' hr hr' => ?_,
    hrefused, fun hother => absurd hcalls hother⟩
  · have hwealth := hdoes.wealth h hs
    rw [args_callBy] at hwealth
    rw [Machine.wealth, Machine.stake, hbalance, hround, gain, if_pos hcalls]
    exact hwealth
  · rw [← args_callBy s now] at hbet
    obtain ⟨hcovered, hafter, round, hbegun, hplaced⟩ := hdoes.bet_accepted h hs hbet
    have hcovered : 0 < bet ∧ bet ≤ s.balance ∧ s.session.blackjack = none := hcovered
    rw [if_pos hcovered]
    exact ⟨hbalance.trans hafter, round, hround.trans hbegun, hplaced⟩
  · rw [← args_callBy s now]
    exact hdoes.round_begun hnone (hround.symm.trans hsome)
  · exact hdoes.round_kept hr (hround.symm.trans hr')

/-- Every line keeps to the accounts. -/
theorem accounts_of_dispatch {up : σ → Prop} (h : Backend.Dependable up)
    (hs : up s.store.backend) (hd : s.dispatch now raw = .ok (s', shown)) :
    s.Accounts now (Text.trim raw) s' := by
  have hruns := runs_of_dispatch hd
  generalize hm : s'.toMachine = m at hruns
  cases hruns with
  | blank hblank =>
    refine accounts_of_same (congrArg Machine.balance hm) (congrArg (·.session.blackjack) hm)
      fun hcalls => ?_
    have hname := hcalls.named
    rw [hblank] at hname
    exact absurd hname (by decide)
  | refused hrefuses =>
    exact accounts_of_same ((congrArg Machine.balance hm).trans rfl)
      ((congrArg (·.session.blackjack) hm).trans rfl)
      fun hcalls => ⟨idle_of_refuses hcalls hrefuses, _, hrefuses⟩
  | @called c _ hcalls hacts =>
    rw [← hm] at hacts
    by_cases hc : c = .novelty .blackjack
    · subst hc
      exact accounts_of_acts h.reliable hs hcalls (fun _ => same_of_refuses hd) hacts
    · obtain ⟨e, hdoes, hafter⟩ := hacts
      obtain ⟨hbalance, hround⟩ := hdoes.money_same h.separate hc
      refine accounts_of_same ?_ ?_ fun hb => absurd (hcalls.unique hb) hc
      · rw [hafter]
        exact hbalance
      · rw [hafter]
        exact hround

/-- A call of blackjack comes to an end as long as the balance and a payout fit into 64 bits. -/
theorem exists_dispatch (hcalls : s.CallsBlackjack (Text.trim raw))
    (hfits : s.balance + 2 * s.stake < UInt64.size) :
    ∃ s' shown, s.dispatch now raw = .ok (s', shown) := by
  refine exists_dispatch_of_completes hcalls fun call _ =>
    Novelty.completes_runBlackjack call.args fun round _ hround => ?_
  have hstake : s.stake = round.bet := Machine.stake_of_some hround
  have hdue := round.playDealer.settle.due_le round.bet
  have hbalance : (s.recorded (Text.trim raw)).balance = s.balance := rfl
  rw [hbalance]
  omega

/-! ## A session -/

/-- `t` is what becomes of `s` by lines that are run, while time goes on and what lies outside the
shell changes; `g` is what the lines gain. -/
inductive Earns (s : Shell σ ν) : Int → Shell σ ν → Prop
  | start : Earns s 0 s
  | line {g : Int} {t t' : Shell σ ν} {now : Instant} {raw : String} {shown : Display} :
      Earns s g t → t.dispatch now raw = .ok (t', shown) →
      Earns s (g + t.gain (Text.trim raw)) t'
  | tick {g : Int} {t t' : Shell σ ν} {now : Instant} {shown : Display} :
      Earns s g t → t.tick now = .ok (t', shown) → Earns s g t'
  | outside {g : Int} {t : Shell σ ν} (network : Network ν) (clock : Clock) (random : Random) :
      Earns s g t → Earns s g { t with network, clock, random }

theorem Earns.wealth {up : σ → Prop} {g : Int} {t : Shell σ ν} (hrun : s.Earns g t)
    (h : Backend.Dependable up) (hs : up s.store.backend) :
    up t.store.backend ∧ (t.wealth : Int) = s.wealth + g := by
  induction hrun with
  | start => exact ⟨hs, (Int.add_zero _).symm⟩
  | line _ hd ih =>
    obtain ⟨hup, hwealth⟩ := ih
    refine ⟨up_dispatch h hup hd, ?_⟩
    rw [(accounts_of_dispatch h hup hd).wealth, hwealth, Int.add_assoc]
  | tick _ hd ih =>
    rw [tick_eq hd]
    exact ih
  | outside _ _ _ _ ih => exact ih

omit [Client ν] in
theorem wealth_start (hsep : Backend.Separate σ) (config : Config) (store : Store σ)
    (network : Network ν) (clock : Clock) (random : Random) :
    (start config store network clock random).wealth = Novelty.loadBalance store := by
  have hget := get?_start hsep (by decide : Key.blackjackBalance ≠ Key.fs) config store network
    clock random
  rw [Machine.wealth, Machine.stake_of_none rfl, Machine.balance, Novelty.loadBalance, hget]
  rfl

/-- From the start of a session on, the wealth of the player is the stored balance, or the starting
one, and what has been gained since. A call of blackjack comes to an end as long as what is paid out
at most fits into 64 bits, and every line that is run keeps to the accounts. -/
theorem Earns.accounts {up : σ → Prop} (h : Backend.Dependable up) {store : Store σ}
    (hs : up store.backend) {config : Config} {network : Network ν} {clock : Clock}
    {random : Random} {g : Int} {t : Shell σ ν}
    (hrun : (Shell.start config store network clock random).Earns g t) :
    (t.wealth : Int) =
        (((store.get? Key.blackjackBalance).bind fun text =>
          Text.natural64? (Text.trim text)).getD 1000 : Nat) + g ∧
      (∀ now raw, t.CallsBlackjack (Text.trim raw) → t.balance + 2 * t.stake < UInt64.size →
        ∃ t' shown, t.dispatch now raw = .ok (t', shown)) ∧
      ∀ now raw t' shown, t.dispatch now raw = .ok (t', shown) →
        t.Accounts now (Text.trim raw) t' := by
  obtain ⟨ws, hstore, -⟩ := exists_calls_of_start config store network clock random
  have hstart : up (Shell.start config store network clock random).store.backend := by
    rw [hstore]
    exact Store.up_calls h hs ws
  obtain ⟨hup, hwealth⟩ := hrun.wealth h hstart
  rw [wealth_start h.separate] at hwealth
  exact ⟨hwealth, fun _ _ => exists_dispatch, fun _ _ _ _ hd => accounts_of_dispatch h hup hd⟩

set_option maxRecDepth 4000 in
/-- Fifty of two hundred and fifty are bet and doubled. -/
theorem accounts_won :
    let store : Store MemoryStore :=
      ⟨{ entries := [(Key.blackjackBalance, " 250 "), (Key.mode, "fun")] }, []⟩
    let s : Shell MemoryStore Offline := start {} store ⟨⟨⟩, []⟩ {} ⟨1⟩
    ∃ t t' shown, s.Earns 0 t ∧ t.balance = 200 ∧ t.stake = 50 ∧
      t.CallsBlackjack "blackjack stand" ∧ t.balance + 2 * t.stake < UInt64.size ∧
        t.dispatch ⟨0⟩ "blackjack stand" = .ok (t', shown) ∧
          t.Accounts ⟨0⟩ "blackjack stand" t' ∧ t'.balance = 300 ∧ t'.stake = 0 := by
  intro store s
  have hup : store.backend.failReads = false ∧ store.backend.failWrites = false := ⟨rfl, rfl⟩
  have hbet : Text.trim "blackjack 50" = "blackjack 50" := by decide +kernel
  have hstand : Text.trim "blackjack stand" = "blackjack stand" := by decide +kernel
  have hplay : ((s.dispatch ⟨0⟩ "blackjack 50").toOption.bind fun p =>
        (p.1.dispatch ⟨0⟩ "blackjack stand").toOption.map fun q =>
          ((s.gain "blackjack 50", p.1.balance, p.1.stake, q.1.balance, q.1.stake),
            decide (p.1.CallsBlackjack "blackjack stand"))) =
      some ((0, 200, 50, 300, 0), true) := by
    decide +kernel
  obtain ⟨⟨t, shown⟩, hfirst, hrest⟩ := Option.bind_eq_some_iff.mp hplay
  obtain ⟨⟨t', shown'⟩, hsecond, hvalues⟩ := Option.map_eq_some_iff.mp hrest
  simp only [Prod.mk.injEq, decide_eq_true_eq] at hvalues
  obtain ⟨⟨hgain, hbalance, hstake, hbalance', hstake'⟩, hcalls⟩ := hvalues
  have hd : s.dispatch ⟨0⟩ "blackjack 50" = .ok (t, shown) := by
    cases hdispatch : s.dispatch ⟨0⟩ "blackjack 50" <;> rw [hdispatch] at hfirst <;> cases hfirst
    rfl
  have hd' : t.dispatch ⟨0⟩ "blackjack stand" = .ok (t', shown') := by
    cases hdispatch : t.dispatch ⟨0⟩ "blackjack stand" <;> rw [hdispatch] at hsecond <;>
      cases hsecond
    rfl
  have hrun : s.Earns 0 t := by
    have hline := Earns.start.line hd
    rw [hbet, hgain] at hline
    exact hline
  obtain ⟨-, -, haccounts⟩ := hrun.accounts MemoryStore.dependable hup
  have haccount := haccounts _ _ _ _ hd'
  rw [hstand] at haccount
  have hfits : t.balance + 2 * t.stake < UInt64.size := by
    rw [hbalance, hstake]
    decide
  exact ⟨t, t', shown', hrun, hbalance, hstake, hcalls, hfits, hd', haccount, hbalance', hstake'⟩

end Shell
end DevConsole
