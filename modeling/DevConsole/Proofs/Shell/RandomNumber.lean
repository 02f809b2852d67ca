import DevConsole.Proofs.Random.Range
import DevConsole.Proofs.Shell.Redirect
import DevConsole.Proofs.Text.Integer

/-!
# Random numbers

A line that asks for a random number between two bounds (`Shell.AsksRandom`) shows what is drawn
from this range (`dispatch_random`), and any two integers of 64 bits can be asked for
(`asksRandom_written`). A value between the bounds is shown for some state of the random source
exactly if it can be drawn (`dispatch_random_iff`), that is if it is less than `Random.spread` from
the least one or the range is all of 64 bits.
-/

namespace DevConsole

open Net

variable {σ ν : Type} {least greatest v : Int64}

namespace Utility

/-- What is shown of a random number. -/
def randomText (least greatest v : Int64) : String :=
  "Random (" ++ toString least.toInt ++ "-" ++ toString greatest.toInt ++ "): " ++
    toString v.toInt

theorem integer64?_toString (v : Int64) : Text.integer64? (toString v.toInt) = some v.toInt := by
  have := v.le_toInt
  have := v.toInt_lt
  refine Text.integer64?_toString ?_ ?_ <;> rw [Text.maxInteger64] <;> omega

/-- The text tells which value has been drawn. -/
theorem randomText_inj {w : Int64} (h : randomText least greatest v = randomText least greatest w) :
    v = w := by
  have htext : toString v.toInt = toString w.toInt := (String.append_right_inj _).mp h
  have hread := integer64?_toString v
  rw [htext, integer64?_toString] at hread
  exact (Int64.toInt_inj.mp (Option.some.inj hread)).symm

/-- The random source is asked for a value between the bounds. -/
theorem runRandom_eq {args : List String} (hle : least ≤ greatest)
    (hleast : bound args 0 0 = least.toInt) (hgreatest : bound args 1 100 = greatest.toInt) :
    (runRandom args : Action σ ν Output) = do
      let n ← Action.onRandom (Random.inRange least greatest)
      return .text (randomText least greatest n) := by
  have hnot : ¬greatest.toInt < least.toInt := Int.not_lt.mpr (Int64.le_iff_toInt_le.mp hle)
  unfold runRandom
  rw [hleast, hgreatest]
  dsimp only
  rw [if_neg hnot, Int64.ofInt_toInt, Int64.ofInt_toInt]
  rfl

end Utility

namespace Shell

variable {s : Shell σ ν} {raw line : String}

/-- The line asks for a random number between the two bounds. -/
structure AsksRandom (s : Shell σ ν) (line : String) (least greatest : Int64) : Prop where
  calls : s.Calls line (.utility .random)
  least : Utility.bound (argsOf line) 0 0 = least.toInt
  greatest : Utility.bound (argsOf line) 1 100 = greatest.toInt

theorem isWord_toString (n : Int) : Text.IsWord (toString n) := by
  have hnat : ∀ k : Nat, ∀ c ∈ (toString k).toList, Text.isBlank c = false := fun k c hc =>
    Text.isBlank_of_isDigit (Text.isDigit_of_mem_toString hc)
  have hne : ∀ k : Nat, toString k ≠ "" := fun k hempty => by
    have hchars := Text.toList_toString k
    rw [hempty] at hchars
    exact Nat.toDigits_ne_nil hchars.symm
  cases n with
  | ofNat k => exact ⟨hne k, hnat k⟩
  | negSucc k =>
    have hchars : (toString (Int.negSucc k)).toList = '-' :: (toString (k + 1)).toList :=
      String.toList_append
    refine ⟨fun hempty => ?_, fun c hc => ?_⟩
    · rw [hempty] at hchars
      cases hchars
    · rw [hchars] at hc
      rcases List.mem_cons.mp hc with rfl | hc
      · decide
      · exact hnat _ c hc

/-- The bounds can be written out. -/
theorem asksRandom_written (hmode : s.session.mode = .utilities) (least greatest : Int64) :
    s.AsksRandom
      (Text.trim ("random " ++ (toString least.toInt ++ " " ++ toString greatest.toInt)))
      least greatest := by
  have hword : ∀ v : Int64, Text.IsWord (toString v.toInt) := fun v => isWord_toString v.toInt
  have hline := ofLine_trim_name (.utility .random)
    (toString least.toInt ++ " " ++ toString greatest.toInt)
  rw [(hword least).trim_append (hword greatest)] at hline
  have hargs : argsOf (Text.trim ("random " ++
      (toString least.toInt ++ " " ++ toString greatest.toInt))) =
        [toString least.toInt, toString greatest.toInt] := by
    have hrest := congrArg Words.rest hline
    rw [argsOf]
    refine (congrArg Text.words hrest).trans ?_
    rw [(hword least).words_append, (hword greatest).words_eq]
  refine ⟨⟨congrArg Words.name hline, .inr (congrArg some hmode.symm)⟩, ?_, ?_⟩
  · rw [hargs, Utility.bound, List.getElem?_cons_zero, Option.bind_some,
      Utility.integer64?_toString, Option.getD_some]
  · rw [hargs, Utility.bound, List.getElem?_cons_succ, List.getElem?_cons_zero, Option.bind_some,
      Utility.integer64?_toString, Option.getD_some]

variable [Backend σ] [Client ν]

/-- What is drawn from the range is shown. -/
theorem dispatch_random (h : s.AsksRandom (Text.trim raw) least greatest) (hle : least ≤ greatest)
    (now : Instant) :
    s.dispatch now raw =
      .ok ({ s.recorded (Text.trim raw) with random := (s.random.inRange least greatest).2 },
        s.echo (Text.trim raw) ::
          answer (Utility.randomText least greatest (s.random.inRange least greatest).1)) := by
  have hrun : (Builtin.utility .random).run (s.callBy now (Text.trim raw)) =
      (Utility.runRandom (argsOf (Text.trim raw)) : Action σ ν Output) := by
    rw [← args_callBy s now]
    rfl
  rw [dispatch_of_calls h.calls, hrun, Utility.runRandom_eq hle h.least h.greatest]
  rfl

/-- A line shows a value for some state of the random source exactly if the value can be drawn. -/
theorem exists_shown_iff (h : s.AsksRandom (Text.trim raw) least greatest) (hleast : least ≤ v)
    (hgreatest : v ≤ greatest) (now : Instant) :
    (∃ random s', ({ s with random } : Shell σ ν).dispatch now raw =
        .ok (s', s.echo (Text.trim raw) :: answer (Utility.randomText least greatest v))) ↔
      Random.Reaches least greatest v := by
  have hle := Int64.le_trans hleast hgreatest
  have hline : ∀ random : Random,
      ({ s with random } : Shell σ ν).AsksRandom (Text.trim raw) least greatest :=
    fun _ => ⟨⟨h.calls.named, h.calls.isIn⟩, h.least, h.greatest⟩
  rw [← Random.exists_inRange_iff hleast hgreatest]
  constructor
  · rintro ⟨random, s', hd⟩
    rw [dispatch_random (hline random) hle] at hd
    have hanswer := (List.cons.inj (congrArg Prod.snd (Except.ok.inj hd))).2
    exact ⟨random, Utility.randomText_inj (answer_inj hanswer)⟩
  · rintro ⟨random, rfl⟩
    exact ⟨random, _, dispatch_random (hline random) hle now⟩

/-- A value between the bounds is drawn from some state of the random source, and shown by a line
that asks for it, exactly if the upper bits of a draw go that far or the range is all of 64 bits.
The bounds can be any integers of 64 bits. -/
theorem dispatch_random_iff (hmode : s.session.mode = .utilities) (hleast : least ≤ v)
    (hgreatest : v ≤ greatest) :
    ((∃ r : Random, (r.inRange least greatest).1 = v) ↔ Random.Reaches least greatest v) ∧
      (∃ raw, s.AsksRandom (Text.trim raw) least greatest) ∧
      ∀ now raw, s.AsksRandom (Text.trim raw) least greatest →
        ((∃ random s', ({ s with random } : Shell σ ν).dispatch now raw =
            .ok (s', s.echo (Text.trim raw) :: answer (Utility.randomText least greatest v))) ↔
          Random.Reaches least greatest v) :=
  ⟨Random.exists_inRange_iff hleast hgreatest, ⟨_, asksRandom_written hmode least greatest⟩,
    fun now _ hasks => exists_shown_iff hasks hleast hgreatest now⟩

set_option maxRecDepth 4000 in
/-- The last value that the upper bits reach is shown, of a range with one value more. -/
theorem dispatch_random_iff_last :
    let s : Shell MemoryStore Offline :=
      start {} ⟨{ entries := [(Key.mode, "tools")] }, []⟩ ⟨⟨⟩, []⟩ {} ⟨0⟩
    let raw := "random 0 9007199254740992"
    s.session.mode = .utilities ∧ (0 : Int64) ≤ 9007199254740991 ∧
      (9007199254740991 : Int64) ≤ 9007199254740992 ∧
      (∃ r : Random, (r.inRange 0 9007199254740992).1 = 9007199254740991) ∧
      s.AsksRandom (Text.trim raw) 0 9007199254740992 ∧
        ∃ random s', ({ s with random } : Shell MemoryStore Offline).dispatch ⟨0⟩ raw =
          .ok (s', s.echo (Text.trim raw) ::
            answer "Random (0-9007199254740992): 9007199254740991") := by
  intro s raw
  have hmode : s.session.mode = .utilities := by decide +kernel
  have hleast : (0 : Int64) ≤ 9007199254740991 := by decide
  have hgreatest : (9007199254740991 : Int64) ≤ 9007199254740992 := by decide
  have hreaches : Random.Reaches 0 9007199254740992 9007199254740991 := .inl (by decide)
  have hasks : s.AsksRandom (Text.trim raw) 0 9007199254740992 :=
    ⟨by decide +kernel, by decide +kernel, by decide +kernel⟩
  have htext : Utility.randomText 0 9007199254740992 9007199254740991 =
      "Random (0-9007199254740992): 9007199254740991" := by decide +kernel
  obtain ⟨hdrawn, -, hshown⟩ := dispatch_random_iff hmode hleast hgreatest
  rw [← htext]
  exact ⟨hmode, hleast, hgreatest, hdrawn.mpr hreaches, hasks, (hshown ⟨0⟩ raw hasks).mpr hreaches⟩

set_option maxRecDepth 4000 in
/-- The greatest value of that range is drawn from no state, and never shown. -/
theorem not_shown_greatest :
    let s : Shell MemoryStore Offline :=
      start {} ⟨{ entries := [(Key.mode, "tools")] }, []⟩ ⟨⟨⟩, []⟩ {} ⟨0⟩
    let raw := "random 0 9007199254740992"
    (∀ r : Random, (r.inRange 0 9007199254740992).1 ≠ 9007199254740992) ∧
      s.AsksRandom (Text.trim raw) 0 9007199254740992 ∧
        ∀ random s', ({ s with random } : Shell MemoryStore Offline).dispatch ⟨0⟩ raw ≠
          .ok (s', s.echo (Text.trim raw) ::
            answer "Random (0-9007199254740992): 9007199254740992") := by
  intro s raw
  have hleast : (0 : Int64) ≤ 9007199254740992 := by decide
  have hgreatest : (9007199254740992 : Int64) ≤ 9007199254740992 := by decide
  have hnot : ¬Random.Reaches 0 9007199254740992 9007199254740992 := by decide
  have hasks : s.AsksRandom (Text.trim raw) 0 9007199254740992 :=
    ⟨by decide +kernel, by decide +kernel, by decide +kernel⟩
  have htext : Utility.randomText 0 9007199254740992 9007199254740992 =
      "Random (0-9007199254740992): 9007199254740992" := by decide +kernel
  rw [← htext]
  exact ⟨fun r hr => hnot ((Random.exists_inRange_iff hleast hgreatest).mp ⟨r, hr⟩), hasks,
    fun random s' hd => hnot ((exists_shown_iff hasks hleast hgreatest ⟨0⟩).mp ⟨random, s', hd⟩)⟩

end Shell
end DevConsole
