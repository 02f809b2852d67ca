import DevConsole.Calculator
import DevConsole.Proofs.Text.Blank
import DevConsole.Proofs.Text.Integer

/-!
# The tokens of an expression

`Spells a text ts` says that a text is made up of the tokens `ts`: a sign is one character, a number
a run of digits and points that no further one follows, and blanks may stand between tokens.
`Calculator.tokens?` finds the tokens of every text that has some (`tokens?_eq_some_iff`). It reads
numbers character by character, so that the induction goes through texts with a run before them that
is still open.
-/

namespace DevConsole.Calculator

variable {ν : Type} {a : Arithmetic ν} {run run' cs rest rest' text : List Char} {c : Char}
  {ts : List (Token ν)}

/-- The tokens that a text is made up of. -/
inductive Spells (a : Arithmetic ν) : List Char → List (Token ν) → Prop
  | done : Spells a [] []
  | blank {c : Char} {cs : List Char} {ts : List (Token ν)} :
      Text.isBlank c = true → Spells a cs ts → Spells a (c :: cs) ts
  | sign {c : Char} {cs : List Char} {t : Token ν} {ts : List (Token ν)} :
      sign? c = some t → Spells a cs ts → Spells a (c :: cs) (t :: ts)
  | number {run rest : List Char} {n : ν} {ts : List (Token ν)} :
      run ≠ [] → (∀ c ∈ run, isNumeric c = true) → (∀ c ∈ rest.head?, isNumeric c = false) →
      a.read? run = some n → Spells a rest ts → Spells a (run ++ rest) (.number n :: ts)

/-! ## Kinds of characters -/

theorem isBlank_of_isNumeric (h : isNumeric c = true) : Text.isBlank c = false := by
  rcases Bool.or_eq_true_iff.mp h with h | h
  · exact Text.isBlank_of_isDigit h
  · rw [beq_iff_eq.mp h]
    decide

/-- A sign is no part of a number, and no blank. -/
theorem sign?_eq_none (h : isNumeric c = true ∨ Text.isBlank c = true) :
    sign? (ν := ν) c = none := by
  unfold sign?
  split
  case h_7 => rfl
  all_goals exact absurd h (by decide)

/-! ## Runs -/

/-- A run ends where the digits and points end. -/
theorem run_unique (h : run ++ rest = run' ++ rest')
    (hrun : ∀ c ∈ run, isNumeric c = true) (hrest : ∀ c ∈ rest.head?, isNumeric c = false)
    (hrun' : ∀ c ∈ run', isNumeric c = true) (hrest' : ∀ c ∈ rest'.head?, isNumeric c = false) :
    run = run' ∧ rest = rest' := by
  have hruns : run = run' := by
    rw [← Text.takeWhile_run hrun hrest, h, Text.takeWhile_run hrun' hrest']
  subst hruns
  exact ⟨rfl, List.append_cancel_left h⟩

/-- A run that ends here is one number before the other tokens. -/
theorem spells_append_iff (hrun : ∀ c ∈ run, isNumeric c = true)
    (hrest : ∀ c ∈ rest.head?, isNumeric c = false) :
    Spells a (run ++ rest) ts ↔ ∃ after, Spells a rest after ∧ closeRun a run after = some ts := by
  cases run with
  | nil => simp [closeRun]
  | cons d run =>
    have hd := hrun d List.mem_cons_self
    constructor
    · intro h
      generalize htext : d :: run ++ rest = text at h
      cases h with
      | done => cases htext
      | blank hb =>
        cases htext
        rw [isBlank_of_isNumeric hd] at hb
        cases hb
      | sign hs =>
        cases htext
        rw [sign?_eq_none (.inl hd)] at hs
        cases hs
      | number _ hrun' hrest' hn h =>
        obtain ⟨rfl, rfl⟩ := run_unique htext hrun hrest hrun' hrest'
        exact ⟨_, h, by simp [closeRun, hn]⟩
    · rintro ⟨after, h, hclose⟩
      obtain ⟨n, hn, rfl⟩ := Option.map_eq_some_iff.mp hclose
      exact .number (List.cons_ne_nil d run) hrun hrest hn h

theorem spells_nil_iff : Spells a [] ts ↔ ts = [] := by
  refine ⟨fun h => ?_, fun h => h ▸ .done⟩
  generalize htext : [] = text at h
  cases h with
  | done => rfl
  | blank => cases htext
  | sign => cases htext
  | number hne => exact absurd (List.nil_eq_append_iff.mp htext).1 hne

theorem spells_cons_iff (hc : isNumeric c = false) :
    Spells a (c :: cs) ts ↔ (Text.isBlank c = true ∧ Spells a cs ts) ∨
      ∃ t after, sign? c = some t ∧ ts = t :: after ∧ Spells a cs after := by
  constructor
  · intro h
    generalize htext : c :: cs = text at h
    cases h with
    | done => cases htext
    | blank hb h => cases htext; exact .inl ⟨hb, h⟩
    | sign hs h => cases htext; exact .inr ⟨_, _, hs, rfl, h⟩
    | @number run rest n ts hne hrun =>
      cases run with
      | nil => exact absurd rfl hne
      | cons d run =>
        cases htext
        rw [hrun c List.mem_cons_self] at hc
        cases hc
  · rintro (⟨hb, h⟩ | ⟨t, after, hs, rfl, h⟩)
    · exact .blank hb h
    · exact .sign hs h

/-- The tokens of a text behind a run that is still open. -/
theorem tokensFrom_eq_some_iff (hrun : ∀ c ∈ run, isNumeric c = true) :
    tokensFrom a run cs = some ts ↔ Spells a (run ++ cs) ts := by
  induction cs generalizing run ts with
  | nil =>
    rw [tokensFrom, spells_append_iff hrun (by simp)]
    simp only [spells_nil_iff, exists_eq_left]
  | cons c cs ih =>
    rw [tokensFrom]
    split
    · rename_i hc
      have hrun' : ∀ d ∈ run ++ [c], isNumeric d = true :=
        List.forall_mem_append.mpr ⟨hrun, List.forall_mem_singleton.mpr hc⟩
      rw [ih hrun', List.append_assoc]
      rfl
    · rename_i hc
      have hnot : isNumeric c = false := Bool.eq_false_iff.mpr hc
      have hcs : ∀ after, tokensFrom a [] cs = some after ↔ Spells a ([] ++ cs) after :=
        fun _ => ih (by simp)
      rw [spells_append_iff hrun (by simpa using hnot)]
      simp only [spells_cons_iff hnot, List.nil_append] at hcs ⊢
      split
      · rename_i hb
        simp [hb, sign?_eq_none (.inr hb), Option.bind_eq_some_iff, hcs]
      · rename_i hb
        simp only [hb, Bool.false_eq_true, false_and, false_or, Option.bind_eq_some_iff, hcs]
        constructor
        · rintro ⟨t, ht, after, hafter, hclose⟩
          exact ⟨_, ⟨t, after, ht, rfl, hafter⟩, hclose⟩
        · rintro ⟨_, ⟨t, after, ht, rfl, hafter⟩, hclose⟩
          exact ⟨t, ht, after, hafter, hclose⟩

theorem tokens?_eq_some_iff : tokens? a text = some ts ↔ Spells a text ts :=
  tokensFrom_eq_some_iff (List.forall_mem_nil _)

end DevConsole.Calculator
