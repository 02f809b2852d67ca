import DevConsole.Proofs.Calculator.Grammar
import DevConsole.Proofs.Calculator.Tokens

/-!
# The calculator keeps to its grammar

A reader reads a kind of phrases (`Reads`) if it takes each of them off the tokens before it, gives
its value, and takes nothing else; and if the tokens tell which phrase they are. Whether a phrase is
over is told by the next token alone: `Reads` names the tokens that would go on with it. Each reader
of the calculator gets one lemma (`Reads.chain`, `Reads.unary`, `Reads.primary`), and the induction
is on how deep parentheses may be nested (`reads_sumTo`).

The loop over the operators is compared with a run that has no count of its turns (`Chains`): it
ends because every operator takes a token (`chains_chainFrom`).
-/

namespace DevConsole.Calculator

variable {ν ω α : Type} {a : Arithmetic ν}

/-! ## The loop -/

/-- A run of the loop over the operators, without a count of its turns. -/
inductive Chains (operator? : Token ν → Option (ν → ν → ν)) (operand : Reader ν) :
    ν → List (Token ν) → Option (ν × List (Token ν)) → Prop
  | done {left : ν} {ts : List (Token ν)} :
      (∀ t ∈ ts.head?, operator? t = none) → Chains operator? operand left ts (some (left, ts))
  | stuck {left : ν} {t : Token ν} {ts : List (Token ν)} {f : ν → ν → ν} :
      operator? t = some f → operand ts = none → Chains operator? operand left (t :: ts) none
  | next {left right : ν} {t : Token ν} {ts rest : List (Token ν)} {f : ν → ν → ν}
      {result : Option (ν × List (Token ν))} :
      operator? t = some f → operand ts = some (right, rest) →
      Chains operator? operand (f left right) rest result →
      Chains operator? operand left (t :: ts) result

variable {operator? : Token ν → Option (ν → ν → ν)} {operand : Reader ν} {left : ν}
  {ts : List (Token ν)}

/-- The loop ends by itself: its turns are counted, but the count is never used up. -/
theorem chains_chainFrom
    (h : ∀ ts v rest, operand ts = some (v, rest) → rest.length ≤ ts.length) {fuel : Nat}
    (hfuel : ts.length ≤ fuel) :
    Chains operator? operand left ts (chainFrom operator? operand fuel left ts) := by
  induction fuel generalizing left ts with
  | zero =>
    cases List.length_eq_zero_iff.mp (Nat.le_zero.mp hfuel)
    exact .done (by simp)
  | succ fuel ih =>
    cases ts with
    | nil => exact .done (by simp)
    | cons t ts =>
      rw [chainFrom]
      split
      · rename_i hop
        exact .done (by simpa using hop)
      · rename_i f hop
        split
        · rename_i hoperand
          exact .stuck hop hoperand
        · rename_i right rest hoperand
          have hlength := h ts right rest hoperand
          have hle : ts.length ≤ fuel := Nat.le_of_succ_le_succ hfuel
          exact .next hop hoperand (ih (Nat.le_trans hlength hle))

theorem Chains.unique {result result' : Option (ν × List (Token ν))}
    (h : Chains operator? operand left ts result) (h' : Chains operator? operand left ts result') :
    result = result' := by
  induction h with
  | done hop =>
    cases h' with
    | done => rfl
    | stuck hop' => rw [hop _ rfl] at hop'; cases hop'
    | next hop' => rw [hop _ rfl] at hop'; cases hop'
  | stuck hop hoperand =>
    cases h' with
    | done hop' => rw [hop' _ rfl] at hop; cases hop
    | stuck => rfl
    | next _ hoperand' => rw [hoperand] at hoperand'; cases hoperand'
  | next hop hoperand _ ih =>
    cases h' with
    | done hop' => rw [hop' _ rfl] at hop; cases hop
    | stuck _ hoperand' => rw [hoperand] at hoperand'; cases hoperand'
    | next hop' hoperand' hchains =>
      rw [hop] at hop'
      rw [hoperand] at hoperand'
      cases hop'
      cases hoperand'
      exact ih hchains

/-! ## Readers -/

/-- The tokens do not go on with a phrase. -/
def Stops (more : Token ν → Prop) (ts : List (Token ν)) : Prop := ∀ t ∈ ts.head?, ¬more t

/-- A reader takes the phrases of a kind off the start of the tokens, each up to where no token
goes on with it, and no two phrases have the same tokens. -/
structure Reads (r : Reader ν) (m : Meaning ν α) (more : Token ν → Prop) : Prop where
  complete : ∀ x rest, Stops more rest → r (m.tokens x ++ rest) = some (m.value x, rest)
  sound : ∀ ts v rest, r ts = some (v, rest) →
    ∃ x, ts = m.tokens x ++ rest ∧ m.value x = v ∧ Stops more rest
  unique : ∀ x y rest rest', m.tokens x ++ rest = m.tokens y ++ rest' → Stops more rest →
    Stops more rest' → x = y ∧ rest = rest'

/-- A look-up of operators finds these ones. -/
structure Operators.FoundBy (o : Operators ν ω) (operator? : Token ν → Option (ν → ν → ν)) :
    Prop where
  finds : ∀ op, operator? (o.token op) = some (o.apply op)
  found : ∀ t f, operator? t = some f → ∃ op, t = o.token op ∧ f = o.apply op
  inj : ∀ op op', o.token op = o.token op' → op = op'

variable {m : Meaning ν α} {o : Operators ν ω} {more : Token ν → Prop} {rest : List (ω × α)}
  {r : Reader ν}

theorem Meaning.links_cons (m : Meaning ν α) (o : Operators ν ω) (op : ω) (x : α)
    (rest : List (ω × α)) :
    m.links o ((op, x) :: rest) = o.token op :: (m.tokens x ++ m.links o rest) := rfl

theorem Reads.length_le (h : Reads r m more) {v : ν} {after : List (Token ν)}
    (hr : r ts = some (v, after)) : after.length ≤ ts.length := by
  obtain ⟨x, rfl, -⟩ := h.sound _ _ _ hr
  rw [List.length_append]
  omega

theorem Reads.chains_chainFrom (h : Reads operand m more) :
    Chains operator? operand left ts (chainFrom operator? operand ts.length left ts) :=
  Calculator.chains_chainFrom (fun _ _ _ => h.length_le) (Nat.le_refl ts.length)

/-- What goes on with a chain. -/
def orOperator (more : Token ν → Prop) (operator? : Token ν → Option (ν → ν → ν)) (t : Token ν) :
    Prop :=
  more t ∨ (operator? t).isSome

theorem Stops.of_orOperator (h : Stops (orOperator more operator?) ts) : Stops more ts :=
  fun t ht hmore => h t ht (.inl hmore)

theorem Stops.operator?_eq_none (h : Stops (orOperator more operator?) ts) :
    ∀ t ∈ ts.head?, operator? t = none := fun t ht =>
  Option.not_isSome_iff_eq_none.mp fun hsome => h t ht (.inr hsome)

/-- Operators do not go on with an operand. -/
theorem Stops.links_append (hmore : ∀ op, ¬more (o.token op))
    (h : Stops (orOperator more operator?) ts) (rest : List (ω × α)) :
    Stops more (m.links o rest ++ ts) := by
  cases rest with
  | nil => exact h.of_orOperator
  | cons p rest =>
    intro t ht
    cases ht
    exact hmore p.1

theorem Chains.of_links (hoperand : Reads operand m more) (ho : o.FoundBy operator?)
    (hmore : ∀ op, ¬more (o.token op)) (h : Stops (orOperator more operator?) ts)
    (rest : List (ω × α)) (left : ν) :
    Chains operator? operand left (m.links o rest ++ ts) (some (m.follow o rest left, ts)) := by
  induction rest generalizing left with
  | nil => exact .done h.operator?_eq_none
  | cons p rest ih =>
    obtain ⟨op, x⟩ := p
    rw [Meaning.links_cons, List.cons_append, List.append_assoc]
    exact .next (ho.finds op) (hoperand.complete x _ (h.links_append hmore rest)) (ih _)

theorem Chains.exists_links (hoperand : Reads operand m more) (ho : o.FoundBy operator?)
    {result : Option (ν × List (Token ν))} (h : Chains operator? operand left ts result)
    (hts : Stops more ts) {v : ν} {after : List (Token ν)} (hresult : result = some (v, after)) :
    ∃ rest, ts = m.links o rest ++ after ∧ m.follow o rest left = v ∧
      Stops (orOperator more operator?) after := by
  induction h with
  | done hop =>
    cases hresult
    refine ⟨[], rfl, rfl, fun t ht hgoes => ?_⟩
    rcases hgoes with hgoes | hgoes
    · exact hts t ht hgoes
    · rw [hop t ht] at hgoes
      cases hgoes
  | stuck => cases hresult
  | next hop hread _ ih =>
    obtain ⟨op, rfl, rfl⟩ := ho.found _ _ hop
    obtain ⟨x, rfl, rfl, hstops⟩ := hoperand.sound _ _ _ hread
    obtain ⟨rest, rfl, hv, hafter⟩ := ih hstops hresult
    exact ⟨(op, x) :: rest, by rw [Meaning.links_cons, List.cons_append, List.append_assoc], hv,
      hafter⟩

theorem links_unique (hoperand : Reads operand m more) (ho : o.FoundBy operator?)
    (hmore : ∀ op, ¬more (o.token op)) {rest rest' : List (ω × α)} {after after' : List (Token ν)}
    (h : m.links o rest ++ after = m.links o rest' ++ after')
    (hafter : Stops (orOperator more operator?) after)
    (hafter' : Stops (orOperator more operator?) after') : rest = rest' ∧ after = after' := by
  -- an operator would have been taken
  have hno : ∀ op ts, ¬Stops (orOperator more operator?) (o.token op :: ts) := by
    intro op ts hstops
    have hnone := hstops.operator?_eq_none _ rfl
    rw [ho.finds] at hnone
    cases hnone
  induction rest generalizing rest' with
  | nil =>
    cases rest' with
    | nil => exact ⟨rfl, h⟩
    | cons p rest' =>
      cases h
      exact absurd hafter (hno _ _)
  | cons p rest ih =>
    obtain ⟨op, x⟩ := p
    cases rest' with
    | nil =>
      cases h
      exact absurd hafter' (hno _ _)
    | cons p' rest' =>
      obtain ⟨op', x'⟩ := p'
      rw [Meaning.links_cons, Meaning.links_cons, List.cons_append, List.cons_append,
        List.append_assoc, List.append_assoc] at h
      obtain ⟨hop, htail⟩ := List.cons.inj h
      obtain ⟨rfl, hlinks⟩ := hoperand.unique _ _ _ _ htail (hafter.links_append hmore rest)
        (hafter'.links_append hmore rest')
      cases ho.inj _ _ hop
      obtain ⟨rfl, rfl⟩ := ih hlinks
      exact ⟨rfl, rfl⟩

theorem Reads.chain (hoperand : Reads operand m more) (ho : o.FoundBy operator?)
    (hmore : ∀ op, ¬more (o.token op)) :
    Reads (chain operator? operand) (m.chain o) (orOperator more operator?) where
  complete x rest hrest := by
    rw [Meaning.chain, List.append_assoc, Calculator.chain,
      hoperand.complete x.first _ (hrest.links_append hmore x.rest)]
    exact hoperand.chains_chainFrom.unique (.of_links hoperand ho hmore hrest x.rest _)
  sound ts v rest hr := by
    rw [Calculator.chain] at hr
    split at hr
    · cases hr
    · rename_i first after hfirst
      obtain ⟨x, rfl, rfl, hstops⟩ := hoperand.sound _ _ _ hfirst
      obtain ⟨links, rfl, hv, hrest⟩ :=
        hoperand.chains_chainFrom.exists_links hoperand ho hstops hr
      exact ⟨⟨x, links⟩, (List.append_assoc ..).symm, hv, hrest⟩
  unique x y rest rest' h hrest hrest' := by
    obtain ⟨first, links⟩ := x
    obtain ⟨first', links'⟩ := y
    simp only [Meaning.chain, List.append_assoc] at h
    obtain ⟨rfl, hlinks⟩ := hoperand.unique _ _ _ _ h (hrest.links_append hmore links)
      (hrest'.links_append hmore links')
    obtain ⟨rfl, rfl⟩ := links_unique hoperand ho hmore hlinks hrest hrest'
    exact ⟨rfl, rfl⟩

/-- No phrase of the kind starts with a sign. -/
def Meaning.Unsigned (m : Meaning ν α) : Prop :=
  ∀ x, ∃ t ts, m.tokens x = t :: ts ∧ ∀ sign : AddOp, t ≠ sign.token

theorem unary_of_ne {t : Token ν} (h : ∀ sign : AddOp, t ≠ sign.token) :
    unary a operand (t :: ts) = operand (t :: ts) := by
  have hplus := h .plus
  have hminus := h .minus
  cases t <;> first | rfl | contradiction

theorem unary_token (sign : AddOp) (ts : List (Token ν)) :
    unary a operand (sign.token :: ts) =
      (unary a operand ts).map fun (v, rest) => (sign.sign a v, rest) := by
  cases sign with
  | plus => exact (Option.map_id' ..).symm
  | minus => rfl

theorem Meaning.Unsigned.unary_tokens (hm : m.Unsigned) (x : α) :
    unary a operand (m.tokens x ++ ts) = operand (m.tokens x ++ ts) := by
  obtain ⟨t, tail, htokens, hne⟩ := hm x
  rw [htokens]
  exact unary_of_ne hne

theorem Meaning.Unsigned.signs_unique (hm : m.Unsigned) {signs signs' : List AddOp} {x y : α}
    {after after' : List (Token ν)}
    (h : signs.map AddOp.token ++ (m.tokens x ++ after) =
      signs'.map AddOp.token ++ (m.tokens y ++ after')) :
    signs = signs' ∧ m.tokens x ++ after = m.tokens y ++ after' := by
  induction signs generalizing signs' with
  | nil =>
    cases signs' with
    | nil => exact ⟨rfl, h⟩
    | cons sign signs' =>
      obtain ⟨t, tail, htokens, hne⟩ := hm x
      rw [htokens] at h
      exact absurd (List.cons.inj h).1 (hne sign)
  | cons sign signs ih =>
    cases signs' with
    | nil =>
      obtain ⟨t, tail, htokens, hne⟩ := hm y
      rw [htokens] at h
      exact absurd (List.cons.inj h).1.symm (hne sign)
    | cons sign' signs' =>
      obtain ⟨hsign, htail⟩ := List.cons.inj h
      obtain ⟨rfl, htokens⟩ := ih htail
      cases sign <;> cases sign' <;> first | exact ⟨rfl, htokens⟩ | cases hsign

theorem Reads.unary (hoperand : Reads operand m more) (hm : m.Unsigned) (a : Arithmetic ν) :
    Reads (unary a operand) (m.signed a) more where
  complete x rest hrest := by
    obtain ⟨signs, x⟩ := x
    rw [Meaning.signed, List.append_assoc]
    dsimp only
    induction signs with
    | nil => exact hm.unary_tokens x |>.trans (hoperand.complete x rest hrest)
    | cons sign signs ih => rw [List.map_cons, List.cons_append, unary_token, ih]; rfl
  sound ts v rest hr := by
    -- where no sign comes first, the operand is read as it is
    have hplain : ∀ {ts v}, operand ts = some (v, rest) →
        ∃ x, ts = (m.signed a).tokens x ++ rest ∧ (m.signed a).value x = v ∧ Stops more rest := by
      intro ts v hread
      obtain ⟨x, rfl, rfl, hrest⟩ := hoperand.sound _ _ _ hread
      exact ⟨⟨[], x⟩, rfl, rfl, hrest⟩
    induction ts generalizing v with
    | nil => exact hplain hr
    | cons t ts ih =>
      by_cases hsign : ∃ sign : AddOp, t = sign.token
      · obtain ⟨sign, rfl⟩ := hsign
        rw [unary_token] at hr
        obtain ⟨⟨v', after⟩, hread, hv⟩ := Option.map_eq_some_iff.mp hr
        cases hv
        obtain ⟨⟨signs, x⟩, rfl, rfl, hrest⟩ := ih v' hread
        exact ⟨⟨sign :: signs, x⟩, rfl, rfl, hrest⟩
      · rw [unary_of_ne fun sign he => hsign ⟨sign, he⟩] at hr
        exact hplain hr
  unique x y rest rest' h hrest hrest' := by
    obtain ⟨signs, x⟩ := x
    obtain ⟨signs', y⟩ := y
    rw [Meaning.signed, List.append_assoc, List.append_assoc] at h
    obtain ⟨rfl, htokens⟩ := hm.signs_unique h
    obtain ⟨rfl, rfl⟩ := hoperand.unique _ _ _ _ htokens hrest hrest'
    exact ⟨rfl, rfl⟩

theorem Reads.primary (hinner : Reads r m more) (hmore : ¬more .closing) :
    Reads (primary r) m.primary fun _ => False where
  complete x rest hrest := by
    cases x with
    | number n => rfl
    | parens inner =>
      have hstops : Stops more (.closing :: rest) := fun t ht => by cases ht; exact hmore
      have hread := hinner.complete inner _ hstops
      simp only [Meaning.primary, List.cons_append, List.append_assoc, List.nil_append,
        Calculator.primary, hread]
  sound ts v rest hr := by
    unfold Calculator.primary at hr
    split at hr
    · cases hr
      exact ⟨.number v, rfl, rfl, fun t _ => id⟩
    · split at hr
      · rename_i hread
        cases hr
        obtain ⟨x, rfl, rfl, -⟩ := hinner.sound _ _ _ hread
        exact ⟨.parens x, by simp [Meaning.primary], rfl, fun t _ => id⟩
      · cases hr
    · cases hr
  unique x y rest rest' h hrest hrest' := by
    have hstops : ∀ ts, Stops more (.closing :: ts) := fun ts t ht => by cases ht; exact hmore
    cases x with
    | number n =>
      cases y with
      | number n' => cases h; exact ⟨rfl, rfl⟩
      | parens inner => cases h
    | parens inner =>
      cases y with
      | number n' => cases h
      | parens inner' =>
        simp only [Meaning.primary, List.cons_append, List.append_assoc, List.nil_append] at h
        obtain ⟨rfl, hrest⟩ := hinner.unique _ _ _ _ (List.cons.inj h).2 (hstops _) (hstops _)
        cases hrest
        exact ⟨rfl, rfl⟩

theorem Meaning.unsigned_primary (m : Meaning ν α) : m.primary.Unsigned := fun x => by
  cases x with
  | number n => exact ⟨_, _, rfl, fun sign h => by cases sign <;> cases h⟩
  | parens inner => exact ⟨_, _, rfl, fun sign h => by cases sign <;> cases h⟩

/-! ## Sums -/

theorem additive_foundBy (a : Arithmetic ν) : (additive a).FoundBy (sumOperator? a) where
  finds op := by cases op <;> rfl
  found t f h := by
    cases t with
    | plus => cases h; exact ⟨.plus, rfl, rfl⟩
    | minus => cases h; exact ⟨.minus, rfl, rfl⟩
    | _ => cases h
  inj op op' h := by cases op <;> cases op' <;> first | rfl | cases h

theorem multiplicative_foundBy (a : Arithmetic ν) :
    (multiplicative a).FoundBy (productOperator? a) where
  finds op := by cases op <;> rfl
  found t f h := by
    cases t with
    | times => cases h; exact ⟨.times, rfl, rfl⟩
    | «over» => cases h; exact ⟨.over, rfl, rfl⟩
    | _ => cases h
  inj op op' h := by cases op <;> cases op' <;> first | rfl | cases h

/-- What goes on with a product. -/
def afterProduct (a : Arithmetic ν) : Token ν → Prop :=
  orOperator (fun _ => False) (productOperator? a)

/-- What goes on with a sum. -/
def afterSum (a : Arithmetic ν) : Token ν → Prop := orOperator (afterProduct a) (sumOperator? a)

theorem Reads.product (hinner : Reads r m more) (hmore : ¬more .closing) (a : Arithmetic ν) :
    Reads (Calculator.chain (productOperator? a) (Calculator.unary a (Calculator.primary r)))
      (m.product a) (afterProduct a) :=
  ((hinner.primary hmore).unary m.unsigned_primary a).chain (multiplicative_foundBy a) fun _ => id

theorem Reads.sum (hinner : Reads r m more) (hmore : ¬more .closing) (a : Arithmetic ν) :
    Reads (Calculator.sum a r) (m.sum a) (afterSum a) := by
  refine (hinner.product hmore a).chain (additive_foundBy a) fun op h => ?_
  cases op <;> simp [additive, AddOp.token, afterProduct, orOperator, productOperator?] at h

theorem reads_none : Reads (fun _ => none) (⟨Empty.elim, Empty.elim⟩ : Meaning ν Empty)
    fun _ => False where
  complete x := x.elim
  sound _ _ _ h := nomatch h
  unique x := x.elim

theorem not_afterSum_closing (a : Arithmetic ν) : ¬afterSum a .closing := by
  simp [afterSum, afterProduct, orOperator, productOperator?, sumOperator?]

theorem reads_sumTo (a : Arithmetic ν) (levels : Nat) :
    Reads (sumTo a levels) (.sumTo a levels) (afterSum a) := by
  induction levels with
  | zero => exact reads_none.sum id a
  | succ levels ih => exact ih.sum (not_afterSum_closing a) a

/-! ## Expressions -/

/-- The reader of what stands in parentheses, where they may be nested `levels` deep. -/
def innerTo (a : Arithmetic ν) : Nat → Reader ν
  | 0 => fun _ => none
  | levels + 1 => sumTo a levels

/-- Both loops over operators end by themselves, whatever tokens they are given. -/
def LoopsEnd (a : Arithmetic ν) (inner : Reader ν) : Prop :=
  ∀ left ts,
    Chains (sumOperator? a) (chain (productOperator? a) (unary a (primary inner))) left ts
      (chainFrom (sumOperator? a) (chain (productOperator? a) (unary a (primary inner))) ts.length
        left ts) ∧
    Chains (productOperator? a) (unary a (primary inner)) left ts
      (chainFrom (productOperator? a) (unary a (primary inner)) ts.length left ts)

theorem Reads.loopsEnd (h : Reads r m more) (hmore : ¬more .closing) (a : Arithmetic ν) :
    LoopsEnd a r := fun _ _ =>
  ⟨(h.product hmore a).chains_chainFrom,
    ((h.primary hmore).unary m.unsigned_primary a).chains_chainFrom⟩

theorem loopsEnd_innerTo (a : Arithmetic ν) (levels : Nat) : LoopsEnd a (innerTo a levels) := by
  cases levels with
  | zero => exact reads_none.loopsEnd id a
  | succ levels => exact (reads_sumTo a levels).loopsEnd (not_afterSum_closing a) a

/-- The text is the expression, with blanks left free. -/
def Derives (a : Arithmetic ν) (text : List Char) (e : SumTo ν maxDepth) : Prop :=
  Spells a text ((Meaning.sumTo a maxDepth).tokens e)

/-- What has a value is an expression with this value, finite, and no text is two expressions. The
evaluation of every text comes to an end. -/
theorem evaluate?_grammar (a : Arithmetic ν) (text : List Char) :
    (∀ v, evaluate? a text = some v ↔
      ∃ e, Derives a text e ∧ (Meaning.sumTo a maxDepth).value e = v ∧ a.isFinite v = true) ∧
    (∀ e e', Derives a text e → Derives a text e' → e = e') ∧
    ∀ levels, LoopsEnd a (innerTo a levels) := by
  have hreads := reads_sumTo a maxDepth
  have hnil : Stops (afterSum a) [] := fun t ht => nomatch ht
  refine ⟨fun v => ⟨fun h => ?_, ?_⟩, fun e e' h h' => ?_, loopsEnd_innerTo a⟩
  · rw [evaluate?] at h
    split at h
    · rename_i v' hv
      obtain ⟨ts, hts, hread⟩ := Option.bind_eq_some_iff.mp hv
      obtain ⟨e, rfl, rfl, -⟩ := hreads.sound _ _ _ hread
      split at h
      · rename_i hfinite
        cases h
        rw [List.append_nil] at hts
        exact ⟨e, tokens?_eq_some_iff.mp hts, rfl, hfinite⟩
      · cases h
    · cases h
  · rintro ⟨e, hspells, rfl, hfinite⟩
    have hread := hreads.complete e [] hnil
    rw [List.append_nil] at hread
    rw [evaluate?, tokens?_eq_some_iff.mpr hspells, Option.bind_some, hread]
    exact if_pos hfinite
  · have htokens := (tokens?_eq_some_iff.mpr h).symm.trans (tokens?_eq_some_iff.mpr h')
    refine (hreads.unique e e' [] [] ?_ hnil hnil).1
    rw [Option.some.inj htokens]

end DevConsole.Calculator
