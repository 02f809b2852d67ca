import DevConsole.Regex.Capture

/-!
# Matches of sets in a row

A set that is repeated without a limit takes any part of the run of its members that lies ahead
(`mem_ways_many`, `mem_ways_some`). Where all matches of an expression have the same groups, the
order in which they are preferred does not matter: the first has the groups that any of them has
(`map_head?_eq_some_iff`). An expression that is bound to the start of the text matches there or
nowhere (`captures?_textStart`).
-/

namespace DevConsole

namespace Unicode

theorem toNat_le (c : Char) : c.toNat ≤ 0x10FFFF := by
  have h := c.valid
  rw [UInt32.isValidChar, Nat.isValidChar] at h
  have hval : c.toNat = c.val.toNat := rfl
  omega

/-- Where the ranges stand apart from each other in ascending order, a code point is in the set if
it is in one of them. -/
theorem Ranges.contains_eq_any {ranges : Ranges} {n : Nat} (hle : ∀ p ∈ ranges, p.1 ≤ p.2)
    (hapart : ranges.Pairwise fun p q => p.2 < q.1) :
    ranges.contains n = ranges.any fun p => decide (p.1 ≤ n) && decide (n ≤ p.2) := by
  induction ranges with
  | nil => rfl
  | cons p rest ih =>
    obtain ⟨hlt, hrest⟩ := List.pairwise_cons.mp hapart
    have ih := ih (fun q hq => hle q (List.mem_cons_of_mem p hq)) hrest
    have hp := hle p List.mem_cons_self
    rw [List.any_cons, ← ih, contains]
    by_cases hbefore : n < p.1
    · have hno : contains rest n = false := by
        rw [ih, List.any_eq_false]
        intro q hq
        have hq := hlt q hq
        simp only [Bool.and_eq_true, decide_eq_true_eq]
        omega
      simp [hbefore, hno, Nat.not_le.mpr hbefore]
    · by_cases hin : n ≤ p.2 <;> simp [hbefore, hin, Nat.not_lt.mp hbefore]

end Unicode

namespace Regex

variable {c d : Cursor} {unicode : Bool} {members : Unicode.Ranges} {taken rest : List Char}

namespace Cursor

/-- The place behind some characters, with `rest` ahead. -/
def past (c : Cursor) (taken rest : List Char) : Cursor :=
  { c with before := taken.getLast?.or c.before, rest }

theorem past_nil (h : c.rest = rest) : c.past [] rest = c := by
  subst h
  rfl

theorem past_past (c : Cursor) (x : Char) (xs taken rest : List Char) :
    (c.past [x] xs).past taken rest = c.past (x :: taken) rest := by
  cases taken <;> simp [past, List.getLast?_cons]

/-- A group takes what lies between its ends. -/
theorem close_past (h : c.rest = taken ++ rest) (number : Nat) :
    c.close number (c.past taken rest) =
      { c.past taken rest with groups := (number, taken) :: c.groups } := by
  simp [close, past, h]

theorem take?_eq_some_iff {test : Char → Bool} :
    c.take? test = some d ↔ ∃ x xs, c.rest = x :: xs ∧ test x = true ∧ d = c.past [x] xs := by
  unfold take?
  cases hrest : c.rest with
  | nil => simp
  | cons x xs =>
    simp only [past, List.getLast?_singleton, Option.some_or, List.cons.injEq]
    cases ht : test x with
    | true =>
      rw [if_pos rfl, Option.some.injEq]
      constructor
      · rintro rfl
        exact ⟨x, xs, ⟨rfl, rfl⟩, ht, rfl⟩
      · rintro ⟨_, _, ⟨rfl, rfl⟩, -, rfl⟩
        rfl
    | false =>
      refine iff_of_false nofun ?_
      rintro ⟨_, _, ⟨rfl, -⟩, hx, -⟩
      rw [ht] at hx
      cases hx

end Cursor

theorem mem_ways_seq {a b : Regex} : d ∈ (Regex.seq a b).ways c ↔ ∃ e ∈ a.ways c, d ∈ b.ways e :=
  List.mem_flatMap

theorem mem_ways_group {number : Nat} {r : Regex} :
    d ∈ (Regex.group number r).ways c ↔ ∃ e ∈ r.ways c, c.close number e = d :=
  List.mem_map

/-! ## Single characters -/

theorem mem_ways_literal {x : Char} :
    d ∈ (Regex.literal [x]).ways c ↔ ∃ xs, c.rest = x :: xs ∧ d = c.past [x] xs := by
  simp only [ways, Cursor.takeAll?, Option.bind_fun_some, Option.mem_toList,
    Cursor.take?_eq_some_iff, beq_iff_eq]
  constructor
  · rintro ⟨y, xs, hrest, rfl, rfl⟩
    exact ⟨xs, hrest, rfl⟩
  · rintro ⟨xs, hrest, rfl⟩
    exact ⟨x, xs, hrest, rfl, rfl⟩

theorem mem_ways_set :
    d ∈ (Regex.set unicode members).ways c ↔
      ∃ x xs, c.rest = x :: xs ∧ members.contains x.toNat = true ∧ d = c.past [x] xs := by
  simp only [ways, Option.mem_toList, Cursor.take?_eq_some_iff]

theorem mem_ways_anchor {a : Anchor} :
    d ∈ (Regex.anchor a).ways c ↔ a.holds c.place = true ∧ d = c := by
  cases h : a.holds c.place <;> simp [ways, h]

/-! ## Repeated sets -/

theorem ways_repeated (least : Nat) (r : Regex) (c : Cursor) :
    (Regex.repeated least none true r).ways c =
      (inRow r.ways least c).flatMap fun d => upTo r.ways true d.rest.length d := rfl

/-- The induction is on the bound, which is at least the length of what lies ahead. -/
theorem mem_upTo_set {most : Nat} (hmost : c.rest.length ≤ most) :
    d ∈ upTo (Regex.set unicode members).ways true most c ↔
      ∃ taken rest, c.rest = taken ++ rest ∧
        (∀ x ∈ taken, members.contains x.toNat = true) ∧ d = c.past taken rest := by
  induction most generalizing c with
  | zero =>
    have hrest : c.rest = [] := List.eq_nil_of_length_eq_zero (Nat.le_zero.mp hmost)
    simp only [upTo, List.mem_singleton, hrest, List.nil_eq_append_iff]
    constructor
    · rintro rfl
      exact ⟨[], [], ⟨rfl, rfl⟩, by simp, (Cursor.past_nil hrest).symm⟩
    · rintro ⟨_, _, ⟨rfl, rfl⟩, -, rfl⟩
      exact Cursor.past_nil hrest
  | succ most ih =>
    simp only [upTo, if_true, List.mem_append, List.mem_flatMap, mem_ways_set, List.mem_singleton]
    constructor
    · rintro (⟨_, ⟨x, xs, hrest, hx, rfl⟩, hd⟩ | rfl)
      · have hless : (c.past [x] xs).rest.length < c.rest.length := by simp [Cursor.past, hrest]
        rw [if_pos hless, ih (Nat.le_of_lt_succ (Nat.lt_of_lt_of_le hless hmost))] at hd
        obtain ⟨taken, rest, hxs, htaken, rfl⟩ := hd
        have hxs : xs = taken ++ rest := hxs
        refine ⟨x :: taken, rest, by rw [hrest, hxs]; rfl, ?_, c.past_past x xs taken rest⟩
        exact List.forall_mem_cons.mpr ⟨hx, htaken⟩
      · exact ⟨[], d.rest, rfl, by simp, (Cursor.past_nil rfl).symm⟩
    · rintro ⟨taken, rest, hrest, htaken, rfl⟩
      cases taken with
      | nil => exact .inr (Cursor.past_nil hrest)
      | cons x taken =>
        obtain ⟨hx, htaken⟩ := List.forall_mem_cons.mp htaken
        have hless : (c.past [x] (taken ++ rest)).rest.length < c.rest.length := by
          simp [Cursor.past, hrest]
        refine .inl ⟨_, ⟨x, taken ++ rest, hrest, hx, rfl⟩, ?_⟩
        rw [if_pos hless, ih (Nat.le_of_lt_succ (Nat.lt_of_lt_of_le hless hmost))]
        exact ⟨taken, rest, rfl, htaken, (c.past_past x _ taken rest).symm⟩

/-- A set any number of times. -/
theorem mem_ways_many :
    d ∈ (Regex.repeated 0 none true (.set unicode members)).ways c ↔
      ∃ taken rest, c.rest = taken ++ rest ∧
        (∀ x ∈ taken, members.contains x.toNat = true) ∧ d = c.past taken rest := by
  rw [ways_repeated, inRow, List.flatMap_singleton]
  exact mem_upTo_set (Nat.le_refl _)

/-- A set at least once. -/
theorem mem_ways_some :
    d ∈ (Regex.repeated 1 none true (.set unicode members)).ways c ↔
      ∃ taken rest, c.rest = taken ++ rest ∧ taken ≠ [] ∧
        (∀ x ∈ taken, members.contains x.toNat = true) ∧ d = c.past taken rest := by
  have hrow : inRow (Regex.set unicode members).ways 1 c =
      (Regex.set unicode members).ways c := List.flatMap_singleton' _
  simp only [ways_repeated, hrow, List.mem_flatMap, mem_ways_set, mem_upTo_set (Nat.le_refl _)]
  constructor
  · rintro ⟨_, ⟨x, xs, hrest, hx, rfl⟩, taken, rest, hxs, htaken, rfl⟩
    have hxs : xs = taken ++ rest := hxs
    exact ⟨x :: taken, rest, by rw [hrest, hxs]; rfl, List.cons_ne_nil x taken,
      List.forall_mem_cons.mpr ⟨hx, htaken⟩, c.past_past x xs taken rest⟩
  · rintro ⟨taken, rest, hrest, hne, htaken, rfl⟩
    cases taken with
    | nil => exact absurd rfl hne
    | cons x taken =>
      obtain ⟨hx, htaken⟩ := List.forall_mem_cons.mp htaken
      exact ⟨_, ⟨x, taken ++ rest, hrest, hx, rfl⟩, taken, rest, rfl, htaken,
        (c.past_past x _ taken rest).symm⟩

/-! ## Groups -/

theorem firstFrom_textStart {r : Regex} {x : Char} {cs : List Char} :
    (Regex.seq (.anchor .textStart) r).firstFrom (some x) cs = none := by
  have hways : ∀ x cs, (Regex.seq (.anchor .textStart) r).ways ⟨some x, cs, []⟩ = [] :=
    fun _ _ => rfl
  induction cs generalizing x with
  | nil => rw [firstFrom, hways]; rfl
  | cons c cs ih => simp only [firstFrom, hways, List.head?_nil, ih]

/-- An expression that is bound to the start of the text matches there or nowhere. -/
theorem captures?_textStart (r : Regex) (text : String) :
    (Regex.seq (.anchor .textStart) r).captures? text =
      (r.ways ⟨none, text.toList, []⟩).head?.map (·.groups) := by
  have hways : ∀ cs, (Regex.seq (.anchor .textStart) r).ways ⟨none, cs, []⟩ =
      r.ways ⟨none, cs, []⟩ := fun cs => List.flatMap_singleton ..
  rw [captures?]
  cases text.toList with
  | nil => rw [firstFrom, hways]
  | cons c cs =>
    simp only [firstFrom, hways, firstFrom_textStart]
    cases (r.ways ⟨none, c :: cs, []⟩).head? <;> rfl

/-- Of a list whose members are alike in some respect, the first has what any has. -/
theorem map_head?_eq_some_iff {α β : Type} {f : α → β} {l : List α} {b : β}
    (h : ∀ x ∈ l, ∀ y ∈ l, f x = f y) : l.head?.map f = some b ↔ ∃ x ∈ l, f x = b := by
  cases l with
  | nil => simp
  | cons x l =>
    simp only [List.head?_cons, Option.map_some, Option.some.injEq]
    exact ⟨fun hx => ⟨x, List.mem_cons_self, hx⟩,
      fun ⟨y, hy, hb⟩ => (h x List.mem_cons_self y hy).trans hb⟩

end Regex

end DevConsole
