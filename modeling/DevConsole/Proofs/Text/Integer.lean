import DevConsole.Text.Blank
import DevConsole.Text.Integer

/-!
# Reading back written numbers

The decimal digits of a natural number are read as its value (`natural64?_toString`), and those of
an integer with its sign (`integer64?_toString`). There is nothing around the digits to trim
(`trim_toString`). So an amount that is stored as a text comes back.
-/

namespace DevConsole.Text

theorem isDigit_of_isDigit {c : Char} (h : c.isDigit = true) : isDigit c = true := by
  simp only [Char.isDigit, Bool.and_eq_true, decide_eq_true_eq] at h
  simp only [isDigit, Bool.and_eq_true, decide_eq_true_eq]
  exact h

theorem isDigit_of_mem_toDigits {n : Nat} {c : Char} (h : c ∈ Nat.toDigits 10 n) :
    isDigit c = true :=
  isDigit_of_isDigit (Nat.isDigit_of_mem_toDigits (by decide) (by decide) h)

theorem ne_of_isDigit {c d : Char} (hc : isDigit c = true) (hd : isDigit d = false) : c ≠ d := by
  rintro rfl
  rw [hc] at hd
  cases hd

theorem isBlank_of_isDigit {c : Char} (h : isDigit c = true) : isBlank c = false := by
  simp only [isDigit, Bool.and_eq_true, decide_eq_true_eq] at h
  have hlow : 48 ≤ c.toNat := h.1
  have hhigh : c.toNat ≤ 57 := h.2
  simp only [isBlank, Bool.or_eq_false_iff, Bool.and_eq_false_iff, decide_eq_false_iff_not,
    beq_eq_false_iff_ne]
  omega

theorem valueOfDigits?_of_isDigit {cs : List Char} (h : ∀ c ∈ cs, isDigit c = true) (start : Nat) :
    valueOfDigits? 10 digit? start cs = some (Nat.ofDigitChars 10 cs start) := by
  induction cs generalizing start with
  | nil => rfl
  | cons c cs ih =>
    have hc : digit? c = some (c.toNat - '0'.toNat) := if_pos (h c List.mem_cons_self)
    have hcs := ih (fun d hd => h d (List.mem_cons_of_mem _ hd))
    rw [valueOfDigits?, hc, Nat.ofDigitChars_cons]
    simp only [hcs, Nat.mul_comm]

theorem toList_toString (n : Nat) : (toString n).toList = Nat.toDigits 10 n := by
  rw [Nat.toString_eq_repr, Nat.toList_repr]

theorem isDigit_of_mem_toString {n : Nat} {c : Char} (h : c ∈ (toString n).toList) :
    isDigit c = true := by
  rw [toList_toString] at h
  exact isDigit_of_mem_toDigits h

theorem digitsValue?_toString (n : Nat) : digitsValue? 10 digit? (toString n).toList = some n := by
  have hempty : ¬(toString n).toList.isEmpty = true := by simp [Nat.toDigits_ne_nil]
  rw [digitsValue?, if_neg hempty, valueOfDigits?_of_isDigit fun c => isDigit_of_mem_toString,
    toList_toString, Nat.ofDigitChars_ten_toDigits]

theorem readNatural?_toString {n limit : Nat} (h : n ≤ limit) :
    readNatural? 10 digit? limit (toString n).toList = some n := by
  unfold readNatural?
  split
  · rename_i rest hplus
    exact absurd (isDigit_of_mem_toString (hplus ▸ List.mem_cons_self)) (by decide)
  · dsimp only
    rw [digitsValue?_toString, Option.filter_some, if_pos (decide_eq_true h)]

/-- A number of 64 bits is read back from its digits. -/
theorem natural64?_toString {n : Nat} (h : n ≤ maxNatural64) :
    natural64? (toString n) = some n := readNatural?_toString h

/-- An integer of 64 bits is read back from its sign and its digits. -/
theorem integer64?_toString {n : Int} (hleast : -(maxInteger64 + 1 : Nat) ≤ n)
    (hgreatest : n ≤ maxInteger64) : integer64? (toString n) = some n := by
  cases n with
  | ofNat k =>
    have hsame : toString (Int.ofNat k) = toString k := rfl
    rw [hsame]
    unfold integer64?
    split
    · rename_i rest hminus
      exact absurd (isDigit_of_mem_toString (hminus ▸ List.mem_cons_self)) (by decide)
    · rw [readNatural?_toString (Int.ofNat_le.mp hgreatest)]
      rfl
  | negSucc k =>
    have hchars : (toString (Int.negSucc k)).toList = '-' :: (toString (k + 1)).toList :=
      String.toList_append
    have hle : k + 1 ≤ maxInteger64 + 1 := by omega
    simp only [integer64?, hchars, digitsValue?_toString, Option.bind_some, if_pos hle]
    rfl

theorem trim_of_forall {s : String} (h : ∀ c ∈ s.toList, isBlank c = false) : trim s = s := by
  have hdrop : ∀ cs : List Char, (∀ c ∈ cs, isBlank c = false) → cs.dropWhile isBlank = cs := by
    intro cs hcs
    cases cs with
    | nil => rfl
    | cons c cs => rw [List.dropWhile_cons_of_neg (by simp [hcs c List.mem_cons_self])]
  have hreverse : ∀ c ∈ s.toList.reverse, isBlank c = false := fun c hc =>
    h c (List.mem_reverse.mp hc)
  rw [trim, trimChars, trimStartChars, hdrop _ h, trimEndChars, hdrop _ hreverse,
    List.reverse_reverse, String.ofList_toList]

theorem trim_toString (n : Nat) : trim (toString n) = toString n :=
  trim_of_forall fun _ hc => isBlank_of_isDigit (isDigit_of_mem_toString hc)

end DevConsole.Text
