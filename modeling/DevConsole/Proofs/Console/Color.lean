import DevConsole.Console.Display
import DevConsole.Proofs.Text.Octets

/-!
# Colors in hexadecimal

A text is `Written` for a color if three pairs of characters stand behind a hash sign, one for each
channel. A pair is `Readable` if it is two hexadecimal digits or a plus sign and one digit, and the
texts written with such pairs are just those that `ofHex?` finds a color in
(`ofHex?_eq_some_iff`). Length and places are counted in octets; what takes two octets and is read
has two characters (`readable_of_readNatural?`), so no text with other characters in it is read. The
colors written with digits alone are all that is found exactly as long as no plus sign is read
(`ofHex?_exact_iff`).
-/

namespace DevConsole

namespace Text

variable {c : Char} {n : Nat}

/-! ## Hexadecimal digits -/

/-- The character is the hexadecimal digit of this value, in either case. -/
def IsHexDigit (c : Char) (n : Nat) : Prop :=
  "0123456789abcdef".toList[n]? = some c ∨ "0123456789ABCDEF".toList[n]? = some c

instance (c : Char) (n : Nat) : Decidable (IsHexDigit c n) := inferInstanceAs (Decidable (_ ∨ _))

theorem IsHexDigit.lt (h : IsHexDigit c n) : n < 16 := by
  rcases h with h | h <;> exact (List.getElem?_eq_some_iff.mp h).1

theorem toNat_lt_of_hexDigit? (h : hexDigit? c = some n) : c.toNat < 103 := by
  unfold hexDigit? at h
  split at h
  · rename_i hrange
    exact Nat.lt_of_le_of_lt hrange.2 (by decide)
  · split at h
    · rename_i hrange
      exact Nat.lt_of_le_of_lt hrange.2 (by decide)
    · split at h
      · rename_i hrange
        exact Nat.lt_of_le_of_lt hrange.2 (by decide)
      · cases h

theorem isHexDigit_of_hexDigit? (h : hexDigit? c = some n) : IsHexDigit c n := by
  have hall : ∀ k < 103, ∀ n ∈ hexDigit? (Char.ofNat k), IsHexDigit (Char.ofNat k) n := by
    decide +kernel
  have hc := hall c.toNat (toNat_lt_of_hexDigit? h) n
  rw [Char.ofNat_toNat] at hc
  exact hc h

theorem hexDigit?_eq_some_iff : hexDigit? c = some n ↔ IsHexDigit c n := by
  refine ⟨isHexDigit_of_hexDigit?, fun h => ?_⟩
  have hall : ∀ n < 16, "0123456789abcdef".toList[n]?.bind hexDigit? = some n ∧
      "0123456789ABCDEF".toList[n]?.bind hexDigit? = some n := by decide +kernel
  have hn := hall n h.lt
  rcases h with hlow | hhigh
  · rw [hlow, Option.bind_some] at hn
    exact hn.1
  · rw [hhigh, Option.bind_some] at hn
    exact hn.2

theorem IsHexDigit.utf8Size_eq (h : IsHexDigit c n) : c.utf8Size = 1 := by
  have hlt := toNat_lt_of_hexDigit? (hexDigit?_eq_some_iff.mpr h)
  rw [Char.utf8Size_eq_one_iff]
  exact Nat.le_of_lt (Nat.lt_trans hlt (by decide))

theorem not_isHexDigit_plus (n : Nat) : ¬IsHexDigit '+' n := fun h => by
  have hnone : hexDigit? '+' = none := by decide
  rw [hexDigit?_eq_some_iff.mpr h] at hnone
  cases hnone

/-- A plus sign is passed over, and the digits behind it are read. -/
theorem readNatural?_cons_eq_some_iff {base limit : Nat} {digit? : Char → Option Nat}
    {cs : List Char} :
    readNatural? base digit? limit (c :: cs) = some n ↔
      digitsValue? base digit? (if c = '+' then cs else c :: cs) = some n ∧ n ≤ limit := by
  have hdigits : readNatural? base digit? limit (c :: cs) =
      (digitsValue? base digit? (if c = '+' then cs else c :: cs)).filter (· ≤ limit) := by
    unfold readNatural?
    split
    · rename_i hplus
      obtain ⟨rfl, rfl⟩ := List.cons.inj hplus
      rfl
    · rename_i hother
      have hplus : c ≠ '+' := fun he => hother cs (by rw [he])
      rw [if_neg hplus]
  rw [hdigits, Option.filter_eq_some_iff, decide_eq_true_iff]

theorem digitsValue?_one (c : Char) : digitsValue? 16 hexDigit? [c] = hexDigit? c := by
  simp only [digitsValue?, List.isEmpty_cons, Bool.false_eq_true, if_false, valueOfDigits?]
  cases hexDigit? c with
  | none => rfl
  | some d => simp

theorem digitsValue?_two_eq_some_iff {a b : Char} :
    digitsValue? 16 hexDigit? [a, b] = some n ↔
      ∃ x y, IsHexDigit a x ∧ IsHexDigit b y ∧ n = 16 * x + y := by
  simp only [digitsValue?, List.isEmpty_cons, Bool.false_eq_true, if_false, valueOfDigits?,
    ← hexDigit?_eq_some_iff]
  cases hexDigit? a with
  | none => simp
  | some x =>
    cases hexDigit? b with
    | none => simp
    | some y => simp [Nat.mul_comm, eq_comm]

end Text

namespace Color

open Text

variable {text : String} {color : Color} {pair digits : List Char} {v start : Nat}

/-- Two hexadecimal digits and the number that they write. -/
def Digits (pair : List Char) (v : Nat) : Prop :=
  ∃ a b x y, pair = [a, b] ∧ IsHexDigit a x ∧ IsHexDigit b y ∧ v = 16 * x + y

/-- A plus sign and a hexadecimal digit. -/
def Signed (pair : List Char) (v : Nat) : Prop := ∃ b, pair = ['+', b] ∧ IsHexDigit b v

/-- What is read as a channel. -/
def Readable (pair : List Char) (v : Nat) : Prop := Digits pair v ∨ Signed pair v

/-- Behind a hash sign stand three pairs of characters, one for each channel. -/
def Written (channel : List Char → Nat → Prop) (text : String) (color : Color) : Prop :=
  ∃ r g b, text.toList = '#' :: (r ++ (g ++ b)) ∧ channel r color.red ∧ channel g color.green ∧
    channel b color.blue

/-- The text is read, and it has a plus sign in it. -/
def HasSign (text : String) : Prop := '+' ∈ text.toList ∧ ∃ color, Written Readable text color

theorem Readable.octets_eq (h : Readable pair v) : octets pair = 2 := by
  rcases h with ⟨a, b, x, y, rfl, ha, hb, -⟩ | ⟨b, rfl, hb⟩
  · rw [octets_cons, octets_cons, octets_nil, ha.utf8Size_eq, hb.utf8Size_eq]
  · rw [octets_cons, octets_cons, octets_nil, hb.utf8Size_eq]
    rfl

theorem Readable.le (h : Readable pair v) : v ≤ 255 := by
  rcases h with ⟨a, b, x, y, -, ha, hb, rfl⟩ | ⟨b, -, hb⟩
  · have := ha.lt
    have := hb.lt
    omega
  · have := hb.lt
    omega

theorem Readable.readNatural? (h : Readable pair v) :
    readNatural? 16 hexDigit? 255 pair = some v := by
  have hle := h.le
  rcases h with ⟨a, b, x, y, rfl, ha, hb, hv⟩ | ⟨b, rfl, hb⟩
  · have hplus : a ≠ '+' := fun he => not_isHexDigit_plus x (he ▸ ha)
    rw [readNatural?_cons_eq_some_iff, if_neg hplus, digitsValue?_two_eq_some_iff]
    exact ⟨⟨x, y, ha, hb, hv⟩, hle⟩
  · rw [readNatural?_cons_eq_some_iff, if_pos rfl, digitsValue?_one, hexDigit?_eq_some_iff]
    exact ⟨hb, hle⟩

/-- What takes two octets is one character of two octets or two characters. -/
theorem cases_of_octets_eq_two (h : octets pair = 2) :
    (∃ c, pair = [c] ∧ c.utf8Size = 2) ∨ ∃ a b, pair = [a, b] := by
  have hlength := length_le_octets pair
  rw [h] at hlength
  match pair with
  | [] => cases h
  | [c] => exact .inl ⟨c, rfl, by rwa [octets_cons, octets_nil, Nat.add_zero] at h⟩
  | [a, b] => exact .inr ⟨a, b, rfl⟩
  | _ :: _ :: _ :: _ => simp at hlength

/-- Of what takes two octets, only two characters are read: one character of two octets is neither a
digit nor a sign. -/
theorem readable_of_readNatural? (h : octets pair = 2)
    (hread : Text.readNatural? 16 hexDigit? 255 pair = some v) : Readable pair v := by
  rcases cases_of_octets_eq_two h with ⟨c, rfl, hc⟩ | ⟨a, b, rfl⟩
  · have hplus : c ≠ '+' := fun he => absurd (he ▸ hc) (by decide)
    rw [readNatural?_cons_eq_some_iff, if_neg hplus, digitsValue?_one,
      hexDigit?_eq_some_iff] at hread
    rw [hread.1.utf8Size_eq] at hc
    cases hc
  · rw [readNatural?_cons_eq_some_iff] at hread
    by_cases hplus : a = '+'
    · subst hplus
      rw [if_pos rfl, digitsValue?_one, hexDigit?_eq_some_iff] at hread
      exact .inr ⟨b, rfl, hread.1⟩
    · rw [if_neg hplus, digitsValue?_two_eq_some_iff] at hread
      obtain ⟨⟨x, y, ha, hb, hv⟩, -⟩ := hread
      exact .inl ⟨a, b, x, y, rfl, ha, hb, hv⟩

theorem channel?_eq_some_iff :
    channel? digits start = some v ↔
      ∃ before pair rest, digits = before ++ (pair ++ rest) ∧ octets before = start ∧
        Readable pair v := by
  rw [channel?, Option.bind_eq_some_iff]
  constructor
  · rintro ⟨pair, hpair, hread⟩
    obtain ⟨before, rest, hdigits, hstart, htwo⟩ := octetsAt?_eq_some_iff.mp hpair
    exact ⟨before, pair, rest, hdigits, hstart, readable_of_readNatural? htwo hread⟩
  · rintro ⟨before, pair, rest, hdigits, hstart, hpair⟩
    exact ⟨pair, octetsAt?_eq_some_iff.mpr ⟨before, rest, hdigits, hstart, hpair.octets_eq⟩,
      hpair.readNatural?⟩

/-! ## Colors -/

theorem ofHex?_eq_some_iff_channels :
    ofHex? text = some color ↔ ∃ digits, text.toList = '#' :: digits ∧ octets digits = 6 ∧
      channel? digits 0 = some color.red ∧ channel? digits 2 = some color.green ∧
        channel? digits 4 = some color.blue := by
  obtain ⟨red, green, blue⟩ := color
  unfold ofHex?
  split
  · rename_i digits htext
    simp only [htext, List.cons.injEq, true_and, exists_eq_left', Option.ite_none_right_eq_some,
      Option.bind_eq_some_iff, Option.map_eq_some_iff, Color.mk.injEq]
    constructor
    · rintro ⟨hsix, _, hred, _, hgreen, _, hblue, rfl, rfl, rfl⟩
      exact ⟨hsix, hred, hgreen, hblue⟩
    · rintro ⟨hsix, hred, hgreen, hblue⟩
      exact ⟨hsix, _, hred, _, hgreen, _, hblue, rfl, rfl, rfl⟩
  · rename_i hother
    exact iff_of_false nofun fun ⟨digits, htext, _⟩ => hother digits htext

theorem channels_iff {red green blue : Nat} :
    (octets digits = 6 ∧ channel? digits 0 = some red ∧ channel? digits 2 = some green ∧
        channel? digits 4 = some blue) ↔
      ∃ r g b, digits = r ++ (g ++ b) ∧ Readable r red ∧ Readable g green ∧ Readable b blue := by
  simp only [channel?_eq_some_iff]
  constructor
  · rintro ⟨hsix, ⟨beforeRed, r, afterRed, rfl, hzero, hr⟩,
      ⟨beforeGreen, g, afterGreen, hgreen, htwo, hg⟩, beforeBlue, b, afterBlue, hblue, hfour, hb⟩
    obtain rfl := octets_eq_zero_iff.mp hzero
    rw [List.nil_append] at hsix hgreen hblue
    -- the places in octets are the places behind the pairs
    obtain ⟨rfl, rfl⟩ := append_inj_of_octets hgreen (hr.octets_eq.trans htwo.symm)
    have hrg : octets (r ++ g) = 4 := by rw [octets_append, hr.octets_eq, hg.octets_eq]
    rw [← List.append_assoc] at hblue
    obtain ⟨rfl, rfl⟩ := append_inj_of_octets hblue (hrg.trans hfour.symm)
    have hrest : octets afterBlue = 0 := by
      simp only [octets_append, hr.octets_eq, hg.octets_eq, hb.octets_eq] at hsix
      omega
    obtain rfl := octets_eq_zero_iff.mp hrest
    exact ⟨r, g, b, by rw [List.nil_append, List.append_nil], hr, hg, hb⟩
  · rintro ⟨r, g, b, rfl, hr, hg, hb⟩
    refine ⟨?_, ⟨[], r, g ++ b, rfl, rfl, hr⟩, ⟨r, g, b, rfl, hr.octets_eq, hg⟩, r ++ g, b, [],
      by simp, ?_, hb⟩
    · rw [octets_append, octets_append, hr.octets_eq, hg.octets_eq, hb.octets_eq]
    · rw [octets_append, hr.octets_eq, hg.octets_eq]

/-- A color is read exactly where one is written, with digits or with signs. -/
theorem ofHex?_eq_some_iff : ofHex? text = some color ↔ Written Readable text color := by
  rw [ofHex?_eq_some_iff_channels]
  constructor
  · rintro ⟨digits, htext, hchannels⟩
    obtain ⟨r, g, b, rfl, hr, hg, hb⟩ := channels_iff.mp hchannels
    exact ⟨r, g, b, htext, hr, hg, hb⟩
  · rintro ⟨r, g, b, htext, hr, hg, hb⟩
    exact ⟨_, htext, channels_iff.mpr ⟨r, g, b, rfl, hr, hg, hb⟩⟩

theorem Digits.not_mem_plus (h : Digits pair v) : '+' ∉ pair := by
  obtain ⟨a, b, x, y, rfl, ha, hb, -⟩ := h
  simp only [List.mem_cons, List.not_mem_nil, or_false, not_or]
  exact ⟨fun he => not_isHexDigit_plus x (he ▸ ha), fun he => not_isHexDigit_plus y (he ▸ hb)⟩

theorem Written.of_digits (h : Written Digits text color) : Written Readable text color := by
  obtain ⟨r, g, b, htext, hr, hg, hb⟩ := h
  exact ⟨r, g, b, htext, .inl hr, .inl hg, .inl hb⟩

theorem Written.not_mem_plus (h : Written Digits text color) : '+' ∉ text.toList := by
  obtain ⟨r, g, b, htext, hr, hg, hb⟩ := h
  rw [htext, List.mem_cons, List.mem_append, List.mem_append]
  rintro (hhash | hmem | hmem | hmem)
  · exact absurd hhash (by decide)
  · exact hr.not_mem_plus hmem
  · exact hg.not_mem_plus hmem
  · exact hb.not_mem_plus hmem

/-- Where there is no plus sign, digits are all that is read. -/
theorem Readable.toDigits (h : Readable pair v) (hplus : '+' ∉ pair) : Digits pair v := by
  rcases h with h | ⟨b, rfl, -⟩
  · exact h
  · exact absurd List.mem_cons_self hplus

theorem Written.toDigits (h : Written Readable text color) (hplus : '+' ∉ text.toList) :
    Written Digits text color := by
  obtain ⟨r, g, b, htext, hr, hg, hb⟩ := h
  rw [htext, List.mem_cons, List.mem_append, List.mem_append] at hplus
  simp only [not_or] at hplus
  exact ⟨r, g, b, htext, hr.toDigits hplus.2.1, hg.toDigits hplus.2.2.1, hb.toDigits hplus.2.2.2⟩

/-- A color is read exactly where a hash sign and three pairs stand for one. That the pairs are two
digits each holds of a text exactly if it is not one that is read with a sign in it. -/
theorem ofHex?_exact_iff (text : String) :
    (∀ color, ofHex? text = some color ↔ Written Readable text color) ∧
      ((∀ color, ofHex? text = some color ↔ Written Digits text color) ↔ ¬HasSign text) := by
  refine ⟨fun color => ofHex?_eq_some_iff, fun hexact => ?_, fun hsign color => ?_⟩
  · rintro ⟨hplus, color, hwritten⟩
    exact ((hexact color).mp (ofHex?_eq_some_iff.mpr hwritten)).not_mem_plus hplus
  · rw [ofHex?_eq_some_iff]
    refine ⟨fun hwritten => hwritten.toDigits fun hplus => hsign ⟨hplus, color, hwritten⟩,
      Written.of_digits⟩

/-- A text of three signs with a digit each is read as a color. -/
theorem not_exact_signs :
    ofHex? "#+1+2+3" = some ⟨1, 2, 3⟩ ∧ ¬∃ color, Written Digits "#+1+2+3" color := by
  refine ⟨by decide +kernel, fun ⟨color, hwritten⟩ => hwritten.not_mem_plus ?_⟩
  decide

end Color
end DevConsole
