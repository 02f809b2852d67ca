import DevConsole.Proofs.Text.Blank
import DevConsole.Text.Base64
import Mathlib.Data.List.Basic
import Mathlib.Data.Nat.Bitwise

/-!
# What Base64 reads and writes

Octets and the symbols that stand for them are compared bit by bit: `bits` writes a number out in
binary digits, and `Carries` says that the octets are the complete ones in the bits of a run of
symbols. `Spells` adds the padding, and tells all texts that can be read: reading gives a text
exactly where the symbols spell its octets (`decode?_spells_iff`). What is written spells the octets
of the text, with spaces between the symbols or without, and with or without the padding
(`decode?_encode_spaced`).
-/

namespace DevConsole.Base64

variable {symbols body cs ds : List Char} {os os' : List UInt8} {vs : List Nat}

/-! ## Binary digits -/

/-- The last `width` binary digits of a number, the highest one first. -/
def bits : Nat → Nat → List Bool
  | 0, _ => []
  | width + 1, n => n.testBit width :: bits width n

@[simp] theorem length_bits (width n : Nat) : (bits width n).length = width := by
  induction width with
  | zero => rfl
  | succ width ih => rw [bits, List.length_cons, ih]

theorem bits_inj {width n m : Nat} :
    bits width n = bits width m ↔ ∀ i < width, n.testBit i = m.testBit i := by
  induction width with
  | zero => simp [bits]
  | succ width ih => rw [bits, bits, List.cons.injEq, ih, Nat.forall_lt_succ_right, and_comm]

theorem bits_add (k width n : Nat) :
    bits (k + width) n = bits k (n >>> width) ++ bits width n := by
  induction k with
  | zero => rw [Nat.zero_add, bits, List.nil_append]
  | succ k ih =>
    rw [Nat.succ_add, bits, ih, bits, Nat.testBit_shiftRight, Nat.add_comm width, List.cons_append]

/-- The bits of two numbers, one after the other, are those of one number. -/
theorem bits_append (k width a : Nat) {b : Nat} (hb : b < 2 ^ width) :
    bits k a ++ bits width b = bits (k + width) (a * 2 ^ width + b) := by
  have hhigh : (a * 2 ^ width + b) >>> width = a := by
    rw [Nat.shiftRight_eq_div_pow, Nat.mul_comm, Nat.mul_add_div (Nat.two_pow_pos width),
      Nat.div_eq_of_lt hb, Nat.add_zero]
  have hlow : bits width (a * 2 ^ width + b) = bits width b := bits_inj.mpr fun i hi => by
    rw [Nat.mul_comm, Nat.testBit_two_pow_mul_add a hb, if_pos hi]
  rw [bits_add, hhigh, hlow]

/-- The bits of an octet. -/
def octetBits (o : UInt8) : List Bool := bits 8 o.toNat

theorem octetBits_ofNat (n : Nat) : octetBits (UInt8.ofNat n) = bits 8 n :=
  bits_inj.mpr fun i hi => by
    rw [UInt8.toNat_ofNat', Nat.testBit_mod_two_pow, decide_eq_true hi, Bool.true_and]

theorem octetBits_inj {a b : UInt8} (h : octetBits a = octetBits b) : a = b := by
  refine UInt8.toNat_inj.mp (Nat.eq_of_testBit_eq fun i => ?_)
  by_cases hi : i < 8
  · exact bits_inj.mp h i hi
  · have hpow : 2 ^ 8 ≤ 2 ^ i := Nat.pow_le_pow_right (by decide) (by omega)
    rw [Nat.testBit_lt_two_pow (Nat.lt_of_lt_of_le a.toNat_lt hpow),
      Nat.testBit_lt_two_pow (Nat.lt_of_lt_of_le b.toNat_lt hpow)]

/-- Octets are told by their bits. -/
theorem eq_of_flatMap_octetBits (hlength : os.length = os'.length)
    (h : os.flatMap octetBits = os'.flatMap octetBits) : os = os' := by
  induction os generalizing os' with
  | nil => exact (List.length_eq_zero_iff.mp hlength.symm).symm
  | cons a os ih =>
    obtain _ | ⟨b, os'⟩ := os'
    · cases hlength
    · rw [List.flatMap_cons, List.flatMap_cons] at h
      obtain ⟨hab, hrest⟩ := List.append_inj h (by simp [octetBits])
      rw [octetBits_inj hab, ih (Nat.succ.inj hlength) hrest]

/-! ## Octets in groups of six bits -/

/-- The bits of a group of six. -/
def groupBits (v : Nat) : List Bool := bits 6 v

theorem groupBits_pair (a : Nat) {b : Nat} (hb : b < 64) :
    groupBits a ++ groupBits b = bits 12 (a * 64 + b) := bits_append 6 6 a hb

theorem groupBits_triple (a : Nat) {b c : Nat} (hb : b < 64) (hc : c < 64) :
    groupBits a ++ (groupBits b ++ groupBits c) = bits 18 ((a * 64 + b) * 64 + c) := by
  rw [← List.append_assoc, groupBits_pair a hb]
  exact bits_append 12 6 _ hc

theorem groupBits_four (a : Nat) {b c d : Nat} (hb : b < 64) (hc : c < 64) (hd : d < 64) :
    groupBits a ++ (groupBits b ++ (groupBits c ++ groupBits d)) =
      bits 24 (((a * 64 + b) * 64 + c) * 64 + d) := by
  rw [← List.append_assoc (groupBits b), ← List.append_assoc, groupBits_triple a hb hc]
  exact bits_append 18 6 _ hd

theorem octetBits_pair (n : Nat) :
    octetBits (UInt8.ofNat (n / 0x100)) ++ octetBits (UInt8.ofNat n) = bits 16 n := by
  rw [octetBits_ofNat, octetBits_ofNat, bits_add 8 8, Nat.shiftRight_eq_div_pow]

theorem octetBits_triple (n : Nat) :
    octetBits (UInt8.ofNat (n / 0x10000)) ++
      (octetBits (UInt8.ofNat (n / 0x100)) ++ octetBits (UInt8.ofNat n)) = bits 24 n := by
  rw [octetBits_pair, octetBits_ofNat, bits_add 8 16, Nat.shiftRight_eq_div_pow]

/-- The octets are the complete ones in the bits of groups of six; what is left of the bits makes up
no octet. -/
structure Fills (os : List UInt8) (vs : List Nat) : Prop where
  length : os.length = 6 * vs.length / 8
  begins : os.flatMap octetBits <+: vs.flatMap groupBits

theorem Fills.unique (h : Fills os vs) (h' : Fills os' vs) : os = os' := by
  have hlength := h.length.trans h'.length.symm
  have hbits : (os.flatMap octetBits).length = (os'.flatMap octetBits).length := by
    simp [octetBits, hlength, List.length_flatMap]
  exact eq_of_flatMap_octetBits hlength
    ((List.prefix_of_prefix_length_le h.begins h'.begins (Nat.le_of_eq hbits)).eq_of_length hbits)

/-- Three octets in four groups, and more behind them. -/
theorem Fills.cons {a b c : UInt8} {w x y z : Nat} (h : Fills os vs)
    (hbits : octetBits a ++ (octetBits b ++ octetBits c) =
      groupBits w ++ (groupBits x ++ (groupBits y ++ groupBits z))) :
    Fills (a :: b :: c :: os) (w :: x :: y :: z :: vs) where
  length := by
    simp only [List.length_cons, h.length]
    omega
  begins := by
    obtain ⟨more, hmore⟩ := h.begins
    refine ⟨more, ?_⟩
    have hfirst := congrArg (· ++ vs.flatMap groupBits) hbits
    simpa only [List.flatMap_cons, ← hmore, List.append_assoc] using hfirst

theorem fills_two {o : UInt8} {a b : Nat} (hbits : octetBits o <+: groupBits a ++ groupBits b) :
    Fills [o] [a, b] := ⟨by simp, by simpa using hbits⟩

theorem fills_three {o p : UInt8} {a b c : Nat}
    (hbits : octetBits o ++ octetBits p <+: groupBits a ++ (groupBits b ++ groupBits c)) :
    Fills [o, p] [a, b, c] := ⟨by simp, by simpa using hbits⟩

/-- The octets that are read are the complete ones. -/
theorem fills_octets (hvs : ∀ v ∈ vs, v < 64) : Fills (octets vs) vs := by
  fun_induction octets vs with
  | case1 a b c d rest n ih =>
    refine (ih fun v hv => hvs v (by simp [hv])).cons ?_
    rw [octetBits_triple, groupBits_four a (hvs b (by simp)) (hvs c (by simp)) (hvs d (by simp))]
  | case2 a b c n =>
    have hall : bits 18 ((a * 64 + b) * 64 + c) = bits 16 n ++ bits 2 ((a * 64 + b) * 64 + c) := by
      rw [bits_add 16 2, Nat.shiftRight_eq_div_pow]
    refine fills_three ⟨bits 2 ((a * 64 + b) * 64 + c), ?_⟩
    rw [octetBits_pair, groupBits_triple a (hvs b (by simp)) (hvs c (by simp)), hall]
  | case3 a b =>
    have hall : bits 12 (a * 64 + b) = bits 8 ((a * 64 + b) / 16) ++ bits 4 (a * 64 + b) := by
      rw [bits_add 8 4, Nat.shiftRight_eq_div_pow]
    refine fills_two ⟨bits 4 (a * 64 + b), ?_⟩
    rw [octetBits_ofNat, groupBits_pair a (hvs b (by simp)), hall]
  | case4 vs h4 h3 h2 =>
    -- one group alone is too short
    refine ⟨?_, List.nil_prefix⟩
    match vs with
    | [] => rfl
    | [_] => simp
    | [a, b] => exact absurd rfl (h2 a b)
    | [a, b, c] => exact absurd rfl (h3 a b c)
    | a :: b :: c :: d :: rest => exact absurd rfl (h4 a b c d rest)

/-! ## Symbols -/

theorem length_alphabet : alphabet.length = 64 := by decide +kernel

theorem nodup_alphabet : alphabet.Nodup := by decide +kernel

theorem padding_not_mem : '=' ∉ alphabet := by decide +kernel

theorem value?_of_mem {c : Char} (h : c ∈ alphabet) : value? c = some (alphabet.idxOf c) := by
  obtain ⟨i, hi⟩ := Option.isSome_iff_exists.mp (List.isSome_idxOf?.mpr h)
  rw [List.idxOf_eq_getD_idxOf?, value?, hi, Option.getD_some]

theorem symbol_mem {n : Nat} (h : n < 64) : symbol n ∈ alphabet := by
  rw [symbol, List.getD_eq_getElem _ _ (by rwa [length_alphabet])]
  exact List.getElem_mem _

theorem idxOf_symbol {n : Nat} (h : n < 64) : alphabet.idxOf (symbol n) = n := by
  have hn : n < alphabet.length := by rwa [length_alphabet]
  rw [symbol, List.getD_eq_getElem _ _ hn, nodup_alphabet.idxOf_getElem]

/-- Symbols are read as their places, where all of them are symbols. -/
theorem mapM_value?_eq_some_iff :
    body.mapM value? = some vs ↔ (∀ c ∈ body, c ∈ alphabet) ∧ vs = body.map alphabet.idxOf := by
  induction body generalizing vs with
  | nil => simp [eq_comm]
  | cons c body ih =>
    by_cases hc : c ∈ alphabet
    · simp [List.mapM_cons, value?_of_mem hc, ih, hc, Option.bind_eq_some_iff, eq_comm (b := vs)]
    · have hnone : value? c = none := List.idxOf?_eq_none_iff.mpr hc
      simp [List.mapM_cons, hnone, hc]

/-! ## Padding -/

/-- Symbols with padding behind them. Where there is padding it fills the last group, and no group
ends after its first symbol. -/
structure Padded (symbols body : List Char) (padding : Nat) : Prop where
  eq_append : symbols = body ++ List.replicate padding '='
  of_alphabet : ∀ c ∈ body, c ∈ alphabet
  le_two : padding ≤ 2
  ends : body.length % 4 ≠ 1
  full : 0 < padding → symbols.length % 4 = 0

theorem ne_padding (h : ∀ c ∈ body, c ∈ alphabet) : ∀ c ∈ body, (c != '=') = true := fun c hc =>
  bne_iff_ne.mpr fun he => padding_not_mem (he ▸ h c hc)

theorem padding_of_head? {padding : Nat} :
    ∀ c ∈ (List.replicate padding '=').head?, (c != '=') = false := by
  cases padding <;> simp [List.replicate_succ]

/-- The body is what stands before the padding. -/
theorem body?_of_padded {padding : Nat} (h : Padded symbols body padding) :
    body? symbols = some body := by
  have hbody := ne_padding h.of_alphabet
  have hfull : padding = 0 ∨ symbols.length % 4 = 0 := by
    by_cases hpos : 0 < padding
    · exact .inr (h.full hpos)
    · exact .inl (by omega)
  rw [h.eq_append] at hfull ⊢
  simp only [body?, Text.takeWhile_run hbody padding_of_head?,
    Text.dropWhile_run hbody padding_of_head?]
  refine if_pos ⟨by simp, by simpa using h.le_two, h.ends, by simpa using hfull⟩

theorem padded_of_body? (h : body? symbols = some body) (hbody : ∀ c ∈ body, c ∈ alphabet) :
    ∃ padding, Padded symbols body padding := by
  simp only [body?, Option.ite_none_right_eq_some, Option.some.injEq] at h
  obtain ⟨⟨hall, hle, hends, hfull⟩, rfl⟩ := h
  have hpadding : symbols.dropWhile (· != '=') =
      List.replicate (symbols.dropWhile (· != '=')).length '=' :=
    List.eq_replicate_of_mem fun c hc => by simpa using List.all_eq_true.mp hall c hc
  refine ⟨(symbols.dropWhile (· != '=')).length, ?_, hbody, hle, hends, fun hpos => ?_⟩
  · rw [← hpadding, List.takeWhile_append_dropWhile]
  · refine hfull.resolve_left fun hempty => ?_
    rw [List.isEmpty_iff.mp hempty] at hpos
    cases hpos

/-- The symbols stand for the octets: these are the complete octets in the bits of the body. -/
def Spells (symbols : List Char) (os : List UInt8) : Prop :=
  ∃ body padding, Padded symbols body padding ∧ Fills os (body.map alphabet.idxOf)

/-! ## Reading -/

theorem toList_loop (b : ByteArray) (i : Nat) (r : List UInt8) :
    ByteArray.toList.loop b i r = r.reverse ++ b.data.toList.drop i := by
  fun_induction ByteArray.toList.loop b i r with
  | case1 i r h ih =>
    have hi : i < b.data.toList.length := by simpa using h
    rw [ih, List.drop_eq_getElem_cons hi]
    simp [ByteArray.get!, h]
  | case2 i r h =>
    rw [List.drop_eq_nil_of_le (by simpa using Nat.le_of_not_lt h)]
    simp

theorem toList_eq_data (b : ByteArray) : b.toList = b.data.toList := by
  simp [ByteArray.toList, toList_loop]

/-- A text is read from the octets of its UTF-8 form. -/
theorem textOf?_eq_some_iff {t : String} : textOf? os = some t ↔ t.toUTF8.toList = os := by
  rw [textOf?, String.fromUTF8?, toList_eq_data]
  constructor
  · intro h
    split at h <;> cases h
    rfl
  · rintro rfl
    exact dif_pos t.isValidUTF8

theorem exists_textOf?_iff :
    (∃ t, textOf? os = some t) ↔ (ByteArray.mk os.toArray).IsValidUTF8 := by
  rw [← Option.isSome_iff_exists, textOf?, String.fromUTF8?]
  split <;> simpa

theorem idxOf_lt (hbody : ∀ c ∈ body, c ∈ alphabet) :
    ∀ v ∈ body.map alphabet.idxOf, v < 64 := by
  intro v hv
  obtain ⟨c, hc, rfl⟩ := List.mem_map.mp hv
  exact length_alphabet ▸ List.idxOf_lt_length_of_mem (hbody c hc)

/-- The symbols of a text: all but the spaces. -/
def unspaced (s : String) : List Char := s.toList.filter (!isSpace ·)

/-- What is read is the text of the octets that the symbols spell. -/
theorem decode?_eq_some_iff_exists {s t : String} :
    decode? s = some t ↔ ∃ os, Spells (unspaced s) os ∧ textOf? os = some t := by
  simp only [decode?, Option.bind_eq_some_iff, mapM_value?_eq_some_iff]
  constructor
  · rintro ⟨body, hbody, values, ⟨hmem, rfl⟩, ht⟩
    obtain ⟨padding, hpadded⟩ := padded_of_body? hbody hmem
    exact ⟨_, ⟨body, padding, hpadded, fills_octets (idxOf_lt hmem)⟩, ht⟩
  · rintro ⟨os, ⟨body, padding, hpadded, hfills⟩, ht⟩
    have hos := (fills_octets (idxOf_lt hpadded.of_alphabet)).unique hfills
    exact ⟨body, body?_of_padded hpadded, _, ⟨hpadded.of_alphabet, rfl⟩, hos ▸ ht⟩

theorem decode?_of_spells {s t : String} (h : Spells (unspaced s) t.toUTF8.toList) :
    decode? s = some t :=
  decode?_eq_some_iff_exists.mpr ⟨_, h, textOf?_eq_some_iff.mpr rfl⟩

/-- A text can be read exactly if its symbols spell octets that are the UTF-8 form of some text, and
this text is what is read. -/
theorem decode?_spells_iff (s : String) :
    ((decode? s).isSome ↔
        ∃ os, Spells (unspaced s) os ∧ (ByteArray.mk os.toArray).IsValidUTF8) ∧
      ∀ t, decode? s = some t ↔ Spells (unspaced s) t.toUTF8.toList := by
  constructor
  · simp only [Option.isSome_iff_exists, decode?_eq_some_iff_exists, ← exists_textOf?_iff]
    exact ⟨fun ⟨t, os, h, ht⟩ => ⟨os, h, t, ht⟩, fun ⟨os, h, t, ht⟩ => ⟨t, os, h, ht⟩⟩
  · intro t
    refine ⟨fun h => ?_, decode?_of_spells⟩
    obtain ⟨os, hos, ht⟩ := decode?_eq_some_iff_exists.mp h
    rwa [textOf?_eq_some_iff.mp ht]

/-! ## Writing -/

theorem octetBits_append (a b : UInt8) :
    octetBits a ++ octetBits b = bits 16 (a.toNat * 0x100 + b.toNat) := bits_append 8 8 _ b.toNat_lt

theorem octetBits_append_two (a b c : UInt8) :
    octetBits a ++ (octetBits b ++ octetBits c) =
      bits 24 ((a.toNat * 0x100 + b.toNat) * 0x100 + c.toNat) := by
  rw [← List.append_assoc, octetBits_append]
  exact bits_append 16 8 _ c.toNat_lt

theorem length_encodeOctets (os : List UInt8) :
    (encodeOctets os).length = 4 * ((os.length + 2) / 3) := by
  fun_induction encodeOctets os with
  | case1 => simp
  | case2 => simp
  | case3 => simp
  | case4 a b c rest n ih =>
    simp only [List.length_cons, ih]
    omega

theorem spells_two {o : UInt8} {a b : Nat} (ha : a < 64) (hb : b < 64)
    (hbits : octetBits o <+: groupBits a ++ groupBits b) :
    Spells [symbol a, symbol b, '=', '='] [o] := by
  refine ⟨[symbol a, symbol b], 2,
    ⟨rfl, by simp [symbol_mem ha, symbol_mem hb], by simp, by simp, by simp⟩, ?_⟩
  simpa only [List.map_cons, List.map_nil, idxOf_symbol ha, idxOf_symbol hb] using fills_two hbits

theorem spells_three {o p : UInt8} {a b c : Nat} (ha : a < 64) (hb : b < 64) (hc : c < 64)
    (hbits : octetBits o ++ octetBits p <+: groupBits a ++ (groupBits b ++ groupBits c)) :
    Spells [symbol a, symbol b, symbol c, '='] [o, p] := by
  refine ⟨[symbol a, symbol b, symbol c], 1,
    ⟨rfl, by simp [symbol_mem ha, symbol_mem hb, symbol_mem hc], by simp, by simp, by simp⟩, ?_⟩
  simpa only [List.map_cons, List.map_nil, idxOf_symbol ha, idxOf_symbol hb, idxOf_symbol hc]
    using fills_three hbits

/-- A full group of symbols before others. -/
theorem Spells.cons {o p q : UInt8} {a b c d : Nat} (h : Spells symbols os) (ha : a < 64)
    (hb : b < 64) (hc : c < 64) (hd : d < 64)
    (hbits : octetBits o ++ (octetBits p ++ octetBits q) =
      groupBits a ++ (groupBits b ++ (groupBits c ++ groupBits d))) :
    Spells (symbol a :: symbol b :: symbol c :: symbol d :: symbols) (o :: p :: q :: os) := by
  obtain ⟨body, padding, hpadded, hfills⟩ := h
  refine ⟨symbol a :: symbol b :: symbol c :: symbol d :: body, padding, ⟨?_, ?_, ?_, ?_, ?_⟩, ?_⟩
  · rw [hpadded.eq_append]
    rfl
  · simpa [symbol_mem ha, symbol_mem hb, symbol_mem hc, symbol_mem hd] using hpadded.of_alphabet
  · exact hpadded.le_two
  · have hends := hpadded.ends
    simp only [List.length_cons]
    omega
  · intro hpos
    have hfull := hpadded.full hpos
    simp only [List.length_cons]
    omega
  · simpa only [List.map_cons, idxOf_symbol ha, idxOf_symbol hb, idxOf_symbol hc, idxOf_symbol hd]
      using hfills.cons hbits

/-- What is written spells the octets. -/
theorem spells_encodeOctets (os : List UInt8) : Spells (encodeOctets os) os := by
  fun_induction encodeOctets os with
  | case1 => exact ⟨[], 0, ⟨rfl, by simp, by simp, by simp, by simp⟩, ⟨rfl, List.prefix_rfl⟩⟩
  | case2 a n =>
    have ha := a.toNat_lt
    refine spells_two (by omega) (by omega) ⟨bits 4 n, ?_⟩
    have hoctet : n >>> 4 = a.toNat := by simp [Nat.shiftRight_eq_div_pow, n]
    rw [groupBits_pair _ (by omega), Nat.div_add_mod', bits_add 8 4, hoctet, octetBits]
  | case3 a b n =>
    have ha := a.toNat_lt
    have hb := b.toNat_lt
    refine spells_three (by omega) (by omega) (by omega) ⟨bits 2 n, ?_⟩
    have hoctets : n >>> 2 = a.toNat * 0x100 + b.toNat := by simp [Nat.shiftRight_eq_div_pow, n]
    have hgroups : (n / 0x1000 * 64 + n / 64 % 64) * 64 + n % 64 = n := by omega
    rw [groupBits_triple _ (by omega) (by omega), hgroups, bits_add 16 2, hoctets, octetBits_append]
  | case4 a b c rest n ih =>
    have ha := a.toNat_lt
    have hb := b.toNat_lt
    have hc := c.toNat_lt
    refine ih.cons (by omega) (by omega) (by omega) (by omega) ?_
    have hgroups : ((n / 0x40000 * 64 + n / 0x1000 % 64) * 64 + n / 64 % 64) * 64 + n % 64 = n := by
      omega
    rw [octetBits_append_two, groupBits_four _ (by omega) (by omega) (by omega), hgroups]

/-- Padding may be left out. -/
theorem Spells.without_padding (h : Spells symbols os) :
    Spells (symbols.filter (· != '=')) os := by
  obtain ⟨body, padding, hpadded, hfills⟩ := h
  have hsymbols : symbols.filter (· != '=') = body := by
    rw [hpadded.eq_append, List.filter_append,
      List.filter_eq_self.mpr (ne_padding hpadded.of_alphabet)]
    simp
  rw [hsymbols]
  exact ⟨body, 0, ⟨by simp, hpadded.of_alphabet, by simp, hpadded.ends, by simp⟩, hfills⟩

theorem Spells.mem (h : Spells symbols os) : ∀ c ∈ symbols, c ∈ alphabet ∨ c = '=' := by
  obtain ⟨body, padding, hpadded, -⟩ := h
  intro c hc
  rw [hpadded.eq_append, List.mem_append] at hc
  exact hc.imp (hpadded.of_alphabet c) List.eq_of_mem_replicate

/-! ## Spaces between symbols -/

/-- The second list is the first one with spaces put in anywhere. -/
inductive Spaced : List Char → List Char → Prop
  | nil : Spaced [] []
  | symbol {cs ds : List Char} (c : Char) : Spaced cs ds → Spaced (c :: cs) (c :: ds)
  | space {cs ds : List Char} {c : Char} : isSpace c = true → Spaced cs ds → Spaced cs (c :: ds)

theorem Spaced.refl : ∀ cs, Spaced cs cs
  | [] => .nil
  | c :: cs => .symbol c (Spaced.refl cs)

theorem Spaced.filter_eq (h : Spaced cs ds) (hcs : ∀ c ∈ cs, isSpace c = false) :
    ds.filter (!isSpace ·) = cs := by
  induction h with
  | nil => rfl
  | symbol c _ ih =>
    rw [List.forall_mem_cons] at hcs
    rw [List.filter_cons_of_pos (by rw [hcs.1]; rfl), ih hcs.2]
  | space hc _ ih => rw [List.filter_cons_of_neg (by rw [hc]; decide), ih hcs]

theorem isSpace_eq_false : ∀ c ∈ alphabet, isSpace c = false := by
  have hall : alphabet.all (!isSpace ·) = true := by decide +kernel
  simpa only [List.all_eq_true, Bool.not_eq_true'] using hall

theorem Spells.decode? {s t : String} (h : Spells symbols t.toUTF8.toList)
    (hspaced : Spaced symbols s.toList) : decode? s = some t := by
  have hsymbols : unspaced s = symbols := hspaced.filter_eq fun c hc => by
    rcases h.mem c hc with hc | rfl
    · exact isSpace_eq_false c hc
    · rfl
  exact decode?_of_spells (hsymbols ▸ h)

/-- What is written has four symbols or signs of padding for every three octets begun, and is read
as the text that it was written for, also with spaces put in anywhere, and without the padding. -/
theorem decode?_encode_spaced (s : String) :
    (encode s).length = 4 * ((s.toUTF8.size + 2) / 3) ∧
      (∀ c ∈ (encode s).toList, c ∈ alphabet ∨ c = '=') ∧ decode? (encode s) = some s ∧
        ∀ t : String, Spaced (encode s).toList t.toList ∨
          Spaced ((encode s).toList.filter (· != '=')) t.toList → decode? t = some s := by
  have hspells : Spells (encode s).toList s.toUTF8.toList := by
    rw [encode, String.toList_ofList]
    exact spells_encodeOctets _
  refine ⟨?_, hspells.mem, hspells.decode? (.refl _), ?_⟩
  · rw [encode, String.length_ofList, length_encodeOctets, toList_eq_data]
    rfl
  · rintro t (ht | ht)
    · exact hspells.decode? ht
    · exact hspells.without_padding.decode? ht

/-- Three symbols with spaces around them are read without the sign that is missing. -/
theorem decode?_encode_spaced_hi :
    encode "hi" = "aGk=" ∧
      Spaced ((encode "hi").toList.filter (· != '=')) " a\tGk\n".toList ∧
        decode? " a\tGk\n" = some "hi" := by
  have hencode : encode "hi" = "aGk=" := by
    rw [encode, toList_eq_data]
    decide +kernel
  have hspaced : Spaced ((encode "hi").toList.filter (· != '=')) " a\tGk\n".toList := by
    have hsymbols : "aGk=".toList.filter (· != '=') = ['a', 'G', 'k'] := by decide +kernel
    have htext : " a\tGk\n".toList = [' ', 'a', '\t', 'G', 'k', '\n'] := by decide +kernel
    rw [hencode, hsymbols, htext]
    exact .space rfl (.symbol _ (.space rfl (.symbol _ (.symbol _ (.space rfl .nil)))))
  obtain ⟨-, -, -, hread⟩ := decode?_encode_spaced "hi"
  exact ⟨hencode, hspaced, hread _ (.inr hspaced)⟩

end DevConsole.Base64
