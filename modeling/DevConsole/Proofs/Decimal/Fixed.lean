import DevConsole.Decimal.Layout
import DevConsole.Proofs.Text.Integer
import Mathlib

/-!
# Fixed-point texts

The absolute value of a finite `Float` differs from it in the sign bit only (`toBits_abs`). So with
`places` decimals it is written as digits, and behind a point as many decimals as were asked for
(`FixedPoint`, `exists_fixedPoint`).
-/

namespace DevConsole.Decimal

open Float.Model (Format)
open Float.Model.UnpackedFloat

/-! ## The bits of an absolute value -/

theorem toNat_packComponents (sign : Sign) (field : BitVec 11) (fraction : BitVec 52) :
    (packComponents .binary64 sign field fraction).toNat =
      (sign.toBitVec.toNat * 2048 + field.toNat) * leadingWeight + fraction.toNat := by
  have hfield := Nat.shiftLeft_add_eq_or_of_lt field.isLt sign.toBitVec.toNat
  have hfraction := Nat.shiftLeft_add_eq_or_of_lt fraction.isLt
    (sign.toBitVec.toNat <<< 11 + field.toNat)
  rw [packComponents, BitVec.toNat_append, BitVec.toNat_append, ← hfield, ← hfraction]
  simp only [Nat.shiftLeft_eq, leadingWeight]

/-- An absolute value has the other bits of the value. -/
theorem abs_unpack (bits : BitVec Format.binary64.numBits) :
    (unpack .binary64 bits).abs =
      unpack .binary64 (packComponents .binary64 .positive (unpackExponent bits)
        (unpackMantissa bits)) := by
  have hpositive : Sign.ofBitVec Sign.positive.toBitVec = .positive := rfl
  simp only [unpack, unpackExponent_packComponents, unpackMantissa_packComponents,
    unpackSign_packComponents, hpositive]
  split
  · split <;> rfl
  · split
    · split <;> rfl
    · rfl

theorem unpackExponent_ne_of_isFinite {x : Float} (hx : x.isFinite = true) :
    @unpackExponent .binary64 x.toBits.toBitVec ≠ -1#11 := by
  intro hfield
  have hfinite : (unpack .binary64 x.toBits.toBitVec).isFinite = true := hx
  rw [unpack] at hfinite
  simp only [hfield, if_true] at hfinite
  split at hfinite <;> cases hfinite

/-- The absolute value of a finite value differs from it in the sign bit only. -/
theorem toBits_abs {x : Float} (hx : x.isFinite = true) :
    x.abs.toBits.toBitVec = packComponents .binary64 .positive
      (unpackExponent x.toBits.toBitVec) (unpackMantissa x.toBits.toBitVec) := by
  have hbits : x.abs.toBits.toBitVec =
      (unpack .binary64 x.toBits.toBitVec).abs.pack .binary64 := rfl
  have hnumber : ¬isNaNBits (packComponents .binary64 .positive
      (unpackExponent x.toBits.toBitVec) (unpackMantissa x.toBits.toBitVec)) = true := by
    rw [isNaNBits, decide_eq_true_eq, unpackExponent_packComponents]
    exact fun hnan => unpackExponent_ne_of_isFinite hx hnan.1
  rw [hbits, abs_unpack, pack_unpack, if_neg hnumber]

theorem exists_toBits_abs {x : Float} (hx : x.isFinite = true) :
    ∃ (field : BitVec 11) (fraction : BitVec 52), field.toNat ≠ 2047 ∧
      x.abs.toBits.toNat = field.toNat * leadingWeight + fraction.toNat := by
  have hfield := mt (BitVec.eq_of_toNat_eq (y := -1#11)) (unpackExponent_ne_of_isFinite hx)
  have hbits := congrArg BitVec.toNat (toBits_abs hx)
  rw [toNat_packComponents, Sign.toBitVec, BitVec.toNat_ofNat, Nat.zero_mod, Nat.zero_mul,
    Nat.zero_add] at hbits
  exact ⟨_, _, hfield, hbits⟩

theorem isNegative_abs {x : Float} (hx : x.isFinite = true) : isNegative x.abs = false := by
  obtain ⟨field, fraction, -, hbits⟩ := exists_toBits_abs hx
  have hfield := field.isLt
  have hfraction := fraction.isLt
  simp only [leadingWeight] at hbits
  simp only [isNegative, hbits, signWeight, beq_eq_false_iff_ne]
  omega

theorem exists_ofFloat_abs {x : Float} (hx : x.isFinite = true) :
    ∃ m q, Binary.ofFloat x.abs = .finite m q := by
  obtain ⟨field, fraction, hfinite, hbits⟩ := exists_toBits_abs hx
  have hfield := field.isLt
  have hfraction := fraction.isLt
  have hread : x.abs.toBits.toNat / leadingWeight % 2048 = field.toNat := by
    simp only [hbits, leadingWeight]
    omega
  simp only [Binary.ofFloat, hread, if_neg hfinite]
  split
  · exact ⟨_, _, rfl⟩
  · exact ⟨_, _, rfl⟩

/-! ## Digits and decimals -/

/-- Decimals behind a point, if there are any. -/
def behindPoint (decimals : List Char) : List Char :=
  if decimals = [] then [] else '.' :: decimals

@[simp] theorem behindPoint_nil : behindPoint [] = [] := rfl

theorem mem_behindPoint {decimals : List Char} {c : Char} :
    c ∈ behindPoint decimals ↔ c ∈ decimals ∨ c = '.' ∧ decimals ≠ [] := by
  rw [behindPoint]
  split
  · rename_i hnone
    simp [hnone]
  · rename_i hsome
    simp [hsome, or_comm]

theorem behindPoint_of_ne {decimals : List Char} (h : decimals ≠ []) :
    behindPoint decimals = '.' :: decimals := if_neg h

/-- The text of a magnitude with `places` decimals. -/
structure FixedPoint (places : Nat) (whole decimals text : List Char) : Prop where
  whole_ne : whole ≠ []
  whole_digits : ∀ c ∈ whole, Text.isDigit c = true
  decimals_digits : ∀ c ∈ decimals, Text.isDigit c = true
  length_decimals : decimals.length = places
  text_eq : text = whole ++ behindPoint decimals

theorem FixedPoint.of_whole {whole : List Char} (hne : whole ≠ [])
    (hdigits : ∀ c ∈ whole, Text.isDigit c = true) : FixedPoint 0 whole [] whole where
  whole_ne := hne
  whole_digits := hdigits
  decimals_digits := fun _ hc => absurd hc List.not_mem_nil
  length_decimals := rfl
  text_eq := by rw [behindPoint_nil, List.append_nil]

theorem FixedPoint.of_digits {places : Nat} (hplaces : places ≠ 0) {ds : List Char}
    (hlength : places < ds.length) (hdigits : ∀ c ∈ ds, Text.isDigit c = true) :
    FixedPoint places (ds.take (ds.length - places)) (ds.drop (ds.length - places))
      (ds.take (ds.length - places) ++ '.' :: ds.drop (ds.length - places)) := by
  have hwhole : 0 < (ds.take (ds.length - places)).length := by
    rw [List.length_take]
    omega
  have hdecimals : (ds.drop (ds.length - places)).length = places := by
    rw [List.length_drop]
    omega
  have hne : ds.drop (ds.length - places) ≠ [] := by
    refine List.ne_nil_of_length_pos ?_
    rw [hdecimals]
    exact Nat.pos_of_ne_zero hplaces
  exact {
    whole_ne := List.ne_nil_of_length_pos hwhole
    whole_digits := fun c hc => hdigits c (List.mem_of_mem_take hc)
    decimals_digits := fun c hc => hdigits c (List.mem_of_mem_drop hc)
    length_decimals := hdecimals
    text_eq := by rw [behindPoint_of_ne hne] }

theorem fixedPoint_pointText (digits : Nat) {places : Nat} (hplaces : places ≠ 0) :
    ∃ whole decimals, FixedPoint places whole decimals (pointText digits places).toList := by
  have hdigits : ∀ c ∈ List.replicate (places + 1 - (Nat.toDigits 10 digits).length) '0' ++
      Nat.toDigits 10 digits, Text.isDigit c = true := by
    intro c hc
    rcases List.mem_append.mp hc with hzero | hdigit
    · rw [List.eq_of_mem_replicate hzero]
      decide
    · exact Text.isDigit_of_mem_toDigits hdigit
  have hlength : places < (List.replicate (places + 1 - (Nat.toDigits 10 digits).length) '0' ++
      Nat.toDigits 10 digits).length := by
    rw [List.length_append, List.length_replicate]
    omega
  simp only [pointText, String.toList_append, String.toList_ofList, List.append_assoc]
  exact ⟨_, _, .of_digits hplaces hlength hdigits⟩

theorem fixedPoint_fixedMagnitude (places m : Nat) (q : Int) :
    ∃ whole decimals, FixedPoint places whole decimals (fixedMagnitude places m q).toList := by
  rw [fixedMagnitude]
  split
  · rename_i hzero
    rw [hzero, String.toList_ofList]
    exact ⟨_, _, .of_whole Nat.toDigits_ne_nil fun c => Text.isDigit_of_mem_toDigits⟩
  · rename_i hplaces
    exact fixedPoint_pointText _ hplaces

/-- The absolute value of a finite value is written as digits and decimals, without a sign. -/
theorem exists_fixedPoint {x : Float} (hx : x.isFinite = true) (places : Nat) :
    ∃ whole decimals, FixedPoint places whole decimals (fixed places x.abs).toList := by
  obtain ⟨m, q, hbinary⟩ := exists_ofFloat_abs hx
  have htext : fixed places x.abs = fixedMagnitude places m q := by
    simp [fixed, isNegative_abs hx, hbinary]
  rw [htext]
  exact fixedPoint_fixedMagnitude places m q

end DevConsole.Decimal
