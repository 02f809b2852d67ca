import DevConsole.Random

/-!
# Draws from a range

A draw from a range lies between its ends, however far apart they are: the width, the divisor and
the sum are those of the integers, and nothing wraps around (`inRange_exact`).

Of a draw only the upper bits count, unless the range is all of 64 bits. These bits have `spread`
values, and as a draw can be any number of 64 bits (`exists_next64`), they can be any of them. So a
value occurs exactly if it is less than `spread` from the least one, or the range is the full one
(`exists_inRange_iff`).
-/

namespace DevConsole.Random

variable {least greatest v : Int64} {r : Random}

/-! ## Words and integers -/

theorem toInt_eq (a : Int64) :
    a.toInt = if a.toUInt64.toNat < 9223372036854775808 then (a.toUInt64.toNat : Int)
      else a.toUInt64.toNat - 18446744073709551616 := by
  have h := BitVec.toInt_eq_toNat_cond a.toBitVec
  have hnat : a.toBitVec.toNat = a.toUInt64.toNat := rfl
  rw [hnat] at h
  rw [Int64.toInt, h]
  split <;> split <;> omega

/-- The width of a range is the distance of its ends as integers. -/
theorem toNat_distance (h : least ≤ greatest) :
    ((distance least greatest).toNat : Int) = greatest.toInt - least.toInt := by
  have hle := Int64.le_iff_toInt_le.mp h
  have hleast := toInt_eq least
  have hgreatest := toInt_eq greatest
  have := least.toUInt64.toNat_lt
  have := greatest.toUInt64.toNat_lt
  rw [distance, if_pos h, UInt64.toNat_sub]
  split at hleast <;> split at hgreatest <;> omega

/-- A sum that is in range does not wrap around. -/
theorem toInt_add_toInt64 {offset : UInt64}
    (h : least.toInt + offset.toNat ≤ greatest.toInt) :
    (least + offset.toInt64).toInt = least.toInt + offset.toNat := by
  have hsum := toInt_eq (least + offset.toInt64)
  have hleast := toInt_eq least
  have hgreatest := Int64.toInt_lt greatest
  have := least.toUInt64.toNat_lt
  have := offset.toNat_lt
  rw [Int64.toUInt64_add, UInt64.toUInt64_toInt64, UInt64.toNat_add] at hsum
  rw [hsum]
  split at hleast <;> split <;> omega

/-- One more than a width that is not the greatest one is not zero. -/
theorem toNat_succ {width : UInt64} (h : width ≠ 0xFFFFFFFFFFFFFFFF) :
    (width + 1).toNat = width.toNat + 1 := by
  have hne : width.toNat ≠ 18446744073709551615 := fun heq => h (UInt64.toNat_inj.mp heq)
  have := width.toNat_lt
  rw [UInt64.toNat_add, UInt64.toNat_one]
  omega

/-! ## The value drawn -/

/-- How many values the upper bits of a draw have. -/
def spread : Nat := 9007199254740992

/-- The upper bits of the next value. -/
def upper (r : Random) : UInt64 := r.next64.1 >>> 11

theorem toNat_upper (r : Random) : r.upper.toNat = r.next64.1.toNat / 2048 := by
  rw [upper, UInt64.toNat_shiftRight, Nat.shiftRight_eq_div_pow]
  rfl

theorem upper_lt (r : Random) : r.upper.toNat < spread := by
  have := r.next64.1.toNat_lt
  rw [toNat_upper, spread]
  omega

theorem inRange_fst (least greatest : Int64) (r : Random) :
    (r.inRange least greatest).1 =
      if distance least greatest = 0xFFFFFFFFFFFFFFFF then r.next64.1.toInt64
      else least + (r.upper % (distance least greatest + 1)).toInt64 := by
  unfold inRange
  dsimp only
  split <;> rfl

/-- The value is as far from the least one as the remainder says. -/
theorem toInt_inRange (h : least ≤ greatest)
    (hwidth : distance least greatest ≠ 0xFFFFFFFFFFFFFFFF) (r : Random) :
    (r.inRange least greatest).1.toInt =
      least.toInt + (r.upper.toNat % ((distance least greatest).toNat + 1) : Nat) := by
  have hmod : (r.upper % (distance least greatest + 1)).toNat =
      r.upper.toNat % ((distance least greatest).toNat + 1) := by
    rw [UInt64.toNat_mod, toNat_succ hwidth]
  have hlt : r.upper.toNat % ((distance least greatest).toNat + 1) <
      (distance least greatest).toNat + 1 := Nat.mod_lt _ (Nat.succ_pos _)
  have hdistance := toNat_distance h
  have hle : least.toInt + (r.upper % (distance least greatest + 1)).toNat ≤ greatest.toInt := by
    rw [hmod]
    omega
  rw [inRange_fst, if_neg hwidth, toInt_add_toInt64 hle, hmod]

/-- A draw from a range lies between its ends, whatever its width. The width is the distance of the
ends as integers. Unless it is the greatest one of 64 bits, one more fits too, so that the divisor
is not zero, and the remainder is added to the least value as to an integer. -/
theorem inRange_exact (h : least ≤ greatest) (r : Random) :
    ((distance least greatest).toNat : Int) = greatest.toInt - least.toInt ∧
      (distance least greatest ≠ 0xFFFFFFFFFFFFFFFF →
        (distance least greatest + 1).toNat = (distance least greatest).toNat + 1 ∧
          (r.inRange least greatest).1.toInt = least.toInt +
            ((r.next64.1 >>> 11) % (distance least greatest + 1)).toNat) ∧
      least.toInt ≤ (r.inRange least greatest).1.toInt ∧
        (r.inRange least greatest).1.toInt ≤ greatest.toInt := by
  have hdistance := toNat_distance h
  refine ⟨hdistance, fun hwidth => ⟨toNat_succ hwidth, ?_⟩, ?_⟩
  · rw [toInt_inRange h hwidth, UInt64.toNat_mod, toNat_succ hwidth, upper]
  · by_cases hwidth : distance least greatest = 0xFFFFFFFFFFFFFFFF
    · have hnat : (distance least greatest).toNat = 18446744073709551615 := by rw [hwidth]; rfl
      have := Int64.le_toInt (r.inRange least greatest).1
      have := Int64.toInt_lt (r.inRange least greatest).1
      have := Int64.le_toInt least
      have := Int64.toInt_lt greatest
      omega
    · have hlt : r.upper.toNat % ((distance least greatest).toNat + 1) <
          (distance least greatest).toNat + 1 := Nat.mod_lt _ (Nat.succ_pos _)
      rw [toInt_inRange h hwidth]
      omega

/-- A range that reaches from the least value of all up to zero. -/
theorem inRange_exact_negative :
    let r : Random := ⟨17⟩
    Int64.minValue ≤ 0 ∧ Int64.minValue.toInt ≤ (r.inRange Int64.minValue 0).1.toInt ∧
      (r.inRange Int64.minValue 0).1.toInt ≤ (0 : Int64).toInt := by
  have h : Int64.minValue ≤ 0 := by decide
  exact ⟨h, (inRange_exact h ⟨17⟩).2.2⟩

/-! ## The values that occur -/

/-- The inverse of the factor of a step. -/
def unfactor : UInt64 := 13877824140714322085

/-- Every number of 64 bits is drawn from some state. -/
theorem exists_next64 (u : UInt64) : ∃ r : Random, r.next64.1 = u := by
  refine ⟨⟨(u - 1442695040888963407) * unfactor⟩, ?_⟩
  have hone : unfactor * 6364136223846793005 = 1 := by decide
  rw [next64, UInt64.mul_assoc, hone, UInt64.mul_one, UInt64.sub_add_cancel]

/-- A value that can be drawn: the upper bits go that far, or the range is all of 64 bits and they
are not cut off. -/
def Reaches (least greatest v : Int64) : Prop :=
  v.toInt - least.toInt < spread ∨ greatest.toInt - least.toInt = 18446744073709551615

instance (least greatest v : Int64) : Decidable (Reaches least greatest v) :=
  inferInstanceAs (Decidable (_ ∨ _))

/-- The upper bits can be any number below `spread`. -/
theorem exists_upper {n : Nat} (h : n < spread) : ∃ r : Random, r.upper.toNat = n := by
  obtain ⟨r, hr⟩ := exists_next64 (UInt64.ofNat (n * 2048))
  refine ⟨r, ?_⟩
  rw [spread] at h
  have hsize : n * 2048 < UInt64.size := by
    rw [UInt64.size]
    omega
  rw [toNat_upper, hr, UInt64.toNat_ofNat_of_lt' hsize]
  exact Nat.mul_div_cancel n (by decide)

theorem exists_inRange_iff (hleast : least ≤ v) (hgreatest : v ≤ greatest) :
    (∃ r : Random, (r.inRange least greatest).1 = v) ↔ Reaches least greatest v := by
  have hle := Int64.le_iff_toInt_le.mp hleast
  have hge := Int64.le_iff_toInt_le.mp hgreatest
  have h : least ≤ greatest := Int64.le_trans hleast hgreatest
  have hdistance := toNat_distance h
  by_cases hwidth : distance least greatest = 0xFFFFFFFFFFFFFFFF
  · have hnat : (distance least greatest).toNat = 18446744073709551615 := by rw [hwidth]; rfl
    refine iff_of_true ?_ (.inr (by omega))
    obtain ⟨r, hr⟩ := exists_next64 v.toUInt64
    exact ⟨r, by rw [inRange_fst, if_pos hwidth, hr, Int64.toInt64_toUInt64]⟩
  · have hne : (distance least greatest).toNat ≠ 18446744073709551615 := fun heq =>
      hwidth (UInt64.toNat_inj.mp heq)
    have hreach : Reaches least greatest v ↔ v.toInt - least.toInt < spread :=
      or_iff_left (by omega)
    rw [hreach]
    constructor
    · rintro ⟨r, rfl⟩
      have hmod := Nat.mod_le r.upper.toNat ((distance least greatest).toNat + 1)
      have hupper := r.upper_lt
      rw [toInt_inRange h hwidth]
      omega
    · intro hlt
      obtain ⟨r, hr⟩ := exists_upper (n := (v.toInt - least.toInt).toNat) (by omega)
      refine ⟨r, Int64.toInt_inj.mp ?_⟩
      rw [toInt_inRange h hwidth, hr, Nat.mod_eq_of_lt (by omega)]
      omega

end DevConsole.Random
