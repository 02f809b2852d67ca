import DevConsole.Text.Octets

/-!
# Cutting by octets

A text is cut at a place exactly where so many octets of whole characters stand before it
(`cutAtOctet?_eq_some_iff`), and there is one such cut at most (`append_inj_of_octets`).
-/

namespace DevConsole.Text

variable {cs before before' rest rest' : List Char} {count start : Nat}

/-- The octets that characters take. -/
def octets (cs : List Char) : Nat := (String.ofList cs).utf8ByteSize

theorem octets_nil : octets [] = 0 := rfl

theorem octets_cons (c : Char) (cs : List Char) : octets (c :: cs) = c.utf8Size + octets cs := by
  rw [octets, String.ofList_cons, String.utf8ByteSize_append, String.utf8ByteSize_singleton]
  rfl

theorem octets_append (cs cs' : List Char) : octets (cs ++ cs') = octets cs + octets cs' := by
  rw [octets, String.ofList_append, String.utf8ByteSize_append]
  rfl

theorem length_le_octets (cs : List Char) : cs.length ≤ octets cs := by
  induction cs with
  | nil => exact Nat.zero_le _
  | cons c cs ih =>
    have := c.utf8Size_pos
    rw [octets_cons, List.length_cons]
    omega

theorem octets_eq_zero_iff : octets cs = 0 ↔ cs = [] := by
  refine ⟨fun h => ?_, fun h => by rw [h, octets_nil]⟩
  have hlength := length_le_octets cs
  rw [h] at hlength
  exact List.eq_nil_of_length_eq_zero (Nat.le_zero.mp hlength)

theorem cutAtOctet?_eq_some_iff :
    cutAtOctet? count cs = some (before, rest) ↔ cs = before ++ rest ∧ octets before = count := by
  fun_induction cutAtOctet? count cs generalizing before rest with
  | case1 cs =>
    rw [octets_eq_zero_iff, Option.some_inj, Prod.mk.injEq]
    constructor
    · rintro ⟨rfl, rfl⟩
      exact ⟨rfl, rfl⟩
    · rintro ⟨hcs, rfl⟩
      exact ⟨rfl, hcs⟩
  | case2 count =>
    refine iff_of_false nofun ?_
    rintro ⟨hnil, hcount⟩
    rw [(List.append_eq_nil_iff.mp hnil.symm).1] at hcount
    cases hcount
  | case3 count c cs hfits ih =>
    simp only [Option.map_eq_some_iff, Prod.exists, ih, Prod.mk.injEq]
    constructor
    · rintro ⟨a, b, ⟨rfl, ha⟩, rfl, rfl⟩
      exact ⟨rfl, by rw [octets_cons]; omega⟩
    · rintro ⟨hcs, hcount⟩
      cases before with
      | nil => cases hcount
      | cons d before =>
        obtain ⟨rfl, rfl⟩ := List.cons.inj hcs
        rw [octets_cons] at hcount
        exact ⟨before, rest, ⟨rfl, by omega⟩, rfl, rfl⟩
  | case4 count c cs hcut =>
    -- the place lies within the first character
    refine iff_of_false nofun ?_
    rintro ⟨hcs, hcount⟩
    cases before with
    | nil => cases hcount
    | cons d before =>
      obtain ⟨rfl, rfl⟩ := List.cons.inj hcs
      rw [octets_cons] at hcount
      omega

theorem append_inj_of_octets (h : before ++ rest = before' ++ rest')
    (hoctets : octets before = octets before') : before = before' ∧ rest = rest' := by
  have hcut := cutAtOctet?_eq_some_iff.mpr ⟨h, rfl⟩
  rw [cutAtOctet?_eq_some_iff.mpr ⟨rfl, hoctets⟩, Option.some_inj, Prod.mk.injEq] at hcut
  exact hcut

theorem octetsAt?_eq_some_iff {piece : List Char} :
    octetsAt? start count cs = some piece ↔
      ∃ before rest, cs = before ++ (piece ++ rest) ∧ octets before = start ∧
        octets piece = count := by
  simp only [octetsAt?, Option.bind_eq_some_iff, Option.map_eq_some_iff, Prod.exists,
    cutAtOctet?_eq_some_iff]
  constructor
  · rintro ⟨before, tail, ⟨rfl, hstart⟩, _, rest, ⟨rfl, hcount⟩, rfl⟩
    exact ⟨before, rest, rfl, hstart, hcount⟩
  · rintro ⟨before, rest, rfl, hstart, hcount⟩
    exact ⟨before, _, ⟨rfl, hstart⟩, piece, rest, ⟨rfl, hcount⟩, rfl⟩

end DevConsole.Text
