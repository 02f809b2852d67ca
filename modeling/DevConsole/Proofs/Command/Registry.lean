import DevConsole.Command.Builtin
import DevConsole.Proofs.Entries

/-!
# Finding commands

`Builtin.mode?` is the mode whose command something is, if it is not one of all modes. In the
registry of the built-in commands each is filed under its own name, for its own mode only
(`filed_builtins`). So what a name stands for in a mode is a command of that name, and one of that
mode or of all modes (`resolve?_builtins`).
-/

namespace DevConsole

namespace Text

theorem lowerChar_lowerChar (c : Char) : lowerChar (lowerChar c) = lowerChar c := by
  have hsmall : ∀ n < 26, lowerChar (Char.ofNat (65 + n + 32)) = Char.ofNat (65 + n + 32) := by
    decide
  by_cases h : 'A' ≤ c ∧ c ≤ 'Z'
  · have hlow : 65 ≤ c.toNat := h.1
    have hhigh : c.toNat ≤ 90 := h.2
    have hc := hsmall (c.toNat - 65) (by omega)
    rw [show 65 + (c.toNat - 65) = c.toNat by omega] at hc
    rw [show lowerChar c = Char.ofNat (c.toNat + 32) from if_pos h, hc]
  · rw [show lowerChar c = c from if_neg h, show lowerChar c = c from if_neg h]

theorem lower_lower (s : String) : lower (lower s) = lower s := by
  simp only [lower, String.toList_ofList, List.map_map]
  exact congrArg String.ofList (List.map_congr_left fun c _ => lowerChar_lowerChar c)

end Text

namespace Builtin

/-- The mode that a command belongs to. -/
def mode? : Builtin → Option Mode
  | .global _ => none
  | .development _ => some .development
  | .market _ => some .marketData
  | .networking _ => some .network
  | .utility _ => some .utilities
  | .filing _ => some .filesystem
  | .novelty _ => some .novelty

/-- Whether a command can be called in a mode. -/
def IsIn (c : Builtin) (mode : Mode) : Prop := c.mode? = none ∨ c.mode? = some mode

theorem mode?_of_mem_ofMode {c : Builtin} {mode : Mode} (h : c ∈ ofMode mode) :
    c.mode? = some mode := by
  cases mode <;> obtain ⟨_, -, rfl⟩ := List.mem_map.mp h <;> rfl

/-- The names of commands are in lower case. -/
theorem lower_name (c : Builtin) : Text.lower c.info.name = c.info.name := by
  cases c with
  | global c => cases c <;> decide +kernel
  | development c => cases c <;> decide +kernel
  | market c => cases c <;> decide +kernel
  | networking c => cases c <;> decide +kernel
  | utility c => cases c <;> decide +kernel
  | filing c => cases c <;> decide +kernel
  | novelty c => cases c <;> decide +kernel

end Builtin

namespace Registry

/-- What is filed in a table under a name: a command of that name. -/
def Entry (mode? : Option Mode) (e : String × Registered Builtin) : Prop :=
  e.2 = e.2.action.registered ∧ e.1 = e.2.action.info.name ∧ e.2.action.mode? = mode?

/-- Every command is filed under its name, in the table of its mode. -/
structure Filed (r : Registry Builtin) : Prop where
  globals : ∀ e ∈ r.globals, Entry none e
  ofMode : ∀ mode, ∀ e ∈ r.ofMode mode, Entry (some mode) e

variable {r : Registry Builtin}

theorem entry_registered (c : Builtin) : Entry c.mode? (c.registered.key, c.registered) :=
  ⟨rfl, c.lower_name, rfl⟩

theorem Filed.registerGlobal (h : r.Filed) {c : Builtin} (hc : c.mode? = none) :
    (r.registerGlobal c.registered).Filed where
  globals e he := by
    rcases Entries.mem_insert he with rfl | he
    · exact hc ▸ entry_registered c
    · exact h.globals e he
  ofMode := h.ofMode

theorem Filed.register (h : r.Filed) {c : Builtin} {mode : Mode} (hc : c.mode? = some mode) :
    (r.register mode c.registered).Filed where
  globals := h.globals
  ofMode m e he := by
    simp only [Registry.register] at he
    split at he
    · rename_i hm
      subst hm
      rcases Entries.mem_insert he with rfl | he
      · exact hc ▸ entry_registered c
      · exact h.ofMode m e he
    · exact h.ofMode m e he

theorem filed_builtins : builtins.Filed := by
  refine List.foldlRecOn _ _ (List.foldlRecOn _ _ ⟨nofun, nofun⟩ ?_) ?_
  · exact fun r h c _ => h.registerGlobal rfl
  · intro r h mode _
    exact List.foldlRecOn _ _ h fun r h c hc => h.register (Builtin.mode?_of_mem_ofMode hc)

/-- What a name stands for in a mode is a command of that name that can be called there. -/
theorem resolve?_builtins {name : String} {mode : Mode} {found : Registered Builtin}
    (h : builtins.resolve? name mode = some found) :
    ∃ c : Builtin, found = c.registered ∧ c.info.name = Text.lower name ∧ c.IsIn mode := by
  rcases Option.or_eq_some_iff.mp h with h | ⟨-, h⟩
  · obtain ⟨hfound, hname, hmode⟩ := filed_builtins.globals _ (Entries.mem_of_find? h)
    exact ⟨found.action, hfound, hname.symm, .inl hmode⟩
  · obtain ⟨hfound, hname, hmode⟩ := filed_builtins.ofMode mode _ (Entries.mem_of_find? h)
    exact ⟨found.action, hfound, hname.symm, .inr hmode⟩

end Registry
end DevConsole
