import DevConsole.Store.FileSystem

/-!
# Lawful file systems

In a lawful file system a file that cannot be written or moved leaves everything as it was. What a
write leaves half done is not a write that fails here but one of a part of the content.

Directories above a location are made one after the other, each at a part of the path, and those
that have been made stay: what every single one keeps is kept by all of them
(`FileSystem.makeDirectories_induct`).
-/

namespace DevConsole

class LawfulFileSystem (φ : Type) [FileSystem φ] : Prop where
  writeFile_error {fs fs' : φ} {l : Location} {content : String} {e : Error} :
    FileSystem.writeFile fs l content = (.error e, fs') → fs' = fs
  rename_error {fs fs' : φ} {source target : Location} {e : Error} :
    FileSystem.rename fs source target = (.error e, fs') → fs' = fs

namespace FileSystem

variable {φ : Type} [FileSystem φ] {P : φ → Prop} {fs : φ}

theorem makeDirectoriesUp_induct (absolute : Bool) (parts : List String) (hfs : P fs)
    (hstep : ∀ rest, rest <:+ parts → ∀ fs fs', P fs →
      makeDirectory fs ⟨absolute, rest.reverse, true⟩ = .ok fs' → P fs') :
    P (makeDirectoriesUp fs absolute parts).2 := by
  induction parts with
  | nil => exact hfs
  | cons part rest ih =>
    have hup : P (makeDirectoriesUp fs absolute rest).2 :=
      ih fun rest' hrest => hstep rest' (hrest.trans (List.suffix_cons ..))
    have hmake := hstep _ (List.suffix_refl _)
    unfold makeDirectoriesUp
    simp only
    split
    · exact hmake _ _ hfs ‹_›
    · -- one above is missing: those above are made first, and what is made of them stays
      split
      · rename_i hmade
        rwa [hmade] at hup
      · rename_i hmade
        rw [hmade] at hup
        split
        · exact hmake _ _ hup ‹_›
        · split <;> exact hup
    · split <;> exact hfs

/-- What the making of each directory keeps is there in the end, even if not all could be made. -/
theorem makeDirectories_induct (l : Location) (hfs : P fs)
    (hstep : ∀ count fs fs', P fs →
      makeDirectory fs { l.first count with wantsDirectory := true } = .ok fs' → P fs') :
    P (makeDirectories fs l).2 := by
  refine makeDirectoriesUp_induct l.absolute l.parts.reverse hfs
    fun rest hrest fs fs' hP hmake => ?_
  have hprefix : rest.reverse <+: l.parts := List.reverse_suffix.mp (by rwa [List.reverse_reverse])
  have hparts := List.prefix_iff_eq_take.mp hprefix
  rw [List.length_reverse] at hparts
  exact hstep rest.length fs fs' hP (by rwa [hparts] at hmake)

end FileSystem

end DevConsole
