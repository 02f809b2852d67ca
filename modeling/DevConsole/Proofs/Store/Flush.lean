import DevConsole.Proofs.Json.Decoding
import DevConsole.Proofs.Store.Disk
import DevConsole.Store.File

/-!
# Saving a store to its file

The content of a state file decodes to the entries it was made from (`decode?_encode`). The scratch
file has another name than the file, unless the path has the extension `tmp` already
(`Location.exists_scratch_name`).

`FileStore.Flushed` lists what a flush can do to a file system that is lawful: it makes directories,
writes the scratch file besides, or moves that into place as well. Only then does it succeed. On a
disk without links a flush that succeeds leaves a file that the same store is loaded from
(`Flushed.load_of_ok`).
-/

namespace DevConsole

namespace FileStore

/-! ## The content of a state file -/

theorem decode?_encode {es : Entries String} (h : es.Ordered) : decode? (encode es) = some es := by
  have hencode : encode es = (Json.object (es.mapValues .string)).pretty := rfl
  have hplain : (Json.object (es.mapValues .string)).Plain := by
    refine .object fun m hm => ?_
    obtain ⟨e, -, rfl⟩ := List.mem_map.1 hm
    exact .string e.2
  have hdepth : (Json.object (es.mapValues .string)).depth ≤ Json.maxDepth := by
    have hmembers : Json.depthMembers (es.mapValues .string) ≤ 0 := by
      refine Json.depthMembers_le_iff.2 fun m hm => ?_
      obtain ⟨e, -, rfl⟩ := List.mem_map.1 hm
      exact Nat.le_refl 0
    rw [Json.depth, Json.maxDepth]
    omega
  rw [decode?, hencode, Json.read_pretty hplain, if_pos hdepth, Option.bind_some]
  exact Json.entries?_mapValues h fun e _ => rfl

theorem ordered_of_decode? {text : String} {es : Entries String} (h : decode? text = some es) :
    es.Ordered := by
  obtain ⟨v, -, hentries⟩ := Option.bind_eq_some_iff.1 h
  exact Json.ordered_of_entries? hentries

theorem ordered_load {φ : Type} [FileSystem φ] (fs : φ) (path : String) :
    (load fs path).entries.Ordered := by
  unfold load
  cases hread : (FileSystem.read? fs (Location.parse path)).bind decode? with
  | none => exact Entries.ordered_nil
  | some es =>
    obtain ⟨text, -, hdecode⟩ := Option.bind_eq_some_iff.1 hread
    exact ordered_of_decode? hdecode

end FileStore

/-! ## The scratch file -/

namespace Location

/-- The path names a file that is called something, a point and the extension. -/
def HasExtension (l : Location) (extension : String) : Prop :=
  ∃ base, base ≠ "" ∧ l.parts.getLast? = some (base ++ "." ++ extension)

theorem stem_ne_empty {name : String} (h : name ≠ "") : stem name ≠ "" := by
  unfold stem
  simp only
  split
  · exact h
  · rename_i hbefore
    intro hempty
    refine hbefore ?_
    rw [String.ofList_eq_empty_iff.1 hempty]
    rfl

/-- With another extension the last name is replaced by another one, or by a step up. -/
theorem exists_scratch_name {l : Location} {extension name : String} {above : List String}
    (hext : ¬l.HasExtension extension) (hparts : l.parts = above ++ [name]) (hname : name ≠ "..") :
    ∃ last, (l.withExtension extension).parts = above ++ [last] ∧
      (l.withExtension extension).absolute = l.absolute ∧
      (l.withExtension extension).wantsDirectory = false ∧ (last ≠ ".." → last ≠ name) := by
  have hlast : l.parts.getLast? = some name := by rw [hparts, List.getLast?_concat]
  unfold withExtension
  rw [hlast]
  simp only [if_neg hname]
  refine ⟨_, by rw [hparts, List.dropLast_concat], trivial, trivial, fun hup hsame => ?_⟩
  split at hup
  · exact hup rfl
  · rename_i hstem
    rw [if_neg hstem] at hsame
    refine hext ⟨stem name, stem_ne_empty ?_, by rw [hlast, hsame]⟩
    rintro rfl
    exact absurd (congrArg String.length hsame) (by simp)

end Location

namespace FileStore

open FileSystem

/-! ## What a flush does -/

section

variable {φ : Type} [FileSystem φ]

/-- What a flush of a store can do to a file system, with its outcome. -/
inductive Flushed (s : FileStore) (fs : φ) : Except Error Unit → φ → Prop
  /-- Nothing but directories has been made, and perhaps not all of them. -/
  | stopped {e : Error} (count : Nat) :
      Flushed s fs (.error e) (makeDirectories fs (s.location.parent.first count)).2
  /-- The scratch file has been written, but not moved. -/
  | left {e : Error} {made written : φ} {content : String} :
      makeDirectories fs s.location.parent = (.ok (), made) →
      writeFile made s.scratch content = (.ok (), written) → Flushed s fs (.error e) written
  | saved {made written moved : φ} :
      makeDirectories fs s.location.parent = (.ok (), made) →
      writeFile made s.scratch (encode s.entries) = (.ok (), written) →
      rename written s.scratch s.location = (.ok (), moved) → Flushed s fs (.ok ()) moved

theorem flushed_makeDirectories (s : FileStore) {fs made : φ} {outcome : Except Error Unit}
    (h : makeDirectories fs s.location.parent = (outcome, made)) (e : Error) :
    Flushed s fs (.error e) made := by
  have hall : s.location.parent.first s.location.parent.parts.length = s.location.parent := by
    rw [Location.first, List.take_length]
  have hstopped : Flushed s fs (.error e)
      (makeDirectories fs (s.location.parent.first s.location.parent.parts.length)).2 := .stopped _
  rwa [hall, h] at hstopped

variable [LawfulFileSystem φ]

theorem flushed_writeFile {s : FileStore} {fs made : φ} (e : Error) (content : String)
    (hmade : makeDirectories fs s.location.parent = (.ok (), made)) :
    Flushed s fs (.error e) (writeFile made s.scratch content).2 := by
  match hwrite : writeFile made s.scratch content with
  | (.ok (), written) => exact .left hmade hwrite
  | (.error _, written) =>
    rw [LawfulFileSystem.writeFile_error hwrite]
    exact flushed_makeDirectories s hmade e

theorem flushed_flush (s : FileStore) (fs : φ) (fault : Option Fault) :
    Flushed s fs (s.flush fs fault).1 (s.flush fs fault).2 := by
  unfold flush
  simp only
  split
  · exact .stopped _
  · split
    · rename_i e made hmade
      exact flushed_makeDirectories s hmade e
    · rename_i made hmade
      split
      · rename_i left _
        cases left with
        | none => exact flushed_makeDirectories s hmade _
        | some content => exact flushed_writeFile _ content hmade
      · split
        · rename_i e written hwrite
          rw [LawfulFileSystem.writeFile_error hwrite]
          exact flushed_makeDirectories s hmade e
        · rename_i written hwrite
          split
          · exact .left hmade hwrite
          · match hmove : rename written s.scratch s.location with
            | (.ok (), moved) => exact .saved hmade hwrite hmove
            | (.error _, moved) =>
              rw [LawfulFileSystem.rename_error hmove]
              exact .left hmade hwrite

end

/-! ## Files on a disk -/

theorem Flushed.load_of_ok {s : FileStore} {d d' : Disk} (h : Flushed s d (.ok ()) d')
    (ho : s.entries.Ordered) : load d' s.path = s := by
  cases h with
  | saved hmade hwrite hmove =>
    have hread : read? d' (Location.parse s.path) = some (encode s.entries) := by
      have hmoved := Disk.read?_of_rename hmove
      rwa [Disk.textAt?_of_writeFile hwrite] at hmoved
    rw [load, hread, Option.bind_some, decode?_encode ho]
    rfl

end FileStore

end DevConsole
