import DevConsole.Proofs.Store.Flush
import Mathlib.Logic.Function.Basic

/-!
# Writes to a file store

A write changes the entries in memory first, and whether it is saved or not they stay changed. So
memory holds what a plain map holds after the same writes (`get?_after`). The file is written by
`set`, and by `remove` if the name is in memory (`FileStore.Saves`); then the file system is as a
flush leaves it, and otherwise it is as it was (`attempted_attempt`).
-/

namespace DevConsole

/-- What a write does to a plain map. -/
def Write.on (w : Write) (map : String → Option String) : String → Option String :=
  match w with
  | .set key value => Function.update map key (some value)
  | .remove key => Function.update map key none

/-- What the writes do to a plain map, in order. -/
def Write.onAll (ws : List Write) (map : String → Option String) : String → Option String :=
  ws.foldl (fun map w => w.on map) map

namespace FileStore

section

variable {φ : Type} [FileSystem φ]

/-- A write to the store, with the reason for its flush to fail if there is one. -/
def attempt (s : FileStore) (fs : φ) (fault : Option Fault) : Write → Changed φ
  | .set key value => s.set fs key value fault
  | .remove key => s.remove fs key fault

/-- The map that a path holds: the texts in its file, and none if it does not decode. -/
def stored (fs : φ) (path : String) (key : String) : Option String :=
  ((FileSystem.read? fs (Location.parse path)).bind decode?).bind fun es => es.find? key

theorem get?_load (fs : φ) (path : String) : (load fs path).get? = stored fs path := by
  funext key
  unfold load get? stored
  cases (FileSystem.read? fs (Location.parse path)).bind decode? <;> rfl

end

/-- The store after a write. -/
def after (s : FileStore) : Write → FileStore
  | .set key value => { s with entries := s.entries.insert key value }
  | .remove key => { s with entries := s.entries.erase key }

/-- A write that goes to the file. -/
def Saves (s : FileStore) : Write → Prop
  | .set _ _ => True
  | .remove key => (s.get? key).isSome

instance (s : FileStore) : (w : Write) → Decidable (s.Saves w)
  | .set _ _ => isTrue trivial
  | .remove key => inferInstanceAs (Decidable ((s.get? key).isSome = true))

@[simp] theorem after_path (s : FileStore) (w : Write) : (s.after w).path = s.path := by
  cases w <;> rfl

theorem ordered_after {s : FileStore} (h : s.entries.Ordered) (w : Write) :
    (s.after w).entries.Ordered := by
  cases w with
  | set key value => exact h.insert key value
  | remove key => exact h.erase key

/-- Memory changes as a plain map does. -/
theorem get?_after {s : FileStore} (h : s.entries.Ordered) (w : Write) :
    (s.after w).get? = w.on s.get? := by
  funext key
  cases w with
  | set name value =>
    rw [Write.on, Function.update_apply]
    exact Entries.find?_insert name key value s.entries
  | remove name =>
    rw [Write.on, Function.update_apply]
    split
    · rename_i hkey
      rw [hkey]
      exact h.find?_erase_self name
    · rename_i hkey
      exact Entries.find?_erase_of_ne hkey s.entries

/-! ## What a write can do -/

variable {φ : Type} [FileSystem φ]

/-- A write changes memory, and the file system as a flush does if it is one that saves. -/
inductive Attempted (s : FileStore) (w : Write) (fs : φ) : Changed φ → Prop
  | passed : ¬s.Saves w → s.after w = s → Attempted s w fs ⟨.ok (), s, fs⟩
  | flushed {outcome : Except Error Unit} {fs' : φ} :
      s.Saves w → Flushed (s.after w) fs outcome fs' → Attempted s w fs ⟨outcome, s.after w, fs'⟩

theorem attempted_attempt [LawfulFileSystem φ] (s : FileStore) (fs : φ) (fault : Option Fault)
    (w : Write) : Attempted s w fs (s.attempt fs fault w) := by
  cases w with
  | set key value => exact .flushed trivial (flushed_flush (s.after (.set key value)) fs fault)
  | remove key =>
    show Attempted s (.remove key) fs (s.remove fs key fault)
    unfold remove
    split
    · rename_i hmem
      exact .flushed hmem (flushed_flush (s.after (.remove key)) fs fault)
    · rename_i hmem
      have hnone : s.entries.find? key = none := by
        rwa [Entries.contains, Option.not_isSome_iff_eq_none] at hmem
      refine .passed hmem ?_
      show { s with entries := s.entries.erase key } = s
      rw [Entries.erase_of_find?_eq_none hnone]

namespace Attempted

variable {s : FileStore} {w : Write} {fs : φ} {c : Changed φ}

theorem store_eq (h : Attempted s w fs c) : c.store = s.after w := by
  cases h with
  | passed _ hsame => exact hsame.symm
  | flushed => rfl

/-- A write that goes to memory alone changes nothing. -/
theorem unchanged (h : Attempted s w fs c) (hsaves : ¬s.Saves w) : c.store = s ∧ c.disk = fs := by
  cases h with
  | passed => exact ⟨rfl, rfl⟩
  | flushed hflush => exact absurd hflush hsaves

/-- On a disk, a write that is saved leaves a file that the store is loaded from. -/
theorem load_of_ok {d : Disk} {c : Changed Disk} (h : Attempted s w d c)
    (hs : s.entries.Ordered) (hok : c.outcome = .ok ()) (hsaves : s.Saves w) :
    load c.disk s.path = c.store := by
  cases h with
  | passed hpassed => exact absurd hsaves hpassed
  | flushed _ hflush =>
    cases hok
    have hload := hflush.load_of_ok (ordered_after hs w)
    rwa [after_path] at hload

end Attempted

/-! ## Stores that have been written to -/

/-- The store has been loaded from the path, and these writes have been asked of it, whatever the
file system was like at each of them and whether or not their flushes were cut short. -/
inductive Reached (path : String) (start : φ) : List Write → FileStore → Prop
  | loaded : Reached path start [] (load start path)
  | attempted {ws : List Write} {s : FileStore} : Reached path start ws s →
      ∀ (fs : φ) (fault : Option Fault) (w : Write),
        Reached path start (ws ++ [w]) (s.attempt fs fault w).store

namespace Reached

variable [LawfulFileSystem φ] {path : String} {start : φ} {ws : List Write} {s : FileStore}

theorem path_eq (h : Reached path start ws s) : s.path = path := by
  induction h with
  | loaded => rfl
  | attempted _ fs fault w ih => rw [(attempted_attempt _ fs fault w).store_eq, after_path, ih]

theorem ordered (h : Reached path start ws s) : s.entries.Ordered := by
  induction h with
  | loaded => exact ordered_load start path
  | attempted _ fs fault w ih =>
    rw [(attempted_attempt _ fs fault w).store_eq]
    exact ordered_after ih w

/-- Memory holds what the writes make of the file, failed ones included. -/
theorem get?_eq (h : Reached path start ws s) : s.get? = Write.onAll ws (stored start path) := by
  induction h with
  | loaded => exact get?_load start path
  | attempted h fs fault w ih =>
    rw [(attempted_attempt _ fs fault w).store_eq, get?_after h.ordered, ih, Write.onAll,
      Write.onAll, List.foldl_append, List.foldl_cons, List.foldl_nil]

end Reached

end FileStore

end DevConsole
