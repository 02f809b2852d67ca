import DevConsole.Proofs.Entries
import DevConsole.Proofs.Store.Reliable
import DevConsole.Store.File
import DevConsole.Store.Memory

/-!
# Calls of a store

`Store.calls` puts writes to a store, one after the other. The log grows by exactly these
(`log_calls`), so that what a store has been asked between two moments can be told from it.

A failed write may change a backend all the same. `Backend.Separate` is what is needed for a name
that is not written to keep its text: a write, failed or not, leaves the other names alone. The
store in memory and the store in a file are separate. A backend that is reliable besides, and that
nothing written to it takes down, is `Backend.Dependable`. If it also forgets what is removed, it is
`Backend.Faithful`; both stores are, as long as their entries are in order.
-/

namespace DevConsole

namespace Store

variable {σ : Type} [Backend σ] {s : Store σ}

/-- The store after a write has been asked of it. -/
def call (s : Store σ) : Write → Store σ
  | .set key value => s.set key value
  | .remove key => s.remove key

/-- The store after writes have been asked of it, in order. -/
def calls (s : Store σ) (ws : List Write) : Store σ := ws.foldl call s

@[simp] theorem calls_nil (s : Store σ) : s.calls [] = s := rfl

@[simp] theorem calls_cons (s : Store σ) (w : Write) (ws : List Write) :
    s.calls (w :: ws) = (s.call w).calls ws := rfl

theorem log_call (s : Store σ) (w : Write) : (s.call w).log = s.log ++ [w] := by cases w <;> rfl

theorem log_calls (s : Store σ) (ws : List Write) : (s.calls ws).log = s.log ++ ws := by
  induction ws generalizing s with
  | nil => simp
  | cons w ws ih => rw [calls_cons, ih, log_call, List.append_assoc, List.singleton_append]

end Store

/-- A write leaves the texts under other names alone, whether it fails or not. -/
structure Backend.Separate (σ : Type) [Backend σ] : Prop where
  get_set : ∀ (b : σ) {key other : String} (value : String), other ≠ key →
    Backend.get (Backend.set b key value).2 other = Backend.get b other
  get_remove : ∀ (b : σ) {key other : String}, other ≠ key →
    Backend.get (Backend.remove b key).2 other = Backend.get b other

namespace Store

variable {σ : Type} [Backend σ] {s : Store σ}

theorem get?_set_of_ne (h : Backend.Separate σ) {key other : String} (value : String)
    (hne : key ≠ other) : (s.set key value).get? other = s.get? other := by
  simp only [get?, set, h.get_set s.backend value hne.symm]

theorem get?_remove_of_ne (h : Backend.Separate σ) {key other : String} (hne : key ≠ other) :
    (s.remove key).get? other = s.get? other := by
  simp only [get?, remove, h.get_remove s.backend hne.symm]

theorem get?_call (h : Backend.Separate σ) {w : Write} {key : String} (hw : w.key ≠ key) :
    (s.call w).get? key = s.get? key := by
  cases w with
  | set name value => exact get?_set_of_ne h value hw
  | remove name => exact get?_remove_of_ne h hw

theorem get?_calls (h : Backend.Separate σ) {ws : List Write} {key : String}
    (hw : ∀ w ∈ ws, w.key ≠ key) : (s.calls ws).get? key = s.get? key := by
  induction ws generalizing s with
  | nil => rfl
  | cons w ws ih =>
    rw [calls_cons, ih fun w' hw' => hw w' (List.mem_cons_of_mem _ hw'),
      get?_call h (hw w List.mem_cons_self)]

/-- A text that is different afterwards has been written. -/
theorem exists_of_get?_calls_ne (h : Backend.Separate σ) {ws : List Write} {key : String}
    (hne : (s.calls ws).get? key ≠ s.get? key) : ∃ w ∈ ws, w.key = key :=
  Classical.byContradiction fun hnone =>
    hne (get?_calls h fun w hw hkey => hnone ⟨w, hw, hkey⟩)

end Store

theorem MemoryStore.separate : Backend.Separate MemoryStore where
  get_set b key other value hne := by
    simp only [Backend.set, Backend.get, change, get]
    split
    · rfl
    · rw [Entries.find?_insert, if_neg hne]
  get_remove b key other hne := by
    simp only [Backend.remove, Backend.get, change, get]
    split
    · rfl
    · rw [Entries.find?_erase_of_ne hne]

theorem MountedStore.separate : Backend.Separate MountedStore where
  get_set b key other value hne := by
    simp [Backend.set, Backend.get, FileStore.set, FileStore.get?, Entries.find?_insert, hne]
  get_remove b key other hne := by
    simp only [Backend.remove, Backend.get, FileStore.remove, FileStore.get?]
    split
    · rw [Entries.find?_erase_of_ne hne]
    · rfl

/-! ## Dependable stores -/

/-- A backend that is up answers with what was last written under a name, and stays up. -/
structure Backend.Dependable {σ : Type} [Backend σ] (up : σ → Prop) : Prop where
  reliable : Backend.Reliable up
  separate : Backend.Separate σ
  remove_up : ∀ {b : σ}, up b → ∀ key, up (Backend.remove b key).2

theorem Store.up_calls {σ : Type} [Backend σ] {up : σ → Prop} {s : Store σ}
    (h : Backend.Dependable up) (hs : up s.backend) (ws : List Write) :
    up (s.calls ws).backend := by
  induction ws generalizing s with
  | nil => exact hs
  | cons w ws ih =>
    cases w with
    | set key value => exact ih (h.reliable.set_up hs key value)
    | remove key => exact ih (h.remove_up hs key)

theorem MemoryStore.dependable :
    Backend.Dependable fun m : MemoryStore => m.failReads = false ∧ m.failWrites = false where
  reliable := reliable
  separate := separate
  remove_up := by
    rintro m ⟨hr, hw⟩ key
    simp [Backend.remove, change, hr, hw]

theorem MountedStore.dependable : Backend.Dependable fun _ : MountedStore => True where
  reliable := reliable
  separate := separate
  remove_up _ _ := trivial

/-! ## Faithful stores -/

/-- A dependable backend that finds nothing under a name that has been removed. -/
structure Backend.Faithful {σ : Type} [Backend σ] (up : σ → Prop) : Prop
    extends Backend.Dependable up where
  get_removed : ∀ {b : σ}, up b → ∀ key, Backend.get (Backend.remove b key).2 key = .ok none

theorem Store.get?_remove {σ : Type} [Backend σ] {up : σ → Prop} {s : Store σ}
    (h : Backend.Faithful up) (hs : up s.backend) (key : String) :
    (s.remove key).get? key = none := by
  rw [get?, remove, h.get_removed hs]

theorem MemoryStore.faithful :
    Backend.Faithful fun m : MemoryStore =>
      (m.failReads = false ∧ m.failWrites = false) ∧ m.entries.Ordered where
  reliable.set_up := by
    rintro m ⟨hup, hm⟩ key value
    refine ⟨reliable.set_up hup key value, ?_⟩
    simpa [Backend.set, change, hup.2] using hm.insert key value
  reliable.get_set hup := reliable.get_set hup.1
  separate := separate
  remove_up := by
    rintro m ⟨hup, hm⟩ key
    refine ⟨dependable.remove_up hup key, ?_⟩
    simpa [Backend.remove, change, hup.2] using hm.erase key
  get_removed := by
    rintro m ⟨⟨hr, hw⟩, hm⟩ key
    simp [Backend.remove, Backend.get, change, get, hr, hw, hm.find?_erase_self]

theorem MountedStore.faithful :
    Backend.Faithful fun m : MountedStore => m.store.entries.Ordered where
  reliable.set_up hm key value := hm.insert key value
  reliable.get_set _ := reliable.get_set trivial
  separate := separate
  remove_up := by
    intro m hm key
    simp only [Backend.remove, FileStore.remove]
    split
    · exact hm.erase key
    · exact hm
  get_removed := by
    intro m hm key
    simp only [Backend.remove, Backend.get, FileStore.remove, FileStore.get?]
    split
    · rw [hm.find?_erase_self]
    · rename_i hnone
      simpa [Entries.contains] using hnone

end DevConsole
