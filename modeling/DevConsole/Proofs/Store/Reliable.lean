import DevConsole.Store.Memory
import DevConsole.Store.File

/-!
# Reliable stores

`Backend.Reliable up`: as long as a backend is `up`, a text that is written is found again, and the
backend stays up. The store in memory is reliable while its switches are off. The store in a file
answers from memory and is reliable in any case, even if the file cannot be written.
-/

namespace DevConsole

variable {σ : Type} [Backend σ]

/-- What is written to a backend that is up is there to be read. -/
structure Backend.Reliable (up : σ → Prop) : Prop where
  set_up : ∀ {b : σ}, up b → ∀ key value, up (Backend.set b key value).2
  get_set : ∀ {b : σ}, up b → ∀ key value,
    Backend.get (Backend.set b key value).2 key = .ok (some value)

namespace Store

variable {up : σ → Prop} {s : Store σ}

theorem get?_set (h : Backend.Reliable up) (hs : up s.backend) (key value : String) :
    (s.set key value).get? key = some value := by
  rw [get?, set, h.get_set hs]

end Store

theorem MemoryStore.reliable :
    Backend.Reliable fun m : MemoryStore => m.failReads = false ∧ m.failWrites = false where
  set_up := by
    rintro m ⟨hr, hw⟩ key value
    simp [Backend.set, change, hr, hw]
  get_set := by
    rintro m ⟨hr, hw⟩ key value
    simp [Backend.set, Backend.get, change, get, hr, hw, Entries.find?_insert]

theorem MountedStore.reliable : Backend.Reliable fun _ : MountedStore => True where
  set_up _ _ _ := trivial
  get_set _ key value := by
    simp [Backend.set, Backend.get, FileStore.set, FileStore.get?, Entries.find?_insert]

end DevConsole
