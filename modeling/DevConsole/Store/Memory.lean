import DevConsole.Store.Basic

/-!
# A store in memory

Keeps its entries as long as the program runs. Two switches make its reads or its writes fail, a
failed write changes nothing.
-/

namespace DevConsole

structure MemoryStore where
  entries : Entries String := []
  failReads : Bool := false
  failWrites : Bool := false
  deriving Repr

namespace MemoryStore

def get (m : MemoryStore) (key : String) : Except Error (Option String) :=
  if m.failReads then .error (.store "reads fail") else .ok (m.entries.find? key)

/-- Applies a change to the entries unless writes fail. -/
def change (m : MemoryStore) (f : Entries String → Entries String) :
    Except Error Unit × MemoryStore :=
  if m.failWrites then (.error (.store "writes fail"), m)
  else (.ok (), { m with entries := f m.entries })

instance : Backend MemoryStore where
  get := get
  set m key value := m.change (Entries.insert key value)
  remove m key := m.change (Entries.erase key)

end MemoryStore

end DevConsole
