import DevConsole.Proofs.Store.Attempt

/-!
# Reopening a file store

A store that nobody else writes to, and whose writes all succeed, answers as a plain map does, and
it does not matter when it is loaded again. What carries this is that memory is `Synced` with the
file: the store is the one that its path is loaded as. It holds when the store is opened, and each
request that succeeds keeps it, a remove that writes nothing included (`Synced.serve`).
-/

namespace DevConsole

/-- What is asked of a store. -/
inductive Request where
  | write (w : Write)
  | get (key : String)
  /-- To load the path again. -/
  | reopen
  deriving DecidableEq, Repr

/-- What it answers. -/
inductive Reply where
  | done
  | failed (e : Error)
  | found (text : Option String)
  | opened
  deriving DecidableEq, Repr

/-- The answer of a plain map, and the map afterwards. -/
def Request.onMap (map : String → Option String) : Request → Reply × (String → Option String)
  | .write w => (.done, w.on map)
  | .get key => (.found (map key), map)
  | .reopen => (.opened, map)

/-- The answers of a plain map. -/
def Request.repliesOnMap (map : String → Option String) : List Request → List Reply
  | [] => []
  | r :: rs => (r.onMap map).1 :: repliesOnMap (r.onMap map).2 rs

namespace MountedStore

/-- A path opened on a disk. -/
def mount (disk : Disk) (path : String) : MountedStore := ⟨FileStore.load disk path, disk⟩

/-- The answer to a request, and the store and the disk afterwards. -/
def serve (m : MountedStore) : Request → Reply × MountedStore
  | .write w =>
    let c := m.store.attempt m.disk none w
    (match c.outcome with
      | .ok () => .done
      | .error e => .failed e, ⟨c.store, c.disk⟩)
  | .get key => (.found (m.store.get? key), m)
  | .reopen => (.opened, mount m.disk m.store.path)

/-- The answers to requests, one after the other. -/
def replies (m : MountedStore) : List Request → List Reply
  | [] => []
  | r :: rs => (m.serve r).1 :: (m.serve r).2.replies rs

/-- The store and the disk after the requests. -/
def run (m : MountedStore) (rs : List Request) : MountedStore :=
  rs.foldl (fun m r => (m.serve r).2) m

/-- No request fails. -/
def Undisturbed (m : MountedStore) (rs : List Request) : Prop := ∀ e, .failed e ∉ m.replies rs

/-- Memory is what the file holds. -/
structure Synced (m : MountedStore) : Prop where
  load_eq : FileStore.load m.disk m.store.path = m.store
  ordered : m.store.entries.Ordered

variable {m : MountedStore}

theorem synced_mount (disk : Disk) (path : String) : Synced (mount disk path) :=
  ⟨rfl, FileStore.ordered_load disk path⟩

/-- Loading again what is synced changes nothing. -/
theorem Synced.mount_eq (h : Synced m) : mount m.disk m.store.path = m := by
  rw [mount, h.load_eq]

/-- A request that does not fail is answered as by a plain map, and memory stays in step with the
file. -/
theorem Synced.serve (h : Synced m) (r : Request) (hr : ∀ e, (m.serve r).1 ≠ .failed e) :
    Synced (m.serve r).2 ∧ (m.serve r).1 = (r.onMap m.store.get?).1 ∧
      (m.serve r).2.store.get? = (r.onMap m.store.get?).2 ∧
      (m.serve r).2.store.path = m.store.path := by
  cases r with
  | get key => exact ⟨h, rfl, rfl, rfl⟩
  | reopen =>
    have hserve : m.serve .reopen = (.opened, m) := by rw [MountedStore.serve, h.mount_eq]
    rw [hserve]
    exact ⟨h, rfl, rfl, rfl⟩
  | write w =>
    have hattempt := FileStore.attempted_attempt m.store m.disk none w
    have hok : (m.store.attempt m.disk none w).outcome = .ok () := by
      cases hout : (m.store.attempt m.disk none w).outcome with
      | ok => rfl
      | error e =>
        refine absurd ?_ (hr e)
        simp only [MountedStore.serve, hout]
    have hpath : (m.serve (.write w)).2.store.path = m.store.path := by
      rw [MountedStore.serve, hattempt.store_eq, FileStore.after_path]
    refine ⟨⟨?_, ?_⟩, ?_, ?_, hpath⟩
    · -- a remove that does not save leaves the file, malformed as it may be, and memory alone
      rw [hpath]
      by_cases hsaves : m.store.Saves w
      · exact hattempt.load_of_ok h.ordered hok hsaves
      · obtain ⟨hstore, hdisk⟩ := hattempt.unchanged hsaves
        simp only [MountedStore.serve, hstore, hdisk]
        exact h.load_eq
    · rw [MountedStore.serve, hattempt.store_eq]
      exact FileStore.ordered_after h.ordered w
    · simp only [MountedStore.serve, hok]
      rfl
    · rw [MountedStore.serve, hattempt.store_eq]
      exact FileStore.get?_after h.ordered w

theorem Undisturbed.head {r : Request} {rs : List Request} (h : Undisturbed m (r :: rs))
    (e : Error) : (m.serve r).1 ≠ .failed e := fun heq => h e (heq ▸ List.mem_cons_self)

theorem Undisturbed.tail {r : Request} {rs : List Request} (h : Undisturbed m (r :: rs)) :
    Undisturbed (m.serve r).2 rs := fun e hmem => h e (List.mem_cons_of_mem _ hmem)

theorem Synced.replies_eq (h : Synced m) {rs : List Request} (hrs : Undisturbed m rs) :
    m.replies rs = Request.repliesOnMap m.store.get? rs := by
  induction rs generalizing m with
  | nil => rfl
  | cons r rs ih =>
    obtain ⟨hsynced, hreply, hmap, -⟩ := h.serve r hrs.head
    rw [replies, Request.repliesOnMap, ih hsynced hrs.tail, hreply, hmap]

theorem Synced.run (h : Synced m) {before after : List Request}
    (hrs : Undisturbed m (before ++ after)) :
    Synced (m.run before) ∧ (m.run before).store.path = m.store.path := by
  induction before generalizing m with
  | nil => exact ⟨h, rfl⟩
  | cons r before ih =>
    obtain ⟨hsynced, -, -, hpath⟩ := h.serve r hrs.head
    obtain ⟨hrun, hrunPath⟩ := ih hsynced hrs.tail
    exact ⟨hrun, hrunPath.trans hpath⟩

theorem replies_append (m : MountedStore) (before after : List Request) :
    m.replies (before ++ after) = m.replies before ++ (m.run before).replies after := by
  induction before generalizing m with
  | nil => rfl
  | cons r before ih =>
    rw [List.cons_append, replies, ih, replies, List.cons_append]
    rfl

/-- As long as no request fails, a store answers as a plain map that starts with what the path
holds, and loading the path again in between leaves the store as it is and changes no other
answer. -/
theorem replies_mount (disk : Disk) (path : String) (rs : List Request)
    (h : Undisturbed (mount disk path) rs) :
    (mount disk path).replies rs = Request.repliesOnMap (FileStore.stored disk path) rs ∧
      ∀ before after, rs = before ++ after →
        let m := (mount disk path).run before
        mount m.disk path = m ∧
          (mount disk path).replies (before ++ .reopen :: after) =
            (mount disk path).replies before ++ .opened :: m.replies after := by
  have hsynced := synced_mount disk path
  refine ⟨?_, ?_⟩
  · rw [hsynced.replies_eq h]
    exact congrArg (Request.repliesOnMap · rs) (FileStore.get?_load disk path)
  · rintro before after rfl
    obtain ⟨hrun, hpath⟩ := hsynced.run h
    have hmount := hrun.mount_eq
    rw [hpath] at hmount
    refine ⟨hmount, ?_⟩
    have hserve : ((mount disk path).run before).serve .reopen =
        (.opened, (mount disk path).run before) := by rw [serve, hrun.mount_eq]
    rw [replies_append, replies, hserve]

/-- A malformed file stays until the first write that saves. -/
theorem replies_mount_malformed :
    let disk : Disk := [("s.json", .file "[1]")]
    let rs : List Request := [.get "k", .write (.remove "k"), .reopen, .write (.set "k" "\"\n"),
      .reopen, .get "k", .write (.remove "k"), .reopen, .get "k"]
    Undisturbed (mount disk "s.json") rs ∧
      (mount disk "s.json").replies rs =
        Request.repliesOnMap (FileStore.stored disk "s.json") rs := by
  intro disk rs
  have hreplies : (mount disk "s.json").replies rs =
      [.found none, .done, .opened, .done, .opened, .found (some "\"\n"), .done, .opened,
        .found none] := by
    decide +kernel
  have hrs : Undisturbed (mount disk "s.json") rs := by
    intro e
    rw [hreplies]
    simp
  exact ⟨hrs, (replies_mount disk "s.json" rs hrs).1⟩

end MountedStore

end DevConsole
