import DevConsole.Proofs.Store.Attempt

/-!
# Writes that succeed

On a disk, a write that succeeds is found again when the path is loaded, if it went to the file or
if memory and file agreed before (`Reached.durable_iff`). But a write that succeeds need not go to
the file: removing a name that is not in memory leaves the file alone, even if the file is behind
(`remove_retried`).
-/

namespace DevConsole.FileStore

/-- A write that succeeds is found again when the path is loaded, if it goes to the file or if
memory and file agreed before. -/
theorem Reached.durable_iff {path : String} {start d : Disk} {ws : List Write} {s : FileStore}
    (h : Reached path start ws s) {fault : Option Fault} {w : Write}
    (hok : (s.attempt d fault w).outcome = .ok ()) :
    load (s.attempt d fault w).disk path = (s.attempt d fault w).store ↔
      s.Saves w ∨ load d path = s := by
  have hattempt := attempted_attempt s d fault w
  -- a write that goes to memory alone is as durable as what was there before it
  by_cases hsaves : s.Saves w
  · have hload := hattempt.load_of_ok h.ordered hok hsaves
    rw [h.path_eq] at hload
    exact ⟨fun _ => .inl hsaves, fun _ => hload⟩
  · obtain ⟨hstore, hdisk⟩ := hattempt.unchanged hsaves
    rw [hstore, hdisk]
    exact ⟨.inr, fun h => h.resolve_left hsaves⟩

theorem eq_ok_of_isOk {outcome : Except Error Unit} (h : outcome.isOk = true) :
    outcome = .ok () := by
  cases outcome with
  | ok _ => rfl
  | error _ => cases h

/-- After a first write all of memory is in the file. -/
theorem durable_set :
    let d : Disk := []
    let c := (load d "s.json").attempt d none (.set "k" "v")
    Reached "s.json" d [] (load d "s.json") ∧ c.outcome = .ok () ∧
      (load c.disk "s.json" = c.store ↔
        (load d "s.json").Saves (.set "k" "v") ∨ load d "s.json" = load d "s.json") := by
  intro d
  have hok := eq_ok_of_isOk
    (show ((load d "s.json").attempt d none (.set "k" "v")).outcome.isOk = true by decide +kernel)
  exact ⟨.loaded, hok, Reached.loaded.durable_iff hok⟩

/-- A file that no scratch file can be written for: without its extension the name of the file would
be a point. -/
def unwritable : Disk := [("..s", .file "\x7b\"k\":\"v\"\x7d")]

/-- A remove that failed is repeated and succeeds, and the text is still in the file. -/
theorem remove_retried :
    let s := load unwritable "..s"
    let c := s.attempt unwritable none (.remove "k")
    let c' := c.store.attempt c.disk none (.remove "k")
    Reached "..s" unwritable [.remove "k"] c.store ∧ c.outcome ≠ .ok () ∧ c'.outcome = .ok () ∧
      c'.store.get? "k" = none ∧ (load c'.disk "..s").get? "k" = some "v" ∧
      load c'.disk "..s" ≠ c'.store := by
  refine ⟨Reached.loaded.attempted _ _ _, ?_, eq_ok_of_isOk (by decide +kernel), ?_, ?_, ?_⟩
  · exact fun h => absurd (congrArg Except.isOk h) (by decide +kernel)
  · decide +kernel
  · decide +kernel
  · exact fun h => absurd (congrArg (fun s => s.get? "k") h) (by decide +kernel)

end DevConsole.FileStore
