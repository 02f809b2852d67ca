import DevConsole.Command.Action
import DevConsole.Proofs.Files.Operations

/-!
# What an action comes to

`Action.Meets a m accepted refused`: run on the machine `m`, the action `a` ends as asked. If it
gives a value, `accepted` holds of the value and of the machine after it; if it is refused,
`refused` holds of the error and of the machine after it. Nothing is asked of an action that aborts.

There is one equation for every way to build an action, so that `simp` with these equations turns
the statement about a command into statements about the data it reads.

`Action.Completes a m accepted` says that the action does not abort, and is opened up in the same
way. `Meets` and `Completes` together tell all that an action comes to.
-/

namespace DevConsole.Action

open Files Net

variable {σ ν α β : Type}

def Meets (a : Action σ ν α) (m : Machine σ ν) (accepted : α → Machine σ ν → Prop)
    (refused : Error → Machine σ ν → Prop) : Prop :=
  match a m with
  | .ok x m' => accepted x m'
  | .error (.refused e) m' => refused e m'
  | .error (.aborted _) _ => True

variable {m m' : Machine σ ν} {A A' : α → Machine σ ν → Prop} {B : β → Machine σ ν → Prop}
  {R R' : Error → Machine σ ν → Prop}

theorem Meets.of_ok {a : Action σ ν α} {x : α} (h : a.Meets m A R) (hr : a m = .ok x m') :
    A x m' := by
  rw [Meets, hr] at h
  exact h

theorem Meets.of_refused {a : Action σ ν α} {e : Error} (h : a.Meets m A R)
    (hr : a m = .error (.refused e) m') : R e m' := by
  rw [Meets, hr] at h
  exact h

/-- The error that an action is refused with. -/
def refusal? (a : Action σ ν α) (m : Machine σ ν) : Option Error :=
  match a m with
  | .error (.refused e) _ => some e
  | _ => none

theorem exists_of_refusal? {a : Action σ ν α} {e : Error} (h : a.refusal? m = some e) :
    ∃ m', a m = .error (.refused e) m' := by
  unfold refusal? at h
  split at h
  · rename_i e' m' hrun
    cases h
    exact ⟨m', hrun⟩
  · cases h

theorem refusal?_of_eq {a : Action σ ν α} {e : Error} (h : a m = .error (.refused e) m') :
    a.refusal? m = some e := by rw [refusal?, h]

theorem Meets.mono {a : Action σ ν α} (h : a.Meets m A R) (ha : ∀ x m', A x m' → A' x m')
    (hr : ∀ e m', R e m' → R' e m') : a.Meets m A' R' := by
  unfold Meets at h ⊢
  split
  · rename_i hrun
    rw [hrun] at h
    exact ha _ _ h
  · rename_i hrun
    rw [hrun] at h
    exact hr _ _ h
  · trivial

/-! ## Control -/

@[simp] theorem meets_pure (x : α) : (pure x : Action σ ν α).Meets m A R ↔ A x m := .rfl

@[simp] theorem meets_bind (a : Action σ ν α) (f : α → Action σ ν β) :
    (a >>= f).Meets m B R ↔ a.Meets m (fun x m' => (f x).Meets m' B R) R := by
  simp only [Meets, bind, EStateM.bind]
  cases a m with
  | ok x m' => rfl
  | error stop m' => cases stop <;> rfl

@[simp] theorem meets_map (f : α → β) (a : Action σ ν α) :
    (f <$> a).Meets m B R ↔ a.Meets m (fun x m' => B (f x) m') R := by
  simp only [Meets, Functor.map, EStateM.map]
  cases a m with
  | ok x m' => rfl
  | error stop m' => cases stop <;> rfl

@[simp] theorem meets_refuse (e : Error) : (refuse e : Action σ ν α).Meets m A R ↔ R e m := .rfl

@[simp] theorem meets_refuseUsage (text : String) :
    (refuseUsage text : Action σ ν α).Meets m A R ↔ R (.usage text) m := .rfl

@[simp] theorem meets_ofExcept (r : Except Error α) :
    (ofExcept r : Action σ ν α).Meets m A R ↔
      (∀ x, r = .ok x → A x m) ∧ ∀ e, r = .error e → R e m := by
  cases r <;> simp [ofExcept]

@[simp] theorem meets_ofAbort (r : Except Abort α) :
    (ofAbort r : Action σ ν α).Meets m A R ↔ ∀ x, r = .ok x → A x m := by
  cases r with
  | ok x => simp [ofAbort]
  | error a => exact iff_of_true trivial fun _ h => by cases h

@[simp] theorem meets_required (o : Option α) (text : String) :
    (required o text : Action σ ν α).Meets m A R ↔
      (∀ x, o = some x → A x m) ∧ (o = none → R (.usage text) m) := by
  cases o <;> simp [required]

/-! ## Operations on parts -/

@[simp] theorem meets_get {A : Machine σ ν → Machine σ ν → Prop} :
    (get : Action σ ν (Machine σ ν)).Meets m A R ↔ A m m := .rfl

@[simp] theorem meets_set {A : PUnit → Machine σ ν → Prop} :
    (set m' : Action σ ν PUnit).Meets m A R ↔ A ⟨⟩ m' := .rfl

@[simp] theorem meets_onSession {A : Unit → Machine σ ν → Prop} (f : Session → Session) :
    (onSession f).Meets m A R ↔ A () { m with session := f m.session } := .rfl

@[simp] theorem meets_onStore {A : Unit → Machine σ ν → Prop} (f : Store σ → Store σ) :
    (onStore f).Meets m A R ↔ A () { m with store := f m.store } := .rfl

@[simp] theorem meets_onScheduler (f : Scheduler → α × Scheduler) :
    (onScheduler f).Meets m A R ↔
      A (f m.scheduler).1 { m with scheduler := (f m.scheduler).2 } := .rfl

@[simp] theorem meets_onRandom (f : Random → α × Random) :
    (onRandom f).Meets m A R ↔ A (f m.random).1 { m with random := (f m.random).2 } := .rfl

@[simp] theorem meets_onNetwork (f : Network ν → α × Network ν) :
    (onNetwork f).Meets m A R ↔ A (f m.network).1 { m with network := (f m.network).2 } := .rfl

@[simp] theorem meets_readTree (f : Tree → Except FileError α) :
    (readTree f).Meets m A R ↔
      (∀ x, f m.volume.tree = .ok x → A x m) ∧
        ∀ e, f m.volume.tree = .error e → R (.files e) m := by
  simp only [readTree, meets_bind, meets_get, meets_ofExcept]
  cases f m.volume.tree <;> simp [Except.mapError]

/-- A change is accepted with the new tree saved, or refused with nothing changed. -/
theorem meets_perform [Backend σ] {A : Unit → Machine σ ν → Prop} (c : Change) :
    (onVolume c.perform).Meets m A R ↔
      (∀ tree, m.volume.tree.change c = .ok tree →
        A () { m with volume := (m.volume.commit tree m.store).1
                      store := (m.volume.commit tree m.store).2 }) ∧
        ∀ e, m.volume.tree.change c = .error e → R (.files e) m := by
  simp only [Meets, onVolume, Change.perform_eq_change]
  cases m.volume.tree.change c <;> simp

@[simp] theorem meets_writeFile [Backend σ] {A : Unit → Machine σ ν → Prop} (cwd : Path)
    (name content : String) :
    (onVolume (Volume.writeFile cwd name content)).Meets m A R ↔
      (∀ tree, m.volume.tree.change ⟨cwd, name, .writeFile content⟩ = .ok tree →
        A () { m with volume := (m.volume.commit tree m.store).1
                      store := (m.volume.commit tree m.store).2 }) ∧
        ∀ e, m.volume.tree.change ⟨cwd, name, .writeFile content⟩ = .error e → R (.files e) m :=
  meets_perform ⟨cwd, name, .writeFile content⟩

@[simp] theorem meets_enter {A : Unit → Machine σ ν → Prop} (text : String) :
    (onDirectory (·.enter text)).Meets m A R ↔
      (∀ target, m.volume.tree.changeDirectory m.session.cwd text = .ok target →
        A () { m with session := { m.session with cwd := target } }) ∧
        ∀ e, m.volume.tree.changeDirectory m.session.cwd text = .error e → R (.files e) m := by
  simp only [Meets, onDirectory, Tree.enter_eq]
  cases m.volume.tree.changeDirectory m.session.cwd text <;> simp

@[simp] theorem meets_price [Client ν] {A : Except Error Float → Machine σ ν → Prop}
    (symbol : String) :
    (price symbol).Meets m A R ↔
      A (m.network.price symbol).1 { m with network := (m.network.price symbol).2 } := .rfl

/-- What every step of a loop keeps, the whole loop keeps. -/
theorem meets_mapM {I : Machine σ ν → Prop} {f : α → Action σ ν β}
    (hf : ∀ x m, I m → (f x).Meets m (fun _ m' => I m') R) (xs : List α) (hm : I m) :
    (xs.mapM f).Meets m (fun _ m' => I m') R := by
  induction xs generalizing m with
  | nil => simpa using hm
  | cons x xs ih =>
    rw [List.mapM_cons, meets_bind]
    refine (hf x m hm).mono (fun _ m' hm' => ?_) fun _ _ hr => hr
    rw [meets_bind]
    exact (ih hm').mono (fun _ _ h => h) fun _ _ hr => hr

/-! ## Actions that do not abort -/

/-- The action does not abort, and `accepted` holds of the value that it gives, if it gives one. -/
def Completes (a : Action σ ν α) (m : Machine σ ν) (accepted : α → Machine σ ν → Prop) : Prop :=
  match a m with
  | .ok x m' => accepted x m'
  | .error (.refused _) _ => True
  | .error (.aborted _) _ => False

theorem Completes.ne_aborted {a : Action σ ν α} (h : a.Completes m A) (why : Abort) :
    a m ≠ .error (.aborted why) m' := by
  intro hrun
  rw [Completes, hrun] at h
  exact h

theorem completes_iff_ne_aborted {a : Action σ ν α} :
    a.Completes m (fun _ _ => True) ↔ ∀ why m', a m ≠ .error (.aborted why) m' := by
  refine ⟨fun h why m' => h.ne_aborted why, fun h => ?_⟩
  unfold Completes
  split
  · trivial
  · trivial
  · rename_i hrun
    exact h _ _ hrun

@[simp] theorem completes_pure (x : α) : (pure x : Action σ ν α).Completes m A ↔ A x m := .rfl

@[simp] theorem completes_bind (a : Action σ ν α) (f : α → Action σ ν β) :
    (a >>= f).Completes m B ↔ a.Completes m fun x m' => (f x).Completes m' B := by
  simp only [Completes, bind, EStateM.bind]
  cases a m with
  | ok x m' => rfl
  | error stop m' => cases stop <;> rfl

@[simp] theorem completes_map (f : α → β) (a : Action σ ν α) :
    (f <$> a).Completes m B ↔ a.Completes m fun x m' => B (f x) m' := by
  simp only [Completes, Functor.map, EStateM.map]
  cases a m with
  | ok x m' => rfl
  | error stop m' => cases stop <;> rfl

@[simp] theorem completes_refuseUsage (text : String) :
    (refuseUsage text : Action σ ν α).Completes m A := trivial

@[simp] theorem completes_ofAbort (r : Except Abort α) :
    (ofAbort r : Action σ ν α).Completes m A ↔ ∃ x, r = .ok x ∧ A x m := by
  cases r with
  | ok x => simp [ofAbort]
  | error why => exact iff_of_false id fun ⟨_, h, _⟩ => nomatch h

@[simp] theorem completes_required (o : Option α) (text : String) :
    (required o text : Action σ ν α).Completes m A ↔ ∀ x, o = some x → A x m := by
  cases o <;> simp [required]

@[simp] theorem completes_get {A : Machine σ ν → Machine σ ν → Prop} :
    (get : Action σ ν (Machine σ ν)).Completes m A ↔ A m m := .rfl

@[simp] theorem completes_set {A : PUnit → Machine σ ν → Prop} :
    (set m' : Action σ ν PUnit).Completes m A ↔ A ⟨⟩ m' := .rfl

@[simp] theorem completes_onSession {A : Unit → Machine σ ν → Prop} (f : Session → Session) :
    (onSession f).Completes m A ↔ A () { m with session := f m.session } := .rfl

@[simp] theorem completes_onStore {A : Unit → Machine σ ν → Prop} (f : Store σ → Store σ) :
    (onStore f).Completes m A ↔ A () { m with store := f m.store } := .rfl

@[simp] theorem completes_onScheduler (f : Scheduler → α × Scheduler) :
    (onScheduler f).Completes m A ↔
      A (f m.scheduler).1 { m with scheduler := (f m.scheduler).2 } := .rfl

@[simp] theorem completes_ofExcept (r : Except Error α) :
    (ofExcept r : Action σ ν α).Completes m A ↔ ∀ x, r = .ok x → A x m := by
  cases r with
  | ok x => simp [ofExcept]
  | error e => exact iff_of_true trivial fun _ h => by cases h

@[simp] theorem completes_readTree (f : Tree → Except FileError α) :
    (readTree f).Completes m A ↔ ∀ x, f m.volume.tree = .ok x → A x m := by
  simp only [readTree, completes_bind, completes_get, completes_ofExcept]
  cases f m.volume.tree <;> simp [Except.mapError]

@[simp] theorem completes_onVolume (f : Operation σ α) :
    (onVolume f).Completes m A ↔ ∀ x p, f (m.volume, m.store) = .ok x p →
      A x { m with volume := p.1, store := p.2 } := by
  simp only [Completes, onVolume]
  cases f (m.volume, m.store) <;> simp

@[simp] theorem completes_price [Client ν] {A : Except Error Float → Machine σ ν → Prop}
    (symbol : String) :
    (price symbol).Completes m A ↔
      A (m.network.price symbol).1 { m with network := (m.network.price symbol).2 } := .rfl

end DevConsole.Action
