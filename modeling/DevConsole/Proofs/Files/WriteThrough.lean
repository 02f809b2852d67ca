import DevConsole.Proofs.Files.Operations

/-!
# Writing through

A `Workspace` is a volume with a store and somebody's working directory, a `Request` what can be
asked there, and `Workspace.turns` what comes of one request after the other. Nothing is assumed of
the store: every backend is allowed, with any pattern of failing reads and writes.

`Turn.WriteThrough` says what one request does to an attached volume and to the store: a refused one
does nothing at all, an accepted change is followed by exactly one write, of the whole new document,
and nothing else writes. The store has no say in what is answered and what the tree becomes: a run
without one gives the same outcomes, since detaching commutes with every request (`next_detach`).
-/

namespace DevConsole.Files

inductive Request where
  | change (c : Change)
  /-- Moves the working directory. -/
  | move (text : String)
  | list (p : Path)
  | read (p : Path)
  | walk (p : Path)
  | contains (p : Path)
  | isDirectory (p : Path)
  | nodeCount
  | document

inductive Answer where
  | done
  | refused (e : FileError)
  | listing (rows : List Listed)
  | content (text : String)
  | visits (rows : List Visited)
  | truth (b : Bool)
  | count (n : Nat)
  | document (d : Document)

/-- The answer that carries a value, or the refusal. -/
def Answer.ofExcept {α : Type} (f : α → Answer) : Except FileError α → Answer
  | .ok a => f a
  | .error e => .refused e

/-- Whether a request only asks. -/
def Request.isQuery : Request → Bool
  | .change _ | .move _ => false
  | _ => true

/-- What a tree answers to someone in `cwd`. -/
def Tree.answer (t : Tree) (cwd : Path) : Request → Answer
  | .change c => .ofExcept (fun _ => .done) (t.change c)
  | .move text => .ofExcept (fun _ => .done) (t.changeDirectory cwd text)
  | .list p => .ofExcept .listing (t.list p)
  | .read p => .ofExcept .content (t.read p)
  | .walk p => .ofExcept .visits (t.walk p)
  | .contains p => .truth (t.contains p)
  | .isDirectory p => .truth (t.isDirectory p)
  | .nodeCount => .count t.nodeCount
  | .document => .document t.toDocument

structure Workspace (σ : Type) where
  volume : Volume
  cwd : Path
  store : Store σ

/-- A request with its answer, and the workspace before and after it. -/
structure Turn (σ : Type) where
  request : Request
  answer : Answer
  before : Workspace σ
  after : Workspace σ

namespace Workspace

variable {σ τ α : Type}

/-- Runs an operation on the volume and the store. -/
def onVolume (f : Operation σ α) : EStateM FileError (Workspace σ) α := fun w =>
  match f (w.volume, w.store) with
  | .ok a (volume, store) => .ok a { w with volume, store }
  | .error e (volume, store) => .error e { w with volume, store }

/-- Works on the working directory, with the tree at hand. -/
def onDirectory (f : Tree → EStateM FileError Path α) : EStateM FileError (Workspace σ) α :=
  fun w =>
    match f w.volume.tree w.cwd with
    | .ok a cwd => .ok a { w with cwd }
    | .error e cwd => .error e { w with cwd }

variable [Backend σ] [Backend τ]

/-- Runs the operation that is asked for. -/
def perform : Request → EStateM FileError (Workspace σ) Answer
  | .change c => do
    onVolume c.perform
    return .done
  | .move text => do
    onDirectory (·.enter text)
    return .done
  | .list p => return .listing (← onVolume (Volume.ask (·.list p)))
  | .read p => return .content (← onVolume (Volume.ask (·.read p)))
  | .walk p => return .visits (← onVolume (Volume.ask (·.walk p)))
  | .contains p => return .truth ((← get).volume.tree.contains p)
  | .isDirectory p => return .truth ((← get).volume.tree.isDirectory p)
  | .nodeCount => return .count (← get).volume.tree.nodeCount
  | .document => return .document (← get).volume.tree.toDocument

/-- What comes of a request; a refusal leaves what the operation had changed by then. -/
def turn (w : Workspace σ) (r : Request) : Turn σ :=
  match perform r w with
  | .ok answer after => ⟨r, answer, w, after⟩
  | .error e after => ⟨r, .refused e, w, after⟩

/-- The workspace after a request. -/
def next (w : Workspace σ) (r : Request) : Workspace σ := (w.turn r).after

/-- Requests one after the other. -/
def turns (w : Workspace σ) : List Request → List (Turn σ)
  | [] => []
  | r :: rs => w.turn r :: (w.next r).turns rs

/-- The same tree and working directory without a store attached. Another one lies beside them. -/
def detach (w : Workspace σ) (s : Store τ) : Workspace τ :=
  ⟨{ w.volume with attached := false }, w.cwd, s⟩

end Workspace

namespace Turn

variable {σ : Type} [Backend σ]

/-- What comes of a request, apart from the store. -/
def outcome (t : Turn σ) : Answer × Tree × Path := (t.answer, t.after.volume.tree, t.after.cwd)

/-- What a request does to an attached volume, its store and the working directory. -/
structure WriteThrough (t : Turn σ) : Prop where
  /-- A refusal changes neither tree, working directory nor store, and asks no write. -/
  refused : ∀ e, t.answer = .refused e → t.after = t.before
  /-- A change is accepted or refused. -/
  answered : ∀ c, t.request = .change c → t.answer = .done ∨ ∃ e, t.answer = .refused e
  /-- An accepted change puts one text into the store, that of the new document. -/
  saved : ∀ c, t.request = .change c → t.answer = .done →
    t.after.store = t.before.store.set Key.fs t.after.volume.tree.toDocument.render ∧
      t.after.store.log =
        t.before.store.log ++ [.set Key.fs t.after.volume.tree.toDocument.render]
  /-- A change leaves the working directory where it is. -/
  stays : ∀ c, t.request = .change c → t.after.cwd = t.before.cwd
  /-- A move changes nothing but the working directory. -/
  moved : ∀ text, t.request = .move text → t.after = { t.before with cwd := t.after.cwd }
  query : t.request.isQuery = true → t.after = t.before

end Turn

namespace Workspace

variable {σ τ : Type} [Backend σ] [Backend τ] {w : Workspace σ}

/-- The workspace after a tree has been put in place and saved. -/
def committed (w : Workspace σ) (tree : Tree) : Workspace σ :=
  { w with
    volume := (w.volume.commit tree w.store).1
    store := (w.volume.commit tree w.store).2 }

/-- A change that is accepted has saved its tree, a refused one has done nothing. -/
theorem turn_change (w : Workspace σ) (c : Change) :
    w.turn (.change c) =
      match w.volume.tree.change c with
      | .ok tree => ⟨.change c, .done, w, w.committed tree⟩
      | .error e => ⟨.change c, .refused e, w, w⟩ := by
  have hrun := c.perform_eq_change w.volume w.store
  cases h : w.volume.tree.change c with
  | ok tree =>
    have hvolume : onVolume c.perform w = .ok () (w.committed tree) := by
      rw [onVolume, hrun, h]
      rfl
    simp only [turn, perform, bind_of_ok hvolume]
    rfl
  | error e =>
    have hvolume : onVolume c.perform w = .error e w := by rw [onVolume, hrun, h]
    simp only [turn, perform, bind_of_error hvolume]

theorem turn_move (w : Workspace σ) (text : String) :
    w.turn (.move text) =
      match w.volume.tree.changeDirectory w.cwd text with
      | .ok cwd => ⟨.move text, .done, w, { w with cwd }⟩
      | .error e => ⟨.move text, .refused e, w, w⟩ := by
  have hrun := w.volume.tree.enter_eq text w.cwd
  cases h : w.volume.tree.changeDirectory w.cwd text with
  | ok cwd =>
    have hcwd : onDirectory (·.enter text) w = .ok () { w with cwd } := by
      rw [onDirectory, hrun, h]
    simp only [turn, perform, bind_of_ok hcwd]
    rfl
  | error e =>
    have hcwd : onDirectory (·.enter text) w = .error e w := by rw [onDirectory, hrun, h]
    simp only [turn, perform, bind_of_error hcwd]

omit [Backend σ] in
theorem onVolume_ask {α : Type} (f : Tree → Except FileError α) (w : Workspace σ) :
    onVolume (Volume.ask f) w =
      match f w.volume.tree with
      | .ok a => .ok a w
      | .error e => .error e w := by
  have hask : Volume.ask f (w.volume, w.store) =
      match f w.volume.tree with
      | .ok a => .ok a (w.volume, w.store)
      | .error e => .error e (w.volume, w.store) := by
    show (MonadExcept.ofExcept (f w.volume.tree) : Operation σ α) (w.volume, w.store) = _
    cases f w.volume.tree <;> rfl
  rw [onVolume, hask]
  cases f w.volume.tree <;> rfl

/-- A query is answered from the tree. -/
theorem turn_ask {α : Type} {r : Request} {f : Tree → Except FileError α} {g : α → Answer}
    (hr : perform r = (do return g (← onVolume (Volume.ask f)) : EStateM FileError (Workspace σ) _))
    (w : Workspace σ) : w.turn r = ⟨r, .ofExcept g (f w.volume.tree), w, w⟩ := by
  have hrun := onVolume_ask f w
  rw [turn, hr]
  cases h : f w.volume.tree with
  | ok a =>
    rw [h] at hrun
    rw [bind_of_ok hrun]
    rfl
  | error e =>
    rw [h] at hrun
    rw [bind_of_error hrun]
    rfl

theorem turn_query {r : Request} (h : r.isQuery = true) (w : Workspace σ) :
    w.turn r = ⟨r, w.volume.tree.answer w.cwd r, w, w⟩ := by
  cases r with
  | change c => cases h
  | move text => cases h
  | list p => exact turn_ask (f := (·.list p)) (g := .listing) rfl w
  | read p => exact turn_ask (f := (·.read p)) (g := .content) rfl w
  | walk p => exact turn_ask (f := (·.walk p)) (g := .visits) rfl w
  | _ => rfl

theorem turn_request (w : Workspace σ) (r : Request) : (w.turn r).request = r := by
  unfold turn
  split <;> rfl

theorem turn_before (w : Workspace σ) (r : Request) : (w.turn r).before = w := by
  unfold turn
  split <;> rfl

/-- A refused request leaves the workspace as it was. -/
theorem next_of_refused {r : Request} {e : FileError} (h : (w.turn r).answer = .refused e) :
    w.next r = w := by
  rw [next]
  cases r with
  | change c =>
    rw [turn_change] at h ⊢
    cases hc : w.volume.tree.change c with
    | error e => rfl
    | ok tree =>
      rw [hc] at h
      cases h
  | move text =>
    rw [turn_move] at h ⊢
    cases hc : w.volume.tree.changeDirectory w.cwd text with
    | error e => rfl
    | ok cwd =>
      rw [hc] at h
      cases h
  | _ => rw [turn_query rfl]

theorem next_attached (w : Workspace σ) (r : Request) :
    (w.next r).volume.attached = w.volume.attached := by
  rw [next]
  cases r with
  | change c =>
    rw [turn_change]
    cases w.volume.tree.change c <;> rfl
  | move text =>
    rw [turn_move]
    cases w.volume.tree.changeDirectory w.cwd text <;> rfl
  | _ => rw [turn_query rfl]

theorem writeThrough_turn (ha : w.volume.attached = true) (r : Request) :
    (w.turn r).WriteThrough where
  refused e he := by
    rw [turn_before]
    exact next_of_refused he
  answered c hc := by
    rw [turn_request] at hc
    rw [hc, turn_change]
    cases w.volume.tree.change c with
    | ok tree => exact .inl rfl
    | error e => exact .inr ⟨e, rfl⟩
  saved c hc hdone := by
    rw [turn_request] at hc
    rw [hc, turn_change] at hdone ⊢
    cases h : w.volume.tree.change c with
    | ok tree =>
      have hsaved : (w.volume.commit tree w.store).2 =
          w.store.set Key.fs tree.toDocument.render := by
        simp only [Volume.commit, Volume.save, ha, if_true]
      exact ⟨hsaved, congrArg Store.log hsaved⟩
    | error e =>
      rw [h] at hdone
      cases hdone
  stays c hc := by
    rw [turn_request] at hc
    rw [hc, turn_change]
    cases w.volume.tree.change c <;> rfl
  moved text htext := by
    rw [turn_request] at htext
    rw [htext, turn_move]
    cases w.volume.tree.changeDirectory w.cwd text <;> rfl
  query h := by
    rw [turn_request] at h
    rw [turn_query h]

/-- Whether a store is attached makes no difference to what a request does to the rest. -/
theorem turn_detach (w : Workspace σ) (s : Store τ) (r : Request) :
    (w.detach s).turn r = ⟨r, (w.turn r).answer, w.detach s, (w.next r).detach s⟩ := by
  have htree : (w.detach s).volume.tree = w.volume.tree := rfl
  have hcwd : (w.detach s).cwd = w.cwd := rfl
  rw [next]
  cases r with
  | change c =>
    rw [turn_change, turn_change, htree]
    cases w.volume.tree.change c <;> rfl
  | move text =>
    rw [turn_move, turn_move, htree, hcwd]
    cases w.volume.tree.changeDirectory w.cwd text <;> rfl
  | _ =>
    rw [turn_query rfl, turn_query rfl]
    rfl

theorem next_detach (w : Workspace σ) (s : Store τ) (r : Request) :
    (w.next r).detach s = (w.detach s).next r := by
  rw [next, next, turn_detach]
  rfl

theorem outcome_detach (w : Workspace σ) (s : Store τ) (r : Request) :
    ((w.detach s).turn r).outcome = (w.turn r).outcome := by
  rw [turn_detach]
  rfl

/-- Every request to an attached volume writes through, and what comes of a run does not depend on
the store: it is the same without one, which then is never written. -/
theorem turns_writeThrough (w : Workspace σ) (ha : w.volume.attached = true) (s : Store τ)
    (rs : List Request) :
    (∀ t ∈ w.turns rs, t.WriteThrough) ∧
      (w.turns rs).map Turn.outcome = ((w.detach s).turns rs).map Turn.outcome ∧
        ∀ t ∈ (w.detach s).turns rs, t.after.store = s := by
  induction rs generalizing w with
  | nil => simp [turns]
  | cons r rs ih =>
    obtain ⟨hwrites, hsame, hnone⟩ := ih (w.next r) ((next_attached w r).trans ha)
    rw [next_detach] at hsame hnone
    simp only [turns, List.forall_mem_cons, List.map_cons, outcome_detach, hsame]
    refine ⟨⟨writeThrough_turn ha r, hwrites⟩, trivial, ?_, hnone⟩
    rw [turn_detach]
    rfl

end Workspace
end DevConsole.Files

namespace DevConsole

/-- A store in memory whose writes fail as a script tells, one after the other; those after its end
succeed. -/
structure Faltering where
  memory : MemoryStore := {}
  fails : List Bool

namespace Faltering

/-- A write to the store in memory, with its switch as the script tells. -/
def write (f : Faltering) (put : MemoryStore → Except Error Unit × MemoryStore) :
    Except Error Unit × Faltering :=
  let (outcome, memory) := put { f.memory with failWrites := f.fails.headD false }
  (outcome, ⟨memory, f.fails.tail⟩)

instance : Backend Faltering where
  get f key := f.memory.get key
  set f key value := f.write (Backend.set · key value)
  remove f key := f.write (Backend.remove · key)

end Faltering

namespace Files.Workspace

/-- Three changes are accepted and two refused, and the write of the second one fails: the store
keeps the document of the first until the third is written. -/
theorem turns_writeThrough_faltering :
    let w : Workspace Faltering := ⟨⟨.new, true⟩, .root, ⟨⟨{}, [false, true]⟩, []⟩⟩
    let rs : List Request :=
      [.change ⟨.root, "a", .makeDirectory⟩, .change ⟨.root, "a", .createFile⟩, .move "a",
       .change ⟨⟨["a"]⟩, "f", .writeFile "x"⟩, .change ⟨.root, "b", .remove⟩,
       .change ⟨.root, "a", .remove⟩, .list .root]
    let s : Store MemoryStore := ⟨{}, []⟩
    w.volume.attached = true ∧
      (∀ t ∈ w.turns rs, t.WriteThrough) ∧
        (w.turns rs).map Turn.outcome = ((w.detach s).turns rs).map Turn.outcome ∧
          (∀ t ∈ (w.detach s).turns rs, t.after.store = s) ∧
            (w.turns rs).map (·.after.store.log.length) = [1, 1, 1, 2, 2, 3, 3] ∧
              (w.turns rs).map (·.after.store.get? Key.fs) =
                List.replicate 5 (some (Document.dir [("a", .emptyDir)]).render) ++
                  List.replicate 2 (some Document.emptyDir.render) := by
  intro w rs s
  obtain ⟨hwrites, hsame, hnone⟩ := turns_writeThrough w rfl s rs
  refine ⟨rfl, hwrites, hsame, hnone, ?_, ?_⟩
  · decide +kernel
  · decide +kernel

end Files.Workspace
end DevConsole
