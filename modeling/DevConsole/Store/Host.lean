import DevConsole.Store.FileSystem

/-!
# The files of a host

A `Host` is a file system with links. Its objects have numbers, and the entries of a directory name
objects by them, so that a file may have several names; a symbolic link stands for the path that it
says. A way through the directories goes over one name after the other, and where a link is met it
goes on with the path of the link, as often as `Host.maxLinks` times. Reading and writing follow a
link at the end of a way too. Making a directory, and moving a file, go by the last name itself, so
that a link is moved or replaced and not what it stands for.
-/

namespace DevConsole

/-- Something that a file system holds. -/
inductive HostObject where
  | directory (parent : Nat) (entry : String → Option Nat)
  | file (content : String)
  | link (target : String)

namespace HostObject

/-- The object refers to numbers below the bound only. -/
def Within (bound : Nat) : HostObject → Prop
  | .directory parent entry => parent < bound ∧ ∀ name i, entry name = some i → i < bound
  | .file _ => True
  | .link _ => True

theorem Within.mono {o : HostObject} {bound bound' : Nat} (h : o.Within bound)
    (hle : bound ≤ bound') : o.Within bound' := by
  cases o with
  | directory parent entry =>
    exact ⟨Nat.lt_of_lt_of_le h.1 hle, fun name i hi => Nat.lt_of_lt_of_le (h.2 name i hi) hle⟩
  | file | link => trivial

theorem within_file (content : String) (bound : Nat) : (file content).Within bound := trivial

end HostObject

/-- Objects under their numbers; the root is the first of them. -/
structure Host where
  objects : List HostObject
  /-- The directory where a path starts that is not absolute. -/
  working : Nat
  working_lt : working < objects.length
  within : ∀ o ∈ objects, o.Within objects.length

/-- What a way leads to. -/
inductive Arrival where
  /-- An object that is reached by a step up, or by none at all. -/
  | object (i : Nat)
  /-- A name in a directory, be there something or not. -/
  | name (directory : Nat) (name : String)
  deriving DecidableEq, Repr

/-- The names that a way goes over, and what it leads to. -/
structure Way where
  passed : List (Nat × String)
  arrival : Except Obstacle Arrival

namespace Way

def arrive (a : Arrival) : Way := ⟨[], .ok a⟩

def stop (o : Obstacle) : Way := ⟨[], .error o⟩

/-- The way over one more name before. -/
def past (directory : Nat) (name : String) (w : Way) : Way :=
  { w with passed := (directory, name) :: w.passed }

end Way

namespace Host

variable (h : Host)

/-! ## Objects -/

/-- The directory above, if the object is a directory. -/
def parent? (i : Nat) : Option Nat :=
  match h.objects[i]? with
  | some (.directory parent _) => some parent
  | _ => none

/-- What a directory has under a name. -/
def child? (directory : Nat) (name : String) : Option Nat :=
  match h.objects[directory]? with
  | some (.directory _ entry) => entry name
  | _ => none

def content? (i : Nat) : Option String :=
  match h.objects[i]? with
  | some (.file content) => some content
  | _ => none

/-- The path that a link stands for. -/
def link? (i : Nat) : Option String :=
  match h.objects[i]? with
  | some (.link target) => some target
  | _ => none

theorem lt_of_parent? {i parent : Nat} (hp : h.parent? i = some parent) : i < h.objects.length := by
  unfold parent? at hp
  split at hp
  · rename_i hi
    exact (List.getElem?_eq_some_iff.mp hi).1
  · cases hp

theorem parent_lt {i parent : Nat} (hp : h.parent? i = some parent) :
    parent < h.objects.length := by
  unfold parent? at hp
  split at hp
  · rename_i hi
    cases hp
    exact (h.within _ (List.mem_of_getElem? hi)).1
  · cases hp

theorem directory_lt {directory i : Nat} {name : String} (he : h.child? directory name = some i) :
    directory < h.objects.length := by
  unfold child? at he
  split at he
  · rename_i hd
    exact (List.getElem?_eq_some_iff.mp hd).1
  · cases he

theorem lt_of_child? {directory i : Nat} {name : String} (he : h.child? directory name = some i) :
    i < h.objects.length := by
  unfold child? at he
  split at he
  · rename_i hd
    exact (h.within _ (List.mem_of_getElem? hd)).2 name i he
  · cases he

/-- One more object, with a number of its own. -/
def add (o : HostObject) (ho : o.Within h.objects.length) : Host where
  objects := h.objects ++ [o]
  working := h.working
  working_lt := by
    rw [List.length_append]
    exact Nat.lt_add_right _ h.working_lt
  within o' ho' := by
    rw [List.length_append]
    rcases List.mem_append.mp ho' with hold | hnew
    · exact (h.within o' hold).mono (Nat.le_add_right ..)
    · rw [List.mem_singleton.mp hnew]
      exact ho.mono (Nat.le_add_right ..)

/-- Another object under the same number. -/
def replace (i : Nat) (o : HostObject) (ho : o.Within h.objects.length) : Host where
  objects := h.objects.set i o
  working := h.working
  working_lt := by
    rw [List.length_set]
    exact h.working_lt
  within o' ho' := by
    rw [List.length_set]
    rcases List.mem_or_eq_of_mem_set ho' with hold | rfl
    · exact h.within o' hold
    · exact ho

/-- Puts an object under a name, or takes the name away. -/
def put (directory : Nat) (name : String) (target : Option Nat)
    (ht : ∀ i, target = some i → i < h.objects.length) : Host :=
  match hd : h.objects[directory]? with
  | some (.directory parent entry) =>
    h.replace directory (.directory parent fun n => if n = name then target else entry n)
      ⟨(h.within _ (List.mem_of_getElem? hd)).1, fun n i hi => by
        by_cases hn : n = name
        · exact ht i ((if_pos hn).symm.trans hi)
        · exact (h.within _ (List.mem_of_getElem? hd)).2 n i ((if_neg hn).symm.trans hi)⟩
  | _ => h

/-- Adds an object under a name. -/
def addUnder (directory : Nat) (name : String) (o : HostObject) (ho : o.Within h.objects.length) :
    Host :=
  (h.add o ho).put directory name (some h.objects.length) fun i hi => by
    cases hi
    rw [add, List.length_append]
    exact Nat.lt_add_of_pos_right Nat.one_pos

/-! ## Ways -/

/-- The steps of a path that is read. A slash at the end asks for a directory. -/
def stepsOf (l : Location) : List String := l.parts ++ if l.wantsDirectory then ["."] else []

/-- A way from a directory on; `jump` goes on where a link is met. A link under the last name is
passed only if it is to be followed. -/
def walkFrom (follow : Bool) (jump : String → Nat → List String → Way) (here : Nat) :
    List String → Way
  | [] => .arrive (.object here)
  | part :: rest =>
    match h.parent? here with
    | none => .stop .refused
    | some parent =>
      if part = "." then walkFrom follow jump here rest
      else if part = ".." then walkFrom follow jump parent rest
      else if Location.maxName < part.utf8ByteSize then .stop .refused
      else if rest = [] ∧ follow = false then .arrive (.name here part)
      else
        .past here part <|
          match h.child? here part with
          | none => if rest = [] then .arrive (.name here part) else .stop .missing
          | some i =>
            match h.link? i with
            | some target => jump target here rest
            | none => if rest = [] then .arrive (.name here part) else walkFrom follow jump i rest

/-- The directory where a path starts. -/
def start (absolute : Bool) (here : Nat) : Nat := if absolute then 0 else here

/-- A way that meets no more than so many links. -/
def walk (follow : Bool) : Nat → Nat → List String → Way
  | 0 => h.walkFrom follow fun _ _ _ => .stop .refused
  | links + 1 => h.walkFrom follow fun target here rest =>
      let l := Location.parse target
      walk follow links (start l.absolute here) (stepsOf l ++ rest)

/-- No more links than these are followed. -/
def maxLinks : Nat := 40

/-- The way that starts where a path does. -/
def route (follow : Bool) (l : Location) (steps : List String) : Way :=
  if l.isAdmissible then h.walk follow maxLinks (start l.absolute h.working) steps
  else .stop .refused

/-- The way to what a path stands for. -/
def find (l : Location) : Way := h.route true l (stepsOf l)

/-- The way to the last name of a path, whatever is there. -/
def seat (l : Location) : Way := h.route false l l.parts

/-! ## Operations -/

/-- Only what has a name can be a file. -/
def read? (l : Location) : Option String :=
  match (h.find l).arrival with
  | .ok (.name directory name) => (h.child? directory name).bind h.content?
  | _ => none

def isDirectory (l : Location) : Bool :=
  match (h.find l).arrival with
  | .ok (.object i) => (h.parent? i).isSome
  | .ok (.name directory name) => ((h.child? directory name).bind h.parent?).isSome
  | .error _ => false

def makeDirectory (l : Location) : Except Obstacle Host :=
  match (h.seat l).arrival with
  | .error o => .error o
  | .ok (.object _) => .error .present
  | .ok (.name directory name) =>
    match h.child? directory name with
    | some _ => .error .present
    | none =>
      match hp : h.parent? directory with
      | none => .error .refused
      | some _ =>
        .ok (h.addUnder directory name (.directory directory fun _ => none)
          ⟨h.lt_of_parent? hp, nofun⟩)

def writeFile (l : Location) (content : String) : Except Error Unit × Host :=
  if l.wantsDirectory then (.error (.io "is a directory"), h)
  else
    match (h.find l).arrival with
    | .ok (.name directory name) =>
      match h.child? directory name with
      | none => (.ok (), h.addUnder directory name (.file content) (HostObject.within_file ..))
      | some i =>
        if (h.content? i).isSome then
          (.ok (), h.replace i (.file content) (HostObject.within_file ..))
        else (.error (.io "is a directory"), h)
    | .ok (.object _) => (.error (.io "is a directory"), h)
    | .error _ => (.error (.io "no such place"), h)

/-- Moves a file or a link. -/
def rename (source target : Location) : Except Error Unit × Host :=
  if source.wantsDirectory ∨ target.wantsDirectory then (.error (.io "not a directory"), h)
  else
    match (h.seat source).arrival, (h.seat target).arrival with
    | .ok (.name sourceDirectory sourceName), .ok (.name targetDirectory targetName) =>
      match hs : h.child? sourceDirectory sourceName with
      | none => (.error (.io "no such file"), h)
      | some i =>
        if h.child? targetDirectory targetName = some i then (.ok (), h)
        else if ((h.child? targetDirectory targetName).bind h.parent?).isSome ∨
            (h.parent? i).isSome then
          (.error (.io "is a directory"), h)
        else
          let moved := h.put targetDirectory targetName (some i) fun _ hi =>
            Option.some.inj hi ▸ h.lt_of_child? hs
          (.ok (), moved.put sourceDirectory sourceName none nofun)
    | _, _ => (.error (.io "no such place"), h)

end Host

instance : FileSystem Host where
  read? := Host.read?
  isDirectory := Host.isDirectory
  makeDirectory := Host.makeDirectory
  writeFile := Host.writeFile
  rename := Host.rename

end DevConsole
