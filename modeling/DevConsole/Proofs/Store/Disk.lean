import DevConsole.Proofs.Entries
import DevConsole.Proofs.Store.FileSystem
import DevConsole.Store.Disk

/-!
# The theory of a disk

A way leads to one place, whatever is on the disk (`Location.place`); the disk decides only whether
the way is open (`Disk.Opens`, `follow_eq_ok_iff`). Writing and moving change what is filed under
one path or two, neither of them a directory (`writeFile_eq_ok`, `rename_eq_ok`), and when they fail
they change nothing. So a text that has been written and moved is read where it was moved to
(`textAt?_of_writeFile`, `read?_of_rename`).
-/

namespace DevConsole

namespace Location

/-- The names after one step. -/
def stepTo (names : List String) (part : String) : List String :=
  if part = ".." then namesAbove names else names ++ [part]

/-- The names of the place that a way leads to. -/
def place (l : Location) : List String := l.parts.foldl stepTo l.start

/-- The path that the place has on a disk. -/
def key (l : Location) : String := pathOf l.place

/-- A place that a disk files under its path. The others are directories on every disk. -/
def Filed (names : List String) : Prop := ¬(names.all (· = "..") ∨ names = ["/"])

end Location

namespace Disk

open Location

variable {d d' : Disk} {l : Location}

/-! ## Ways -/

/-- All the directories on the way are there, and no name is too long. -/
def Opens (d : Disk) (here : List String) : List String → Prop
  | [] => True
  | part :: parts =>
    d.at? here = some .directory ∧ (part = ".." ∨ part.utf8ByteSize ≤ maxName) ∧
      d.Opens (stepTo here part) parts

theorem step_eq_ok_iff {here next : List String} {part : String} :
    d.step here part = .ok next ↔
      d.at? here = some .directory ∧ (part = ".." ∨ part.utf8ByteSize ≤ maxName) ∧
        next = stepTo here part := by
  unfold step
  split
  · rename_i hnone
    simp [hnone]
  · rename_i content hfile
    simp [hfile]
  · rename_i hdirectory
    by_cases hup : part = ".."
    · simp [hdirectory, hup, stepTo, eq_comm]
    · by_cases hlong : part.utf8ByteSize ≤ maxName
      · simp [hdirectory, hup, hlong, stepTo, eq_comm]
      · simp [hdirectory, hup, hlong]

theorem foldlM_step_eq_ok_iff {here there parts : List String} :
    parts.foldlM d.step here = .ok there ↔
      d.Opens here parts ∧ there = parts.foldl stepTo here := by
  induction parts generalizing here with
  | nil =>
    rw [List.foldlM_nil, List.foldl_nil]
    exact ⟨fun h => ⟨trivial, (Except.ok.inj h).symm⟩, fun h => congrArg Except.ok h.2.symm⟩
  | cons part parts ih =>
    rw [List.foldlM_cons, List.foldl_cons, Opens]
    cases hstep : d.step here part with
    | error o =>
      have hclosed : ¬(d.at? here = some .directory ∧
          (part = ".." ∨ part.utf8ByteSize ≤ maxName)) := fun h => by
        have hok := step_eq_ok_iff.2 ⟨h.1, h.2, rfl⟩
        rw [hstep] at hok
        cases hok
      exact ⟨fun h => (nomatch h), fun h => absurd ⟨h.1.1, h.1.2.1⟩ hclosed⟩
    | ok next =>
      obtain ⟨hhere, hname, rfl⟩ := step_eq_ok_iff.1 hstep
      exact ih.trans ⟨fun h => ⟨⟨hhere, hname, h.1⟩, h.2⟩, fun h => ⟨h.1.2.2, h.2⟩⟩

/-- A way that is open leads to its place. -/
theorem follow_eq_ok_iff {names : List String} :
    d.follow l = .ok names ↔
      l.isAdmissible = true ∧ d.Opens l.start l.parts ∧ names = l.place := by
  unfold follow
  split
  · rename_i hadmissible
    rw [foldlM_step_eq_ok_iff, place]
    exact ⟨fun h => ⟨hadmissible, h⟩, fun h => h.2⟩
  · rename_i hadmissible
    exact ⟨fun h => (nomatch h), fun h => absurd h.1 hadmissible⟩

/-! ## Places -/

theorem filed_of_at?_ne {names : List String} (h : d.at? names ≠ some .directory) :
    Filed names := by
  intro hfree
  rw [at?, if_pos hfree] at h
  exact h rfl

theorem at?_of_filed {names : List String} (h : Filed names) :
    d.at? names = d.find? (pathOf names) := if_neg h

/-! ## Reading -/

/-- The text at the place that a way leads to, be the way open or not. -/
def textAt? (d : Disk) (l : Location) : Option String :=
  match d.at? l.place with
  | some (.file content) => some content
  | _ => none

theorem textAt?_eq_some_iff {text : String} :
    d.textAt? l = some text ↔ d.at? l.place = some (.file text) := by
  unfold textAt?
  split
  · rename_i content hfile
    simp [hfile]
  · rename_i hother
    exact ⟨fun h => (nomatch h), fun h => absurd h (hother text)⟩

theorem read?_eq_some_iff {text : String} :
    d.read? l = some text ↔
      l.wantsDirectory = false ∧ d.follow l = .ok l.place ∧ d.textAt? l = some text := by
  unfold read? node?
  cases hfollow : d.follow l with
  | error o => simp
  | ok names =>
    obtain ⟨-, -, rfl⟩ := follow_eq_ok_iff.1 hfollow
    rw [textAt?_eq_some_iff]
    simp only [true_and]
    split
    · rename_i content hwants hfile
      rw [hwants, hfile]
      simp
    · rename_i hother
      refine ⟨fun h => (nomatch h), fun h => absurd h.2 ?_⟩
      exact hother text h.1

theorem read?_eq_textAt? {names : List String} (h : d.follow l = .ok names)
    (hwants : l.wantsDirectory = false) : d.read? l = d.textAt? l := by
  obtain ⟨-, -, rfl⟩ := follow_eq_ok_iff.1 h
  refine Option.ext fun text => ?_
  rw [read?_eq_some_iff]
  exact ⟨fun h => h.2.2, fun ht => ⟨hwants, h, ht⟩⟩

theorem textAt?_of_find? (hfiled : Filed l.place) {text : String}
    (h : d.find? l.key = some (.file text)) : d.textAt? l = some text :=
  textAt?_eq_some_iff.2 ((at?_of_filed hfiled).trans h)

/-! ## What keeps the ways open -/

/-- The directories are still there. -/
def KeepsDirectories (d d' : Disk) : Prop :=
  ∀ path, d.find? path = some .directory → d'.find? path = some .directory

theorem KeepsDirectories.at? (h : KeepsDirectories d d') {names : List String}
    (hat : d.at? names = some .directory) : d'.at? names = some .directory := by
  unfold Disk.at? at hat ⊢
  split at hat
  · rename_i hfree
    rw [if_pos hfree]
  · rename_i hfiled
    rw [if_neg hfiled]
    exact h _ hat

theorem Opens.mono (h : KeepsDirectories d d') {here parts : List String}
    (hopen : d.Opens here parts) : d'.Opens here parts := by
  induction parts generalizing here with
  | nil => trivial
  | cons part parts ih => exact ⟨h.at? hopen.1, hopen.2.1, ih hopen.2.2⟩

theorem follow_of_keeps (h : KeepsDirectories d d') {names : List String}
    (hfollow : d.follow l = .ok names) : d'.follow l = .ok names := by
  obtain ⟨hadmissible, hopen, hnames⟩ := follow_eq_ok_iff.1 hfollow
  exact follow_eq_ok_iff.2 ⟨hadmissible, hopen.mono h, hnames⟩

/-! ## Writing and moving -/

theorem writeFile_eq_ok {content : String} (h : d.writeFile l content = (.ok (), d')) :
    d.follow l = .ok l.place ∧ d.at? l.place ≠ some .directory ∧
      d' = Entries.insert l.key (.file content) d := by
  unfold writeFile at h
  split at h
  · cases h
  · rename_i names hfollow
    obtain ⟨-, -, rfl⟩ := follow_eq_ok_iff.1 hfollow
    split at h
    · cases h
    · rename_i hdirectory
      split at h
      · cases h
        exact ⟨hfollow, fun h => hdirectory (.inr h), rfl⟩
      · cases h

theorem writeFile_eq_error {content : String} {e : Error}
    (h : d.writeFile l content = (.error e, d')) : d' = d := by
  unfold writeFile at h
  split at h
  · cases h
    rfl
  · split at h
    · cases h
      rfl
    · split at h
      · cases h
      · cases h
        rfl

theorem rename_eq_ok {source target : Location} (h : d.rename source target = (.ok (), d')) :
    d.follow target = .ok target.place ∧ target.wantsDirectory = false ∧
      d.at? target.place ≠ some .directory ∧
      ∃ content, d.at? source.place = some (.file content) ∧
        (source.place = target.place ∧ d' = d ∨
          source.place ≠ target.place ∧
            d' = Entries.insert target.key (.file content) (Entries.erase source.key d)) := by
  unfold rename at h
  split at h
  · rename_i sourceNames targetNames hsource htarget
    obtain ⟨-, -, rfl⟩ := follow_eq_ok_iff.1 hsource
    obtain ⟨-, -, rfl⟩ := follow_eq_ok_iff.1 htarget
    split at h
    · rename_i content hcontent
      split at h
      · cases h
      · rename_i hdirectory
        rw [not_or, Bool.not_eq_true] at hdirectory
        refine ⟨htarget, hdirectory.1, hdirectory.2, content, hcontent, ?_⟩
        split at h
        · rename_i hsame
          cases h
          exact .inl ⟨hsame, rfl⟩
        · rename_i hne
          cases h
          exact .inr ⟨hne, rfl⟩
    · cases h
  · cases h

/-- What has been written is there. -/
theorem textAt?_of_writeFile {content : String} (h : d.writeFile l content = (.ok (), d')) :
    d'.textAt? l = some content := by
  obtain ⟨-, hat, rfl⟩ := writeFile_eq_ok h
  refine textAt?_of_find? (filed_of_at?_ne hat) ?_
  rw [Entries.find?_insert, if_pos rfl]

theorem rename_eq_error {source target : Location} {e : Error}
    (h : d.rename source target = (.error e, d')) : d' = d := by
  unfold rename at h
  split at h
  · split at h
    · split at h
      · cases h
        rfl
      · split at h
        · cases h
        · cases h
    · cases h
      rfl
  · cases h
    rfl

section

variable {source target : Location} (h : d.rename source target = (.ok (), d'))
include h

theorem keepsDirectories_of_rename : KeepsDirectories d d' := by
  obtain ⟨-, -, hat, content, hsource, ⟨-, rfl⟩ | ⟨-, rfl⟩⟩ := rename_eq_ok h
  · exact fun _ hpath => hpath
  · intro path hpath
    have hfile : d.at? source.place ≠ some .directory := by rw [hsource]; simp
    have hne : path ≠ source.key := by
      rintro rfl
      exact hfile ((at?_of_filed (filed_of_at?_ne hfile)).trans hpath)
    have hne' : path ≠ target.key := by
      rintro rfl
      exact hat ((at?_of_filed (filed_of_at?_ne hat)).trans hpath)
    rw [Entries.find?_insert, if_neg hne', Entries.find?_erase_of_ne hne, hpath]

/-- A text that has been moved is read where it was moved to. -/
theorem read?_of_rename : d'.read? target = d.textAt? source := by
  obtain ⟨hfollow, hwants, hat, content, hsource, hmoved⟩ := rename_eq_ok h
  have hfollow' := follow_of_keeps (keepsDirectories_of_rename h) hfollow
  rw [read?_eq_textAt? hfollow' hwants, textAt?_eq_some_iff.2 hsource]
  rcases hmoved with ⟨hsame, rfl⟩ | ⟨-, rfl⟩
  · exact textAt?_eq_some_iff.2 (hsame ▸ hsource)
  · refine textAt?_of_find? (filed_of_at?_ne hat) ?_
    rw [Entries.find?_insert, if_pos rfl]

end

instance : LawfulFileSystem Disk where
  writeFile_error := writeFile_eq_error
  rename_error := rename_eq_error

end Disk

end DevConsole
