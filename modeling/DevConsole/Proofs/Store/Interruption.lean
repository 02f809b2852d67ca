import DevConsole.Proofs.Store.Attempt
import DevConsole.Proofs.Store.Host

/-!
# Flushes that fail

A flush that fails loses nothing if the scratch file is a file of its own (`FileStore.Apart`): what
is found under the path is as it was, memory has the new value, and the next write that is saved
brings the file up to all that memory holds (`Secure`, `Reached.secure`). Only a directory that was
missing and has been made can open the way to a file that was there before. On a host without links
the scratch file is a file of its own (`apart_of_plain`).

A flush writes through what stands under the name of the scratch file. Where that is a link, where
it is another name of a file, or where the path is a link to it, a flush that is cut short leaves
the file empty (`firstWrite_loses`).
-/

namespace DevConsole.FileStore

open Host FileSystem Location

variable {s : FileStore} {h made written moved : Host} {content : String} {q p i : Nat}
  {n m : String}

/-- The scratch file is a file of its own: its name is no link, its content has no other name, and
the path does not stand for it. And if the name of the file is a link, then the way to the file does
not go over that link. -/
structure Apart (s : FileStore) (h : Host) : Prop where
  link? : ∀ q n i, (h.seat s.scratch).arrival = .ok (.name q n) → h.child? q n = some i →
    h.link? i = none
  one_name : ∀ q n i, (h.seat s.scratch).arrival = .ok (.name q n) → h.child? q n = some i →
    (h.content? i).isSome → ∀ p m, h.child? p m = some i → p = q ∧ m = n
  other : ∀ q n, (h.seat s.scratch).arrival = .ok (.name q n) →
    (h.find s.location).arrival ≠ .ok (.name q n)
  own : ∀ q n i, (h.seat s.location).arrival = .ok (.name q n) → h.child? q n = some i →
    (h.link? i).isSome → (q, n) ∉ (h.seat s.location).passed

/-- No more has changed than the entries of the file and of the scratch file, and the content of a
scratch file that was there. -/
def Touched (s : FileStore) (made h : Host) : Prop :=
  ∃ names files, SameBut names files made h ∧
    (∀ q n, (q, n) ∈ names → (made.seat s.scratch).arrival = .ok (.name q n) ∨
      (made.seat s.location).arrival = .ok (.name q n)) ∧
    ∀ i ∈ files, made.objects.length ≤ i ∨
      ∃ q n, (made.seat s.scratch).arrival = .ok (.name q n) ∧ made.child? q n = some i

/-- The scratch file has been written and moved into the place of the file. -/
structure Replaced (s : FileStore) (made moved : Host) (content : String) (q i : Nat)
    (n m : String) : Prop where
  seat : (made.seat s.scratch).arrival = .ok (.name q n)
  file : (made.seat s.location).arrival = .ok (.name q m)
  same : SameBut [(q, n), (q, m), (q, n)] [i] made moved
  kept : moved.seat s.location = made.seat s.location ∧ moved.seat s.scratch = made.seat s.scratch
  gone : moved.child? q n = none
  there : moved.child? q m = some i
  content : moved.content? i = some content
  old : made.child? q n = some i ∧ (made.content? i).isSome ∨ i = made.objects.length

namespace Apart

/-- The scratch file is written under its own name. -/
theorem seat_of_find (hapart : Apart s h) (hwants : s.scratch.wantsDirectory = false)
    (hfind : (h.find s.scratch).arrival = .ok (.name q n)) :
    (h.seat s.scratch).arrival = .ok (.name q n) := by
  obtain ⟨hadmissible, hgoes⟩ := goes_of_route hfind
  have hsteps := stepsOf_file hwants
  rw [hsteps] at hgoes
  have hseat := goes_walk h false maxLinks (start s.scratch.absolute h.working) s.scratch.parts
  have hroute : h.seat s.scratch =
      h.walk false maxLinks (start s.scratch.absolute h.working) s.scratch.parts :=
    if_pos hadmissible
  rw [← hroute] at hseat
  by_cases hname : ∃ q' n', (h.seat s.scratch).arrival = .ok (.name q' n')
  · obtain ⟨q', n', hname⟩ := hname
    have hlink : (h.child? q' n').bind h.link? = none := by
      cases hentry : h.child? q' n' with
      | none => rfl
      | some i => exact hapart.link? q' n' i hname hentry
    have hsame := hgoes.walk_eq.symm.trans (hseat.followed hname hlink).walk_eq
    have harrival := congrArg Way.arrival hsame
    rw [Host.find, hsteps] at hfind
    rw [hfind] at harrival
    rw [hname, harrival]
  · have hfollow := hseat.follow_eq fun q' n' hq => hname ⟨q', n', hq⟩
    rw [← hgoes.walk_eq.symm.trans hfollow.walk_eq, ← hsteps]
    exact hfind

/-- The scratch file has no other name. -/
theorem eq_of_child? (hapart : Apart s made)
    (hseat : (made.seat s.scratch).arrival = .ok (.name q n))
    (hold : made.child? q n = some i ∧ (made.content? i).isSome ∨ i = made.objects.length) {p : Nat}
    {m : String} (hentry : made.child? p m = some i) : p = q ∧ m = n := by
  obtain ⟨hold, hfile⟩ | rfl := hold
  · exact hapart.one_name q n i hseat hold hfile p m hentry
  · exact absurd (made.lt_of_child? hentry) (Nat.lt_irrefl _)

/-- A scratch file that is written changes nothing that is found under the path. -/
theorem read?_of_writeFile (hapart : Apart s made)
    (hwrite : made.writeFile s.scratch content = (.ok (), written)) :
    written.read? s.location = made.read? s.location := by
  obtain ⟨hwants, q, n, i, hfind, hsame, hentry, hcontent, hdead, hold⟩ := writeFile_eq_ok hwrite
  have hseat := hapart.seat_of_find hwants hfind
  exact hsame.read?_eq hdead (deadEnd_of_content hentry hcontent)
    (fun _ _ => hapart.eq_of_child? hseat hold) (hapart.other q n hseat)

/-- The file and the scratch file have their names in one directory. -/
theorem seat_location (hext : ¬s.location.HasExtension "tmp")
    (hscratch : (h.seat s.scratch).arrival = .ok (.name q n)) {p : Nat} {m : String}
    (hfile : (written.seat s.location).arrival = .ok (.name p m)) :
    n ≠ m ∧ h.seat s.location = ⟨(h.seat s.scratch).passed, .ok (.name q m)⟩ := by
  obtain ⟨hadmissible, hgoesFile⟩ := goes_of_route hfile
  obtain ⟨above, hparts, -⟩ := hgoesFile.other_name hfile
  have hnamed := hgoesFile.named hfile
  obtain ⟨-, hgoes⟩ := goes_of_route hscratch
  obtain ⟨above', hparts', hother⟩ := hgoes.other_name hscratch
  obtain ⟨last, hlast, habsolute, -, hne⟩ := exists_scratch_name hext hparts hnamed.not_up
  obtain ⟨rfl, rfl⟩ := List.append_singleton_inj.mp (hlast.symm.trans hparts')
  have hscratchName := hgoes.named hscratch
  refine ⟨hne hscratchName.not_up, route_eq_of_goes hadmissible ?_⟩
  have hgoesTo := hother m ⟨hscratchName.parent?, hnamed.not_dot, hnamed.not_up, hnamed.short⟩
  rw [show s.scratch.absolute = s.location.absolute from habsolute] at hgoesTo
  rw [hparts]
  exact hgoesTo

/-- The way to a file does not go over its own name, unless there is a directory. -/
theorem own_not_mem (hapart : Apart s h) {m : String}
    (hfile : (h.seat s.location).arrival = .ok (.name q m))
    (hfree : ∀ i, h.child? q m = some i → h.parent? i = none) :
    (q, m) ∉ (h.seat s.location).passed := by
  by_cases hlink : ∃ i, h.child? q m = some i ∧ (h.link? i).isSome
  · obtain ⟨i, hentry, hlink⟩ := hlink
    exact hapart.own q m i hfile hentry hlink
  · refine (goes_of_route hfile).2.not_mem_passed hfile (fun i hentry => ⟨hfree i hentry, ?_⟩) nofun
    exact Option.not_isSome_iff_eq_none.mp fun hsome => hlink ⟨i, hentry, hsome⟩

theorem touched_of_writeFile (hapart : Apart s made)
    (hwrite : made.writeFile s.scratch content = (.ok (), written)) : Touched s made written := by
  obtain ⟨hwants, q, n, i, hfind, hsame, -, -, -, hold⟩ := writeFile_eq_ok hwrite
  have hseat := hapart.seat_of_find hwants hfind
  refine ⟨[(q, n)], [i], hsame, fun q' n' hmem => ?_, fun j hmem => ?_⟩
  · cases List.mem_singleton.mp hmem
    exact .inl hseat
  · obtain rfl := List.mem_singleton.mp hmem
    exact hold.symm.imp (fun heq => Nat.le_of_eq heq.symm) fun hentry => ⟨q, n, hseat, hentry.1⟩

/-- Both names are found where they were if nothing has changed on the way to them. -/
theorem seats_eq_of_sameBut {names : List (Nat × String)} {files : List Nat}
    (hs : SameBut names files made h)
    (hpassed : (made.seat s.scratch).passed = (made.seat s.location).passed)
    (hclear : ∀ x ∈ (made.seat s.location).passed, x ∉ names) :
    h.seat s.location = made.seat s.location ∧ h.seat s.scratch = made.seat s.scratch :=
  ⟨hs.route_eq hclear, hs.route_eq fun x hx => hclear x (hpassed ▸ hx)⟩

/-- A scratch file that is written and moved stands in the place of the file. The move finds both
names where they were before. -/
theorem exists_replaced (hapart : Apart s made) (hext : ¬s.location.HasExtension "tmp")
    (hwrite : made.writeFile s.scratch content = (.ok (), written))
    (hmove : written.rename s.scratch s.location = (.ok (), moved)) :
    ∃ q i n m, Replaced s made moved content q i n m := by
  obtain ⟨hwants, q, n, i, hfind, hsame, hentry, hcontent, hdead, hold⟩ := writeFile_eq_ok hwrite
  have hseat := hapart.seat_of_find hwants hfind
  obtain ⟨-, q', n', p, m, j, hseat', hfile', hentry', hmoved⟩ := rename_eq_ok hmove
  obtain ⟨hne, hseats⟩ := seat_location hext hseat hfile'
  have hpassed : (made.seat s.scratch).passed = (made.seat s.location).passed := by rw [hseats]
  have hfile : (made.seat s.location).arrival = .ok (.name q m) := by rw [hseats]
  have hclear : (q, n) ∉ (made.seat s.location).passed :=
    (goes_of_route hfile).2.not_mem_passed hfile hdead nofun
  obtain ⟨hfileWritten, hseatWritten⟩ := seats_eq_of_sameBut hsame hpassed fun x hx hmem =>
    hclear (List.mem_singleton.mp hmem ▸ hx)
  rw [hseatWritten, hseat] at hseat'
  rw [hfileWritten, hfile] at hfile'
  cases hseat'
  cases hfile'
  obtain rfl := Option.some.inj (hentry.symm.trans hentry')
  have hentryFile : written.child? q m = made.child? q m :=
    hsame.child? q ((goes_of_route hseat).2.named hseat).lt m fun hmem =>
      hne (Prod.mk.inj (List.mem_singleton.mp hmem)).2.symm
  obtain hnothing | ⟨hfree, hmove', hgone, hthere⟩ := hmoved
  · -- the file would be another name of the scratch file
    exact absurd (hapart.eq_of_child? hseat hold (hentryFile.symm.trans hnothing)).2 hne.symm
  · have hboth := hsame.trans hmove'
    have hown := hapart.own_not_mem hfile fun j hj => by
      rw [← hsame.parent? j (made.lt_of_child? hj)]
      exact hfree j (hentryFile.trans hj)
    have hkept : ∀ x ∈ (made.seat s.location).passed, x ∉ [(q, n)] ++ [(q, m), (q, n)] := by
      intro x hx hmem
      simp only [List.cons_append, List.nil_append, List.mem_cons, List.not_mem_nil,
        or_false] at hmem
      obtain rfl | rfl | rfl := hmem
      · exact hclear hx
      · exact hown hx
      · exact hclear hx
    exact ⟨q, i, n, m, hseat, hfile, hboth, seats_eq_of_sameBut hboth hpassed hkept, hgone, hthere,
      (hmove'.content? i (written.lt_of_child? hentry) List.not_mem_nil).trans hcontent, hold⟩

end Apart

namespace Replaced

variable (hr : Replaced s made moved content q i n m)

include hr

/-- The scratch file is read under the path once it has been moved. -/
theorem read?_location (hwants : s.location.wantsDirectory = false) :
    moved.read? s.location = some content := by
  have harrival : (moved.seat s.location).arrival = .ok (.name q m) := hr.kept.1 ▸ hr.file
  have hlink : (moved.child? q m).bind moved.link? = none := by
    rw [hr.there, Option.bind_some, link?, exists_of_content? hr.content]
  obtain ⟨hadmissible, hgoes⟩ := goes_of_route harrival
  have hfind : (moved.find s.location).arrival = .ok (.name q m) := by
    rw [Host.find, stepsOf_file hwants,
      route_eq_of_goes hadmissible (hgoes.followed harrival hlink)]
  rw [Host.read?, hfind]
  show (moved.child? q m).bind moved.content? = some content
  rw [hr.there]
  exact hr.content

theorem touched : Touched s made moved := by
  refine ⟨_, _, hr.same, fun q' n' hmem => ?_, fun j hmem => ?_⟩
  · simp only [List.mem_cons, List.not_mem_nil, or_false] at hmem
    rcases hmem with heq | heq | heq <;> cases heq
    · exact .inl hr.seat
    · exact .inr hr.file
    · exact .inl hr.seat
  · obtain rfl := List.mem_singleton.mp hmem
    exact hr.old.symm.imp (fun heq => Nat.le_of_eq heq.symm) fun hentry => ⟨q, n, hr.seat, hentry.1⟩

end Replaced

/-- Where there are no links and no file has two names, the scratch file is a file of its own. -/
theorem apart_of_plain (hplain : Plain h) (hext : ¬s.location.HasExtension "tmp") : Apart s h where
  link? q n i _ hentry := hplain.link? q n i hentry
  one_name q n i _ hentry hfile p m hentry' := hplain.one_name q n p m i hentry hentry' hfile
  own q n i _ hentry hlink := by
    rw [hplain.link? q n i hentry] at hlink
    cases hlink
  other q n hscratch hfile := by
    obtain ⟨above, hsteps⟩ := (goes_of_route hfile).2.exists_last hfile hplain.link?
    obtain ⟨-, hdot, hup, -⟩ := (goes_of_route hfile).2.named hfile
    obtain ⟨above', hparts', -⟩ := (goes_of_route hscratch).2.other_name hscratch
    cases hwants : s.location.wantsDirectory with
    | true =>
      rw [stepsOf, hwants] at hsteps
      exact hdot (List.append_singleton_inj.mp hsteps).2.symm
    | false =>
      rw [stepsOf_file hwants] at hsteps
      obtain ⟨last, hlast, -, -, hne⟩ := exists_scratch_name hext hsteps hup
      obtain ⟨-, rfl⟩ := List.append_singleton_inj.mp (hlast.symm.trans hparts')
      exact hne hup rfl

theorem apart_of_makeDirectories (hplain : Plain h) (hext : ¬s.location.HasExtension "tmp") :
    ∀ made, makeDirectories h s.location.parent = (.ok (), made) → Apart s made := by
  intro made hmake
  have hmade := hplain.makeDirectories s.location.parent
  rw [hmake] at hmade
  exact apart_of_plain hmade hext

/-- What a write leaves in memory and on the host, with or without success; `made` is the host with
the directories that have been made. Memory holds `map` afterwards. -/
structure Secure (s : FileStore) (w : Write) (h made : Host) (c : Changed Host)
    (map : String → Option String) : Prop where
  memory : c.store.get? = map
  /-- What is found under the path is as before, unless a directory was missing on the way and has
  been made. -/
  failed : ∀ e, c.outcome = .error e → c.disk.read? s.location = h.read? s.location ∨
    (h.find s.location).arrival = .error .missing ∧
      c.disk.read? s.location = made.read? s.location
  saved : c.outcome = .ok () → s.Saves w → ∃ text es,
    c.disk.read? s.location = some text ∧ decode? text = some es ∧ es.find? = map
  /-- The scratch file has gone from the directory where it was. -/
  scratch : c.outcome = .ok () → s.Saves w →
    ∃ q n, (c.disk.seat s.scratch).arrival = .ok (.name q n) ∧ c.disk.child? q n = none
  touches : Touched s made c.disk

theorem Touched.refl (s : FileStore) (h : Host) : Touched s h h :=
  ⟨[], [], .refl h, fun _ _ hmem => (nomatch hmem), fun _ hmem => (nomatch hmem)⟩

/-- What is read under the path where directories have been made. -/
theorem read?_of_madeAbove {l : Location} (hmade : MadeAbove l h made) :
    made.read? s.location = h.read? s.location ∨
      (h.find s.location).arrival = .error .missing := by
  by_cases hmissing : (h.find s.location).arrival = .error .missing
  · exact .inr hmissing
  · exact .inl (hmade.grown.read?_eq hmissing)

theorem secure_of_attempted {w : Write} {c : Changed Host} (hw : Attempted s w h c)
    (hs : s.entries.Ordered) (hext : ¬s.location.HasExtension "tmp")
    (hapart : ∀ made, makeDirectories h s.location.parent = (.ok (), made) → Apart s made) :
    ∃ made, MadeAbove s.location.parent h made ∧ Secure s w h made c (w.on s.get?) := by
  have hmemory : c.store.get? = w.on s.get? := by rw [hw.store_eq, get?_after hs]
  cases hw with
  | passed hpassed _ =>
    exact ⟨h, .refl _ h, hmemory, nofun, fun _ hsaves => absurd hsaves hpassed,
      fun _ hsaves => absurd hsaves hpassed, .refl s h⟩
  | @flushed outcome disk _ hflush =>
    have hlocation : (s.after w).location = s.location := by rw [location, after_path, location]
    have hscratch : (s.after w).scratch = s.scratch := by rw [scratch, hlocation, scratch]
    cases hflush with
    | @stopped e count =>
      have hmade : MadeAbove s.location.parent h
          (makeDirectories h ((s.after w).location.parent.first count)).2 := by
        rw [hlocation]
        exact (madeAbove_makeDirectories h (s.location.parent.first count)).of_first
      exact ⟨_, hmade, hmemory,
        fun _ _ => (read?_of_madeAbove hmade).imp_right fun hmissing => ⟨hmissing, rfl⟩, nofun,
        nofun, .refl s _⟩
    | @left e made written content hmake hwrite =>
      rw [hlocation] at hmake
      rw [hscratch] at hwrite
      have hmade := madeAbove_makeDirectories h s.location.parent
      rw [hmake] at hmade
      have hread := (hapart made hmake).read?_of_writeFile hwrite
      refine ⟨made, hmade, hmemory, fun _ _ => ?_, nofun, nofun,
        (hapart made hmake).touched_of_writeFile hwrite⟩
      exact (read?_of_madeAbove hmade).imp hread.trans fun hmissing => ⟨hmissing, hread⟩
    | @saved made written moved hmake hwrite hmove =>
      rw [hlocation] at hmake hmove
      rw [hscratch] at hwrite hmove
      have hmade := madeAbove_makeDirectories h s.location.parent
      rw [hmake] at hmade
      obtain ⟨q, i, n, m, hreplaced⟩ := (hapart made hmake).exists_replaced hext hwrite hmove
      have hwants := (rename_eq_ok hmove).1
      exact ⟨made, hmade, hmemory, nofun,
        fun _ _ => ⟨_, _, hreplaced.read?_location hwants, decode?_encode (ordered_after hs w),
          hmemory⟩,
        fun _ _ => ⟨q, n, hreplaced.kept.2 ▸ hreplaced.seat, hreplaced.gone⟩, hreplaced.touched⟩

/-- A name that does not end as the extension does. -/
theorem not_hasExtension {l : Location} (name : String) (hname : l.parts.getLast? = some name)
    (hend : name.toList.getLast? ≠ some 'p') : ¬l.HasExtension "tmp" := by
  rintro ⟨base, -, hlast⟩
  rw [hname] at hlast
  refine hend ?_
  rw [Option.some.inj hlast]
  simp

theorem mem_of_lookup {names : List (String × Nat)} {name : String} {i : Nat}
    (h : names.lookup name = some i) : (name, i) ∈ names := by
  obtain ⟨before, behind, rfl, -⟩ := List.lookup_eq_some_iff.mp h
  exact List.mem_append_right _ List.mem_cons_self

/-- A host whose root has these names in it, and is the working directory. -/
def rooted (names : List (String × Nat)) (others : List HostObject)
    (hnames : ∀ e ∈ names, e.2 < others.length + 1)
    (hothers : ∀ o ∈ others, o.Within (others.length + 1)) : Host where
  objects := .directory 0 (fun name => names.lookup name) :: others
  working := 0
  working_lt := Nat.succ_pos _
  within := List.forall_mem_cons.mpr
    ⟨⟨Nat.succ_pos _, fun _ _ hi => hnames _ (mem_of_lookup hi)⟩, hothers⟩

def empty : Host := rooted [] [] nofun nofun

/-- What is there after a first flush has been cut short. -/
def interrupted : Host :=
  rooted [("s.tmp", 1)] [.file "half"] (by decide) (by simp [HostObject.Within])

theorem plain_interrupted : Plain interrupted := by
  have hentry : ∀ {q n i}, interrupted.child? q n = some i → q = 0 ∧ n = "s.tmp" ∧ i = 1 := by
    intro q n i hi
    match q with
    | 0 =>
      have hname : (n, i) ∈ [("s.tmp", 1)] := mem_of_lookup hi
      cases List.mem_singleton.mp hname
      exact ⟨rfl, rfl, rfl⟩
    | 1 | _ + 2 => cases hi
  refine ⟨fun q n i hi => ?_, fun q n p m i hi hi' _ => ?_⟩
  · obtain ⟨-, -, rfl⟩ := hentry hi
    rfl
  · obtain ⟨rfl, rfl, -⟩ := hentry hi
    obtain ⟨rfl, rfl, -⟩ := hentry hi'
    exact ⟨rfl, rfl⟩

/-- The name of the scratch file is a link to the file. -/
def scratchLinked : Host :=
  rooted [("s.json", 1), ("s.tmp", 2)] [.file "\x7b\x7d", .link "s.json"] (by decide)
    (by simp [HostObject.Within])

/-- The file has the name of the scratch file too. -/
def shared : Host :=
  rooted [("s.json", 1), ("s.tmp", 1)] [.file "\x7b\x7d"] (by decide) (by simp [HostObject.Within])

/-- The name of the file is a link to the scratch file. -/
def fileLinked : Host :=
  rooted [("s.json", 2), ("s.tmp", 1)] [.file "\x7b\x7d", .link "s.tmp"] (by decide)
    (by simp [HostObject.Within])

/-- The name of the file is a link to a directory. -/
def directoryLinked : Host :=
  rooted [("d", 1), ("s.json", 2)] [.directory 0 fun _ => none, .link "d"] (by decide)
    (by simp [HostObject.Within])

/-- No directory leads to the file yet by the path that goes over one and back. -/
def closed : Host :=
  rooted [("..s", 1)] [.file "\x7b\x7d"] (by decide) (by simp [HostObject.Within])

/-- What is found under a path before a first write and after it, and whether the write succeeds. -/
def firstWrite (h : Host) (path : String) (fault : Option Fault) :
    Option String × Bool × Option String :=
  let c := (load h path).attempt h fault (.set "k" "v")
  (h.read? (parse path), c.outcome.isOk, c.disk.read? (parse path))

end DevConsole.FileStore
