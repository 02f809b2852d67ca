import DevConsole.Proofs.Store.FileSystem
import DevConsole.Proofs.Store.Way

/-!
# What the operations on a host do

Directories are made on the way to a path only (`madeAbove_makeDirectories`), and making them does
not change what is read where no directory was missing (`Grown.read?_eq`). A file is written or
moved under the names its paths lead to (`writeFile_eq_ok`, `rename_eq_ok`), and what is written is
read under no other path if the file has no other name (`SameBut.read?_eq`). On a host without links
and with one name for each file (`Plain`), directories that are made keep it so.
-/

namespace DevConsole

namespace Host

variable {h h' h'' : Host} {l : Location} {a : Arrival} {steps : List String} {follow : Bool}

/-! ## Paths -/

theorem start_working_lt (h : Host) (absolute : Bool) :
    start absolute h.working < h.objects.length := start_lt h.working_lt

theorem goes_of_route (ha : (h.route follow l steps).arrival = .ok a) :
    l.isAdmissible = true ∧
      Goes h follow maxLinks (start l.absolute h.working) steps (h.route follow l steps) := by
  unfold route at ha ⊢
  split
  · rename_i hadmissible
    exact ⟨hadmissible, goes_walk ..⟩
  · rename_i hadmissible
    rw [if_neg hadmissible] at ha
    cases ha

theorem route_eq_of_goes {w : Way} (hadmissible : l.isAdmissible = true)
    (hg : Goes h follow maxLinks (start l.absolute h.working) steps w) :
    h.route follow l steps = w := by
  rw [route, if_pos hadmissible, hg.walk_eq]

theorem stepsOf_file (hwants : l.wantsDirectory = false) : stepsOf l = l.parts := by
  rw [stepsOf, hwants]
  exact List.append_nil _

theorem Grown.route_eq (hgr : Grown h h')
    (hfound : (h.route follow l steps).arrival ≠ .error .missing) :
    h'.route follow l steps = h.route follow l steps := by
  unfold route at hfound ⊢
  split
  · rename_i hadmissible
    rw [if_pos hadmissible] at hfound
    rw [hgr.working]
    exact ((goes_walk ..).grown hgr (h.start_working_lt _) hfound).walk_eq
  · rfl

theorem SameBut.route_eq {names : List (Nat × String)} {files : List Nat}
    (hs : SameBut names files h h') (hpassed : ∀ x ∈ (h.route follow l steps).passed, x ∉ names) :
    h'.route follow l steps = h.route follow l steps := by
  unfold route at hpassed ⊢
  split
  · rename_i hadmissible
    rw [if_pos hadmissible] at hpassed
    rw [hs.working]
    exact ((goes_walk ..).sameBut hs (h.start_working_lt _) hpassed).walk_eq
  · rfl

/-! ## Making directories -/

/-- Directories of the path have been made. -/
structure MadeAbove (l : Location) (h h' : Host) : Prop where
  grown : Grown h h'
  on_way : ∀ {q n i}, q < h.objects.length → h.child? q n = none → h'.child? q n = some i →
    ∃ count, (h'.seat (l.first count)).arrival = .ok (.name q n)

theorem MadeAbove.refl (l : Location) (h : Host) : MadeAbove l h h where
  grown := .refl h
  on_way _ hnone hsome := by
    rw [hnone] at hsome
    cases hsome

theorem MadeAbove.trans (hm : MadeAbove l h h') (hm' : MadeAbove l h' h'') :
    MadeAbove l h h'' where
  grown := hm.grown.trans hm'.grown
  on_way {q n i} hq hnone hsome := by
    cases hmade : h'.child? q n with
    | none => exact hm'.on_way (Nat.lt_of_lt_of_le hq hm.grown.length_le) hmade hsome
    | some j =>
      obtain ⟨count, hseat⟩ := hm.on_way hq hnone hmade
      have hfound : (h'.seat (l.first count)).arrival ≠ .error .missing := by
        rw [hseat]
        exact nofun
      exact ⟨count, by rw [seat, hm'.grown.route_eq hfound]; exact hseat⟩

theorem MadeAbove.of_first {count : Nat} (hm : MadeAbove (l.first count) h h') :
    MadeAbove l h h' where
  grown := hm.grown
  on_way hq hnone hsome := by
    obtain ⟨count', hseat⟩ := hm.on_way hq hnone hsome
    have hfirst : (l.first count).first count' = l.first (min count' count) := by
      rw [Location.first, Location.first, Location.first, List.take_take]
    exact ⟨_, hfirst ▸ hseat⟩

/-- A directory is made under a free name, and there is nothing in it. -/
theorem makeDirectory_eq_ok (hm : h.makeDirectory l = .ok h') :
    ∃ q n, (h.seat l).arrival = .ok (.name q n) ∧ h.child? q n = none ∧ SameBut [(q, n)] [] h h' ∧
      (h'.parent? h.objects.length).isSome ∧
        ∀ p m i, h'.child? p m = some i →
          (p, m) = (q, n) ∧ i = h.objects.length ∨ h.child? p m = some i := by
  unfold makeDirectory at hm
  split at hm
  · cases hm
  · cases hm
  · rename_i q n hseat
    split at hm
    · cases hm
    · rename_i hfree
      split at hm
      · cases hm
      · rename_i parent hp
        cases hm
        obtain ⟨hsame, hentry, hnew, hlength⟩ := sameBut_addUnder hp n
          (.directory q fun _ => none)
          ⟨h.lt_of_parent? hp, fun _ _ hi => absurd hi (Option.some_ne_none _).symm⟩
        refine ⟨q, n, hseat, hfree, hsame, by rw [parent?, hnew]; rfl, fun p m i hi => ?_⟩
        by_cases hname : (p, m) ∈ [(q, n)]
        · cases List.mem_singleton.mp hname
          exact .inl ⟨rfl, Option.some.inj (hi.symm.trans hentry)⟩
        · refine .inr ?_
          by_cases hold : p < h.objects.length
          · exact (hsame.child? p hold m hname).symm.trans hi
          · -- the new directory is empty
            have hlt := directory_lt _ hi
            have hp : p = h.objects.length := by omega
            rw [hp, child?, hnew] at hi
            cases hi

theorem madeAbove_of_makeDirectory (hm : h.makeDirectory l = .ok h') : MadeAbove l h h' := by
  obtain ⟨q, n, hseat, hfree, hsame, hdirectory, honly⟩ := makeDirectory_eq_ok hm
  have hgrown : Grown h h' := by
    refine ⟨hsame.working, hsame.length_le, fun i hi => ⟨hsame.parent? i hi,
      hsame.link? i hi, hsame.content? i hi List.not_mem_nil⟩, fun {p m i} hold => ?_,
      fun {p m i} _ hnone hsome => ?_⟩
    · refine (hsame.child? p (h.directory_lt hold) m fun hname => ?_).trans hold
      cases List.mem_singleton.mp hname
      exact absurd (hfree.symm.trans hold) nofun
    · obtain ⟨-, rfl⟩ | hold := honly p m i hsome
      · exact hdirectory
      · exact absurd (hnone.symm.trans hold) nofun
  refine ⟨hgrown, fun {p m i} _ hnone hsome => ?_⟩
  obtain ⟨hname, -⟩ | hold := honly p m i hsome
  · cases hname
    have hall : l.first l.parts.length = l := by rw [Location.first, List.take_length]
    have hfound : (h.seat l).arrival ≠ .error .missing := by
      rw [hseat]
      exact nofun
    exact ⟨l.parts.length, by rw [hall, seat, hgrown.route_eq hfound]; exact hseat⟩
  · exact absurd (hnone.symm.trans hold) nofun

/-- Whether they succeed or not, the directories that were made are on the way. -/
theorem madeAbove_makeDirectories (h : Host) (l : Location) :
    MadeAbove { l with wantsDirectory := true } h (FileSystem.makeDirectories h l).2 :=
  FileSystem.makeDirectories_induct l (.refl _ h) fun _ _ _ hold hmake =>
    hold.trans (madeAbove_of_makeDirectory hmake).of_first

/-! ### Hosts without links -/

/-- There are no links, and no file has two names. -/
structure Plain (h : Host) : Prop where
  link? : ∀ q n i, h.child? q n = some i → h.link? i = none
  one_name : ∀ q n p m i, h.child? q n = some i → h.child? p m = some i → (h.content? i).isSome →
    p = q ∧ m = n

theorem Plain.makeDirectory (hplain : Plain h) (hm : h.makeDirectory l = .ok h') : Plain h' := by
  obtain ⟨q, n, -, -, hsame, hdirectory, honly⟩ := makeDirectory_eq_ok hm
  refine ⟨fun p m i hi => ?_, fun p m p' m' i hi hi' hfile => ?_⟩
  · obtain ⟨-, rfl⟩ | hold := honly p m i hi
    · exact link?_of_parent? hdirectory
    · exact (hsame.link? i (h.lt_of_child? hold)).trans (hplain.link? p m i hold)
  · -- the new name is not one of a file
    have hne : i ≠ h.objects.length := fun heq => by
      rw [heq, content?_of_parent? hdirectory] at hfile
      cases hfile
    have hold := (honly p m i hi).resolve_left fun hnew => hne hnew.2
    have hold' := (honly p' m' i hi').resolve_left fun hnew => hne hnew.2
    rw [hsame.content? i (h.lt_of_child? hold) List.not_mem_nil] at hfile
    exact hplain.one_name p m p' m' i hold hold' hfile

theorem Plain.makeDirectories (hplain : Plain h) (l : Location) :
    Plain (FileSystem.makeDirectories h l).2 :=
  FileSystem.makeDirectories_induct l hplain fun _ _ _ hold hmake => hold.makeDirectory hmake

/-! ## Reading and writing -/

/-- Where no directory on the way is missing, making some does not change what is read. -/
theorem Grown.read?_eq (hgr : Grown h h') (hfound : (h.find l).arrival ≠ .error .missing) :
    h'.read? l = h.read? l := by
  rw [read?, read?, find, hgr.route_eq hfound, ← find]
  split
  · rename_i q n ha
    have hq := ((goes_of_route ha).2.named ha).lt
    cases hentry : h.child? q n with
    | some i =>
      rw [hgr.child? hentry]
      exact (hgr.objects i (h.lt_of_child? hentry)).2.2
    | none =>
      cases hmade : h'.child? q n with
      | none => rfl
      | some i => exact content?_of_parent? (hgr.new hq hentry hmade)
  · rfl

theorem SameBut.mono {names names' : List (Nat × String)} {files files' : List Nat}
    (hs : SameBut names files h h') (hnames : names ⊆ names') (hfiles : files ⊆ files') :
    SameBut names' files' h h' where
  working := hs.working
  length_le := hs.length_le
  parent? := hs.parent?
  link? := hs.link?
  content? i hi hne := hs.content? i hi fun hmem => hne (hfiles hmem)
  child? q hq n hne := hs.child? q hq n fun hmem => hne (hnames hmem)

/-- A file that is written is read under no other path, if it has no other name. -/
theorem SameBut.read?_eq {q i : Nat} {n : String} (hs : SameBut [(q, n)] [i] h h')
    (hdead : h.DeadEnd q n) (hdead' : h'.DeadEnd q n)
    (hname : ∀ p m, h.child? p m = some i → p = q ∧ m = n)
    (hother : (h.find l).arrival ≠ .ok (.name q n)) : h'.read? l = h.read? l := by
  have hway : h'.find l = h.find l ∨ (h.find l).Lost ∧ (h'.find l).Lost := by
    unfold find route at hother ⊢
    split
    · rename_i hadmissible
      rw [if_pos hadmissible] at hother
      rw [hs.working]
      obtain ⟨w', hg', hend⟩ :=
        (goes_walk ..).deadEnd hs (h.start_working_lt _) hother hdead hdead'
      rw [hg'.walk_eq]
      exact hend
    · exact .inl rfl
  obtain hway | ⟨⟨o, herror⟩, o', herror'⟩ := hway
  · rw [read?, read?, hway]
    split
    · rename_i p m ha
      have hp := ((goes_of_route ha).2.named ha).lt
      have hne : (p, m) ∉ [(q, n)] := fun hmem => by
        cases List.mem_singleton.mp hmem
        exact hother ha
      rw [hs.child? p hp m hne]
      cases hentry : h.child? p m with
      | none => rfl
      | some j =>
        refine hs.content? j (h.lt_of_child? hentry) fun hmem => ?_
        obtain rfl := List.mem_singleton.mp hmem
        obtain ⟨rfl, rfl⟩ := hname p m hentry
        exact hother ha
    · rfl
  · rw [read?, read?, herror, herror']

/-- What a file is written to: a file that is there already, or a new one. -/
theorem writeFile_eq_ok {content : String} (hw : h.writeFile l content = (.ok (), h')) :
    l.wantsDirectory = false ∧ ∃ q n i, (h.find l).arrival = .ok (.name q n) ∧
      SameBut [(q, n)] [i] h h' ∧ h'.child? q n = some i ∧ h'.content? i = some content ∧
        h.DeadEnd q n ∧
          (h.child? q n = some i ∧ (h.content? i).isSome ∨ i = h.objects.length) := by
  unfold writeFile at hw
  split at hw
  · cases hw
  · rename_i hwants
    refine ⟨Bool.not_eq_true _ ▸ hwants, ?_⟩
    split at hw
    · rename_i q n ha
      obtain ⟨parent, hp⟩ := ((goes_of_route ha).2.named ha).parent?
      split at hw
      · rename_i hentry
        cases hw
        obtain ⟨hsame, hentry', hnew, -⟩ := sameBut_addUnder hp n (.file content)
          (HostObject.within_file ..)
        exact ⟨q, n, _, ha, hsame.mono (fun _ hx => hx) (List.nil_subset _), hentry',
          by rw [content?, hnew], fun j hj => (nomatch hentry.symm.trans hj), .inr rfl⟩
      · rename_i i hentry
        split at hw
        · rename_i hfile
          cases hw
          obtain ⟨old, hold⟩ := Option.isSome_iff_exists.mp hfile
          obtain ⟨hsame, hcontent⟩ := sameBut_replace hold content
            (HostObject.within_file ..)
          exact ⟨q, n, i, ha, hsame.mono (List.nil_subset _) fun _ hx => hx,
            (hsame.child? q (h.directory_lt hentry) n List.not_mem_nil).trans hentry, hcontent,
            deadEnd_of_content hentry hold, .inl ⟨hentry, hfile⟩⟩
        · cases hw
    · cases hw
    · cases hw

/-- What is moved gets another name in place of its own. -/
theorem rename_eq_ok {source target : Location} (hr : h.rename source target = (.ok (), h')) :
    target.wantsDirectory = false ∧ ∃ q n p m i,
      (h.seat source).arrival = .ok (.name q n) ∧ (h.seat target).arrival = .ok (.name p m) ∧
        h.child? q n = some i ∧
          (h.child? p m = some i ∨
            (∀ j, h.child? p m = some j → h.parent? j = none) ∧
              SameBut [(p, m), (q, n)] [] h h' ∧ h'.child? q n = none ∧
                h'.child? p m = some i) := by
  unfold rename at hr
  split at hr
  · cases hr
  · rename_i hwants
    rw [not_or, Bool.not_eq_true, Bool.not_eq_true] at hwants
    refine ⟨hwants.2, ?_⟩
    split at hr
    · rename_i q n p m hsource htarget
      split at hr
      · cases hr
      · rename_i i hentry
        refine ⟨q, n, p, m, i, hsource, htarget, hentry, ?_⟩
        split at hr
        · rename_i hsame
          exact .inl hsame
        · rename_i hne
          split at hr
          · cases hr
          · rename_i hfiles
            cases hr
            obtain ⟨parent, hp⟩ := ((goes_of_route htarget).2.named htarget).parent?
            obtain ⟨parent', hq⟩ := ((goes_of_route hsource).2.named hsource).parent?
            obtain ⟨hput, hentryPut⟩ := sameBut_put hp m (some i) fun _ hi =>
              Option.some.inj hi ▸ h.lt_of_child? hentry
            have hq' := (hput.parent? q (h.lt_of_parent? hq)).trans hq
            obtain ⟨htake, hentryTake⟩ := sameBut_put hq' n none fun _ hi =>
              absurd hi (Option.some_ne_none _).symm
            refine .inr ⟨fun j hj => ?_, hput.trans htake, hentryTake, ?_⟩
            · rw [hj, Option.bind_some, not_or, Option.not_isSome_iff_eq_none] at hfiles
              exact hfiles.1
            refine (htake.child? p (Nat.lt_of_lt_of_le (h.lt_of_parent? hp) hput.length_le) m
              fun hname => ?_).trans hentryPut
            simp only [List.mem_singleton, Prod.mk.injEq] at hname
            rw [hname.1, hname.2] at hne
            exact hne hentry
    · cases hr

theorem writeFile_eq_error {content : String} {e : Error}
    (hw : h.writeFile l content = (.error e, h')) : h' = h := by
  unfold writeFile at hw
  split at hw
  · cases hw; rfl
  · split at hw
    · split at hw
      · cases hw
      · split at hw
        · cases hw
        · cases hw; rfl
    · cases hw; rfl
    · cases hw; rfl

theorem rename_eq_error {source target : Location} {e : Error}
    (hr : h.rename source target = (.error e, h')) : h' = h := by
  unfold rename at hr
  split at hr
  · cases hr; rfl
  · split at hr
    · split at hr
      · cases hr; rfl
      · split at hr
        · cases hr
        · split at hr
          · cases hr; rfl
          · cases hr
    · cases hr; rfl

instance : LawfulFileSystem Host where
  writeFile_error := writeFile_eq_error
  rename_error := rename_eq_error

end Host

end DevConsole
