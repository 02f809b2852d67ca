import DevConsole.Store.Host

/-!
# Ways through the directories of a host

`Host.Goes` lists what each step of a way finds, and is the walk (`goes_walk`, `Goes.walk_eq`). The
facts about ways are inductions on it:

* **Frame** (`SameBut`: the entries under some names and the contents of some files may differ): a
  way that goes over none of the names stays as it is (`Goes.sameBut`). Where a name is a dead end,
  with neither a directory nor a link under it, it may become another one, and only a way that ends
  there sees it (`Goes.not_mem_passed`, `Goes.deadEnd`).
* **Growth** (`Grown`: directories have been added under free names): a way on which no directory
  was missing stays as it is (`Goes.grown`).
* **The last name**: a way to a name goes on to any other name of the directory (`Goes.other_name`),
  and to the same name if links are followed and it is none (`Goes.followed`).
-/

namespace DevConsole

/-- The way leads nowhere. -/
def Way.Lost (w : Way) : Prop := ∃ o, w.arrival = .error o

namespace Host

variable {h h' h'' : Host} {here : Nat} {steps : List String}

/-! ## Changes of objects -/

section

variable {o : HostObject} {ho : o.Within h.objects.length} {i : Nat}

theorem objects_add_lt (hi : i < h.objects.length) : (h.add o ho).objects[i]? = h.objects[i]? :=
  List.getElem?_append_left hi

theorem objects_add_new : (h.add o ho).objects[h.objects.length]? = some o := by
  rw [add, List.getElem?_append_right (Nat.le_refl _), Nat.sub_self]
  rfl

theorem objects_replace_ne {j : Nat} (hne : j ≠ i) :
    (h.replace i o ho).objects[j]? = h.objects[j]? :=
  List.getElem?_set_ne hne.symm

theorem objects_replace_self (hi : i < h.objects.length) :
    (h.replace i o ho).objects[i]? = some o :=
  List.getElem?_set_self hi

theorem objects_put {directory parent : Nat} {name : String} {entry : String → Option Nat}
    {target : Option Nat} {ht : ∀ i, target = some i → i < h.objects.length}
    (hd : h.objects[directory]? = some (.directory parent entry)) :
    (h.put directory name target ht).objects =
      h.objects.set directory
        (.directory parent fun n => if n = name then target else entry n) := by
  unfold put
  split
  · rename_i hd'
    rw [hd] at hd'
    cases hd'
    rfl
  · rename_i hno
    exact absurd hd (hno parent entry)

end

theorem exists_of_parent? {i parent : Nat} (hp : h.parent? i = some parent) :
    ∃ entry, h.objects[i]? = some (.directory parent entry) := by
  unfold parent? at hp
  split at hp
  · rename_i hi
    cases hp
    exact ⟨_, hi⟩
  · cases hp

theorem exists_of_content? {i : Nat} {content : String} (hc : h.content? i = some content) :
    h.objects[i]? = some (.file content) := by
  unfold content? at hc
  split at hc
  · rename_i hi
    rw [hi]
    cases hc
    rfl
  · cases hc

theorem parent?_congr {i : Nat} (hi : h'.objects[i]? = h.objects[i]?) :
    h'.parent? i = h.parent? i := by rw [parent?, hi, parent?]

theorem link?_congr {i : Nat} (hi : h'.objects[i]? = h.objects[i]?) : h'.link? i = h.link? i := by
  rw [link?, hi, link?]

theorem content?_congr {i : Nat} (hi : h'.objects[i]? = h.objects[i]?) :
    h'.content? i = h.content? i := by rw [content?, hi, content?]

theorem child?_congr {i : Nat} (hi : h'.objects[i]? = h.objects[i]?) (n : String) :
    h'.child? i n = h.child? i n := by rw [child?, hi, child?]

/-- The objects are the same, but for the entries under these names and the contents of these
files. There may be new objects. -/
structure SameBut (names : List (Nat × String)) (files : List Nat) (h h' : Host) : Prop where
  working : h'.working = h.working
  length_le : h.objects.length ≤ h'.objects.length
  parent? : ∀ i < h.objects.length, h'.parent? i = h.parent? i
  link? : ∀ i < h.objects.length, h'.link? i = h.link? i
  content? : ∀ i < h.objects.length, i ∉ files → h'.content? i = h.content? i
  child? : ∀ q < h.objects.length, ∀ n, (q, n) ∉ names → h'.child? q n = h.child? q n

theorem SameBut.refl (h : Host) : SameBut [] [] h h :=
  ⟨rfl, Nat.le_refl _, fun _ _ => rfl, fun _ _ => rfl, fun _ _ _ => rfl, fun _ _ _ _ => rfl⟩

theorem SameBut.trans {names names' : List (Nat × String)} {files files' : List Nat}
    (hs : SameBut names files h h') (hs' : SameBut names' files' h' h'') :
    SameBut (names ++ names') (files ++ files') h h'' where
  working := hs'.working.trans hs.working
  length_le := Nat.le_trans hs.length_le hs'.length_le
  parent? i hi := (hs'.parent? i (Nat.lt_of_lt_of_le hi hs.length_le)).trans (hs.parent? i hi)
  link? i hi := (hs'.link? i (Nat.lt_of_lt_of_le hi hs.length_le)).trans (hs.link? i hi)
  content? i hi hne := by
    rw [List.mem_append, not_or] at hne
    exact (hs'.content? i (Nat.lt_of_lt_of_le hi hs.length_le) hne.2).trans
      (hs.content? i hi hne.1)
  child? q hq n hne := by
    rw [List.mem_append, not_or] at hne
    exact (hs'.child? q (Nat.lt_of_lt_of_le hq hs.length_le) n hne.2).trans
      (hs.child? q hq n hne.1)

theorem sameBut_add {o : HostObject} {ho : o.Within h.objects.length} :
    SameBut [] [] h (h.add o ho) where
  working := rfl
  length_le := by
    rw [add, List.length_append]
    exact Nat.le_add_right ..
  parent? i hi := parent?_congr (objects_add_lt hi)
  link? i hi := link?_congr (objects_add_lt hi)
  content? i hi _ := content?_congr (objects_add_lt hi)
  child? q hq n _ := child?_congr (objects_add_lt hq) n

/-- A file has got another content. -/
theorem sameBut_replace {i : Nat} {content : String} (hc : h.content? i = some content)
    (content' : String) (ho : (HostObject.file content').Within h.objects.length) :
    SameBut [] [i] h (h.replace i (.file content') ho) ∧
      (h.replace i (.file content') ho).content? i = some content' := by
  have hi := exists_of_content? hc
  have hself : (h.replace i (.file content') ho).objects[i]? = some (.file content') :=
    objects_replace_self (List.getElem?_eq_some_iff.mp hi).1
  refine ⟨⟨rfl, Nat.le_of_eq (List.length_set ..).symm, fun j _ => ?_, fun j _ => ?_,
    fun j _ hne => ?_, fun q _ n _ => ?_⟩, ?_⟩
  · by_cases hj : j = i
    · rw [hj, parent?, parent?, hself, hi]
    · exact parent?_congr (objects_replace_ne hj)
  · by_cases hj : j = i
    · rw [hj, link?, link?, hself, hi]
    · exact link?_congr (objects_replace_ne hj)
  · exact content?_congr (objects_replace_ne fun hj => hne (List.mem_singleton.mpr hj))
  · by_cases hq : q = i
    · rw [hq, child?, child?, hself, hi]
    · exact child?_congr (objects_replace_ne hq) n
  · rw [content?, hself]

/-- A directory has something else under a name. -/
theorem sameBut_put {q parent : Nat} (hp : h.parent? q = some parent) (n : String)
    (target : Option Nat) (ht : ∀ i, target = some i → i < h.objects.length) :
    SameBut [(q, n)] [] h (h.put q n target ht) ∧ (h.put q n target ht).child? q n = target := by
  obtain ⟨entry, hq⟩ := exists_of_parent? hp
  have hobjects : (h.put q n target ht).objects =
      h.objects.set q (.directory parent fun m => if m = n then target else entry m) :=
    objects_put hq
  have hself : (h.put q n target ht).objects[q]? =
      some (.directory parent fun m => if m = n then target else entry m) := by
    rw [hobjects, List.getElem?_set_self (List.getElem?_eq_some_iff.mp hq).1]
  have hother : ∀ {j}, j ≠ q → (h.put q n target ht).objects[j]? = h.objects[j]? := fun hj => by
    rw [hobjects, List.getElem?_set_ne hj.symm]
  have hworking : (h.put q n target ht).working = h.working := by
    unfold put
    split <;> rfl
  have hlength : (h.put q n target ht).objects.length = h.objects.length := by
    rw [hobjects, List.length_set]
  refine ⟨⟨hworking, Nat.le_of_eq hlength.symm, fun j _ => ?_, fun j _ => ?_, fun j _ _ => ?_,
    fun j _ m hne => ?_⟩, ?_⟩
  · by_cases hj : j = q
    · rw [hj, parent?, hself, hp]
    · exact parent?_congr (hother hj)
  · by_cases hj : j = q
    · rw [hj, link?, link?, hself, hq]
    · exact link?_congr (hother hj)
  · by_cases hj : j = q
    · rw [hj, content?, content?, hself, hq]
    · exact content?_congr (hother hj)
  · by_cases hj : j = q
    · subst hj
      have hm : m ≠ n := fun heq => hne (List.mem_singleton.mpr (by rw [heq]))
      rw [child?, child?, hself, hq]
      exact if_neg hm
    · exact child?_congr (hother hj) m
  · rw [child?, hself]
    exact if_pos rfl

/-- A new object has a name. -/
theorem sameBut_addUnder {q parent : Nat} (hp : h.parent? q = some parent) (n : String)
    (o : HostObject) (ho : o.Within h.objects.length) :
    SameBut [(q, n)] [] h (h.addUnder q n o ho) ∧
      (h.addUnder q n o ho).child? q n = some h.objects.length ∧
      (h.addUnder q n o ho).objects[h.objects.length]? = some o ∧
      (h.addUnder q n o ho).objects.length = h.objects.length + 1 := by
  have hq := h.lt_of_parent? hp
  have hp' : (h.add o ho).parent? q = some parent := (sameBut_add.parent? q hq).trans hp
  obtain ⟨entry, hd⟩ := exists_of_parent? hp'
  obtain ⟨hsame, hentry⟩ := sameBut_put hp' n (some h.objects.length) _
  refine ⟨sameBut_add.trans hsame, hentry, ?_, ?_⟩
  · rw [addUnder, objects_put hd, List.getElem?_set_ne (Nat.ne_of_lt hq), objects_add_new]
  · rw [addUnder, objects_put hd, List.length_set, add, List.length_append, List.length_singleton]

/-! ## Ways -/

/-- A name that can be looked up in a directory. -/
structure Named (h : Host) (here : Nat) (part : String) : Prop where
  parent? : ∃ parent, h.parent? here = some parent
  not_dot : part ≠ "."
  not_up : part ≠ ".."
  short : part.utf8ByteSize ≤ Location.maxName

/-- A step that cannot be taken. -/
def Refuses (h : Host) (here : Nat) (part : String) : Prop :=
  h.parent? here = none ∨ part ≠ "." ∧ part ≠ ".." ∧ Location.maxName < part.utf8ByteSize

/-- The ways from a directory on, with what each of their steps finds. -/
inductive Goes (h : Host) (follow : Bool) : Nat → Nat → List String → Way → Prop
  | done {links here : Nat} : Goes h follow links here [] (.arrive (.object here))
  | refused {links here : Nat} {part : String} {rest : List String} :
      h.Refuses here part → Goes h follow links here (part :: rest) (.stop .refused)
  | stay {links here parent : Nat} {rest : List String} {w : Way} :
      h.parent? here = some parent → Goes h follow links here rest w →
        Goes h follow links here ("." :: rest) w
  | up {links here parent : Nat} {rest : List String} {w : Way} :
      h.parent? here = some parent → Goes h follow links parent rest w →
        Goes h follow links here (".." :: rest) w
  /-- The last name is not looked up if a link there is not to be followed. -/
  | last {links here : Nat} {part : String} : h.Named here part → follow = false →
      Goes h follow links here [part] (.arrive (.name here part))
  | absent {links here : Nat} {part : String} : h.Named here part → follow = true →
      h.child? here part = none →
        Goes h follow links here [part] (.past here part (.arrive (.name here part)))
  | missing {links here : Nat} {part : String} {rest : List String} : h.Named here part →
      rest ≠ [] → h.child? here part = none →
        Goes h follow links here (part :: rest) (.past here part (.stop .missing))
  | present {links here i : Nat} {part : String} : h.Named here part → follow = true →
      h.child? here part = some i → h.link? i = none →
        Goes h follow links here [part] (.past here part (.arrive (.name here part)))
  | through {links here i : Nat} {part : String} {rest : List String} {w : Way} :
      h.Named here part → rest ≠ [] → h.child? here part = some i → h.link? i = none →
        Goes h follow links i rest w → Goes h follow links here (part :: rest) (.past here part w)
  | jump {links here i : Nat} {part target : String} {rest : List String} {w : Way} :
      h.Named here part → (rest = [] → follow = true) → h.child? here part = some i →
        h.link? i = some target →
        Goes h follow links (start (Location.parse target).absolute here)
          (stepsOf (Location.parse target) ++ rest) w →
        Goes h follow (links + 1) here (part :: rest) (.past here part w)
  | tangled {here i : Nat} {part target : String} {rest : List String} : h.Named here part →
      (rest = [] → follow = true) → h.child? here part = some i → h.link? i = some target →
        Goes h follow 0 here (part :: rest) (.past here part (.stop .refused))

section

variable {follow : Bool} {links : Nat} {part : String} {rest : List String} {w : Way}

theorem Named.walkFrom_eq (hn : h.Named here part)
    (jump : String → Nat → List String → Way) :
    h.walkFrom follow jump here (part :: rest) =
      if rest = [] ∧ follow = false then .arrive (.name here part)
      else
        .past here part <|
          match h.child? here part with
          | none => if rest = [] then .arrive (.name here part) else .stop .missing
          | some i =>
            match h.link? i with
            | some target => jump target here rest
            | none =>
              if rest = [] then .arrive (.name here part) else h.walkFrom follow jump i rest := by
  obtain ⟨⟨parent, hp⟩, hdot, hup, hshort⟩ := hn
  rw [walkFrom, hp]
  exact (if_neg hdot).trans ((if_neg hup).trans (if_neg (Nat.not_lt.mpr hshort)))

theorem Refuses.walkFrom_eq (hr : h.Refuses here part)
    (jump : String → Nat → List String → Way) :
    h.walkFrom follow jump here (part :: rest) = .stop .refused := by
  rw [walkFrom]
  split
  · rfl
  · rename_i parent hp
    obtain hnone | ⟨hdot, hup, hlong⟩ := hr
    · rw [hp] at hnone
      cases hnone
    · rw [if_neg hdot, if_neg hup, if_pos hlong]

/-- Where a way goes on behind a link, if so many may follow. -/
def behind (h : Host) (follow : Bool) : Nat → String → Nat → List String → Way
  | 0, _, _, _ => .stop .refused
  | links + 1, target, here, rest =>
    h.walk follow links (start (Location.parse target).absolute here)
      (stepsOf (Location.parse target) ++ rest)

theorem walk_eq (links here : Nat) (steps : List String) :
    h.walk follow links here steps = h.walkFrom follow (h.behind follow links) here steps := by
  cases links <;> rfl

/-- A walk is a way, if there is one behind every link. -/
theorem goes_walkFrom {jump : String → Nat → List String → Way}
    (hjump : ∀ {here i part target rest}, h.Named here part → (rest = [] → follow = true) →
      h.child? here part = some i → h.link? i = some target →
        Goes h follow links here (part :: rest) (.past here part (jump target here rest))) :
    Goes h follow links here steps (h.walkFrom follow jump here steps) := by
  induction steps generalizing here with
  | nil => exact .done
  | cons part rest ih =>
    by_cases hrefused : h.Refuses here part
    · rw [hrefused.walkFrom_eq]
      exact .refused hrefused
    · obtain ⟨hparent, hshort⟩ := not_or.mp hrefused
      obtain ⟨parent, hp⟩ := Option.ne_none_iff_exists'.mp hparent
      by_cases hdot : part = "."
      · subst hdot
        rw [walkFrom, hp]
        exact .stay hp ih
      by_cases hup : part = ".."
      · subst hup
        rw [walkFrom, hp]
        exact .up hp ih
      have hn : h.Named here part :=
        ⟨⟨parent, hp⟩, hdot, hup, Nat.not_lt.mp fun hlong => hshort ⟨hdot, hup, hlong⟩⟩
      rw [hn.walkFrom_eq]
      split
      · rename_i hlast
        obtain ⟨rfl, rfl⟩ := hlast
        exact .last hn rfl
      · rename_i hlast
        have hfollow : rest = [] → follow = true := fun hrest => by
          cases follow with
          | true => rfl
          | false => exact absurd ⟨hrest, rfl⟩ hlast
        cases hentry : h.child? here part with
        | none =>
          by_cases hrest : rest = []
          · subst hrest
            exact .absent hn (hfollow rfl) hentry
          · simp only [if_neg hrest]
            exact .missing hn hrest hentry
        | some i =>
          cases hlink : h.link? i with
          | some target => simp only [hlink]; exact hjump hn hfollow hentry hlink
          | none =>
            by_cases hrest : rest = []
            · subst hrest
              simp only [hlink]
              exact .present hn (hfollow rfl) hentry hlink
            · simp only [hlink, if_neg hrest]
              exact .through hn hrest hentry hlink ih

theorem goes_walk (h : Host) (follow : Bool) (links here : Nat) (steps : List String) :
    Goes h follow links here steps (h.walk follow links here steps) := by
  induction links generalizing here steps with
  | zero => exact goes_walkFrom fun hn hfollow hentry hlink => .tangled hn hfollow hentry hlink
  | succ links ih =>
    exact goes_walkFrom fun hn hfollow hentry hlink => .jump hn hfollow hentry hlink (ih ..)

/-- There is one way only. -/
theorem Goes.walk_eq (hg : Goes h follow links here steps w) :
    h.walk follow links here steps = w := by
  induction hg with
  | done => rw [Host.walk_eq]; rfl
  | refused hr => rw [Host.walk_eq, hr.walkFrom_eq]
  | stay hp _ ih => rw [Host.walk_eq] at ih ⊢; rw [walkFrom, hp]; exact ih
  | up hp _ ih => rw [Host.walk_eq] at ih ⊢; rw [walkFrom, hp]; exact ih
  | last hn hfollow => rw [Host.walk_eq, hn.walkFrom_eq, if_pos ⟨rfl, hfollow⟩]
  | absent hn hfollow hentry => rw [Host.walk_eq, hn.walkFrom_eq]; simp [hfollow, hentry]
  | missing hn hrest hentry => rw [Host.walk_eq, hn.walkFrom_eq]; simp [hrest, hentry]
  | present hn hfollow hentry hlink =>
    rw [Host.walk_eq, hn.walkFrom_eq]
    simp [hfollow, hentry, hlink]
  | through hn hrest hentry hlink _ ih =>
    rw [Host.walk_eq] at ih
    rw [Host.walk_eq, hn.walkFrom_eq]
    simp [hrest, hentry, hlink, ih]
  | jump hn hfollow hentry hlink _ ih =>
    rw [Host.walk_eq, hn.walkFrom_eq, if_neg fun hlast => by simp [hfollow hlast.1] at hlast]
    simp only [hentry, hlink, behind, ih]
  | tangled hn hfollow hentry hlink =>
    rw [Host.walk_eq, hn.walkFrom_eq, if_neg fun hlast => by simp [hfollow hlast.1] at hlast]
    simp only [hentry, hlink, behind]

/-! ### What ways have in common -/

theorem start_lt {absolute : Bool} (hhere : here < h.objects.length) :
    start absolute here < h.objects.length := by
  unfold start
  split
  · exact Nat.zero_lt_of_lt hhere
  · exact hhere

theorem Goes.named (hg : Goes h follow links here steps w) {p : Nat} {n : String}
    (ha : w.arrival = .ok (.name p n)) : h.Named p n := by
  induction hg with
  | done | refused | missing | tangled => cases ha
  | stay _ _ ih | up _ _ ih | through _ _ _ _ _ ih | jump _ _ _ _ _ ih => exact ih ha
  | last hn | absent hn | present hn => cases ha; exact hn

/-- Ways that lead to a name go on to any other name in the same directory. -/
theorem Goes.other_name (hg : Goes h false links here steps w) {p : Nat} {n : String}
    (ha : w.arrival = .ok (.name p n)) :
    ∃ above, steps = above ++ [n] ∧ ∀ m, h.Named p m →
      Goes h false links here (above ++ [m]) ⟨w.passed, .ok (.name p m)⟩ := by
  induction hg with
  | done | refused | missing | tangled => cases ha
  | @stay _ _ parent _ _ hp _ ih =>
    obtain ⟨above, rfl, hother⟩ := ih ha
    exact ⟨"." :: above, rfl, fun m hm => .stay hp (hother m hm)⟩
  | @up _ _ parent _ _ hp _ ih =>
    obtain ⟨above, rfl, hother⟩ := ih ha
    exact ⟨".." :: above, rfl, fun m hm => .up hp (hother m hm)⟩
  | last hn hlast =>
    cases ha
    exact ⟨[], rfl, fun m hm => .last hm hlast⟩
  | absent _ hlast | present _ hlast => cases hlast
  | @through _ _ i part _ _ hn _ hentry hlink _ ih =>
    obtain ⟨above, rfl, hother⟩ := ih ha
    exact ⟨part :: above, rfl, fun m hm => .through hn (by simp) hentry hlink (hother m hm)⟩
  | @jump _ _ i part target rest _ hn hlast hentry hlink _ ih =>
    obtain ⟨above, hsteps, hother⟩ := ih ha
    -- the last name is one of the steps behind the link
    have hrest : rest ≠ [] := fun hrest => nomatch hlast hrest
    obtain ⟨above', n', hconcat⟩ := (List.eq_nil_or_concat rest).resolve_left hrest
    rw [List.concat_eq_append] at hconcat
    subst hconcat
    rw [← List.append_assoc] at hsteps
    obtain ⟨rfl, hname⟩ := List.append_inj' hsteps rfl
    cases hname
    refine ⟨part :: above', rfl, fun m hm => ?_⟩
    have hbehind := hother m hm
    rw [List.append_assoc] at hbehind
    exact .jump hn (fun hno => absurd hno (by simp)) hentry hlink hbehind

/-- A way to a last name that is no link is the way to what the path stands for. -/
theorem Goes.followed (hg : Goes h false links here steps w) {p : Nat} {n : String}
    (ha : w.arrival = .ok (.name p n)) (hlink : (h.child? p n).bind h.link? = none) :
    Goes h true links here steps ⟨w.passed ++ [(p, n)], .ok (.name p n)⟩ := by
  induction hg with
  | done | refused | missing | tangled => cases ha
  | stay hp _ ih => exact .stay hp (ih ha)
  | up hp _ ih => exact .up hp (ih ha)
  | last hn =>
    cases ha
    cases hentry : h.child? p n with
    | none => exact .absent hn rfl hentry
    | some i =>
      rw [hentry] at hlink
      exact .present hn rfl hentry hlink
  | absent _ hlast | present _ hlast => cases hlast
  | through hn hrest hentry hlink _ ih => exact .through hn hrest hentry hlink (ih ha)
  | jump hn hlast hentry hlink _ ih =>
    exact .jump hn (fun _ => rfl) hentry hlink (ih ha)

/-- If a link at the end is followed too, a way that leads to no name is the same. -/
theorem Goes.follow_eq (hg : Goes h false links here steps w)
    (hno : ∀ p n, w.arrival ≠ .ok (.name p n)) : Goes h true links here steps w := by
  induction hg with
  | done => exact .done
  | refused hr => exact .refused hr
  | stay hp _ ih => exact .stay hp (ih hno)
  | up hp _ ih => exact .up hp (ih hno)
  | last => exact absurd rfl (hno _ _)
  | absent _ hlast | present _ hlast => cases hlast
  | missing hn hrest hentry => exact .missing hn hrest hentry
  | through hn hrest hentry hlink _ ih => exact .through hn hrest hentry hlink (ih hno)
  | jump hn _ hentry hlink _ ih => exact .jump hn (fun _ => rfl) hentry hlink (ih hno)
  | tangled hn _ hentry hlink => exact .tangled hn (fun _ => rfl) hentry hlink

/-- Without links, a way that leads to a name ends with that name. -/
theorem Goes.exists_last (hg : Goes h follow links here steps w) {p : Nat} {n : String}
    (ha : w.arrival = .ok (.name p n)) (hno : ∀ q m i, h.child? q m = some i → h.link? i = none) :
    ∃ above, steps = above ++ [n] := by
  induction hg with
  | done | refused | missing | tangled => cases ha
  | stay _ _ ih | up _ _ ih | through _ _ _ _ _ ih =>
    obtain ⟨above, rfl⟩ := ih ha
    exact ⟨_ :: above, rfl⟩
  | last | absent | present => cases ha; exact ⟨[], rfl⟩
  | jump _ _ hentry hlink =>
    rw [hno _ _ _ hentry] at hlink
    cases hlink

/-! ### Names behind which there is nothing -/

/-- There is neither a directory nor a link under the name. -/
def DeadEnd (h : Host) (q : Nat) (n : String) : Prop :=
  ∀ i, h.child? q n = some i → h.parent? i = none ∧ h.link? i = none

theorem deadEnd_of_content {q i : Nat} {n content : String} (hentry : h.child? q n = some i)
    (hc : h.content? i = some content) : h.DeadEnd q n := by
  intro j hj
  obtain rfl := Option.some.inj (hentry.symm.trans hj)
  have hi := exists_of_content? hc
  exact ⟨by rw [parent?, hi], by rw [link?, hi]⟩

theorem Goes.isDirectory (hg : Goes h follow links here steps w) {a : Arrival}
    (hok : w.arrival = .ok a) (hsteps : steps ≠ []) : (h.parent? here).isSome := by
  cases hg with
  | done => exact absurd rfl hsteps
  | refused => cases hok
  | stay hp | up hp => rw [hp]; rfl
  | last hn | absent hn | missing hn | present hn | through hn | jump hn | tangled hn =>
    obtain ⟨parent, hp⟩ := hn.parent?
    rw [hp]
    rfl

/-- A way that goes on behind a dead end leads nowhere. -/
theorem DeadEnd.exists_goes (hdead : h.DeadEnd here part) (hn : h.Named here part)
    (hrest : rest ≠ []) :
    ∃ w, Goes h true links here (part :: rest) w ∧ w.Lost := by
  cases hentry : h.child? here part with
  | none => exact ⟨_, .missing hn hrest hentry, _, rfl⟩
  | some i =>
    obtain ⟨hp, hlink⟩ := hdead i hentry
    obtain ⟨next, more, rfl⟩ := List.exists_cons_of_ne_nil hrest
    exact ⟨_, .through hn hrest hentry hlink (.refused (.inl hp)), _, rfl⟩

/-- A way through a dead end leads nowhere. -/
theorem Goes.lost_of_deadEnd {i : Nat} (hg : Goes h follow links i rest w) (hrest : rest ≠ [])
    (hentry : h.child? here part = some i) (hdead : h.DeadEnd here part) : w.Lost := by
  cases ha : w.arrival with
  | error o => exact ⟨o, ha⟩
  | ok a =>
    have hdirectory := hg.isDirectory ha hrest
    rw [(hdead i hentry).1] at hdirectory
    cases hdirectory

/-- Behind a dead end there is no link. -/
theorem DeadEnd.not_link {i : Nat} {target : String} (hdead : h.DeadEnd here part)
    (hentry : h.child? here part = some i) : h.link? i ≠ some target := fun hlink => by
  rw [(hdead i hentry).2] at hlink
  cases hlink

/-- A way that leads somewhere goes over no name that is a dead end, unless it ends there. -/
theorem Goes.not_mem_passed (hg : Goes h follow links here steps w) {a : Arrival}
    (hok : w.arrival = .ok a) {q : Nat} {n : String} (hdead : h.DeadEnd q n)
    (hother : follow = true → w.arrival ≠ .ok (.name q n)) : (q, n) ∉ w.passed := by
  induction hg with
  | done | refused | last => exact List.not_mem_nil
  | missing | tangled => cases hok
  | stay _ _ ih | up _ _ ih => exact ih hok hother
  | absent _ hfollow | present _ hfollow =>
    intro hmem
    cases List.mem_singleton.mp hmem
    exact hother hfollow rfl
  | through _ hrest hentry _ hgoes ih =>
    intro hmem
    obtain heq | hmem := List.mem_cons.mp hmem
    · cases heq
      obtain ⟨o, hlost⟩ := hgoes.lost_of_deadEnd hrest hentry hdead
      exact nomatch hlost.symm.trans hok
    · exact ih hok hother hmem
  | jump _ _ hentry hlink _ ih =>
    intro hmem
    obtain heq | hmem := List.mem_cons.mp hmem
    · cases heq
      exact hdead.not_link hentry hlink
    · exact ih hok hother hmem

/-! ### What keeps ways open -/

theorem SameBut.named {names : List (Nat × String)} {files : List Nat}
    (hs : SameBut names files h h') (hhere : here < h.objects.length) (hn : h.Named here part) :
    h'.Named here part :=
  ⟨(hs.parent? here hhere).symm ▸ hn.parent?, hn.not_dot, hn.not_up, hn.short⟩

theorem Named.lt (hn : h.Named here part) : here < h.objects.length :=
  hn.parent?.elim fun _ hp => h.lt_of_parent? hp

/-- A way that goes over names whose entries are the same stays as it is. -/
theorem Goes.sameBut {names : List (Nat × String)} {files : List Nat}
    (hg : Goes h follow links here steps w) (hs : SameBut names files h h')
    (hhere : here < h.objects.length) (hpassed : ∀ x ∈ w.passed, x ∉ names) :
    Goes h' follow links here steps w := by
  induction hg with
  | done => exact .done
  | refused hr => exact .refused (hr.imp_left (hs.parent? _ hhere).trans)
  | stay hp _ ih => exact .stay ((hs.parent? _ hhere).trans hp) (ih hhere hpassed)
  | up hp _ ih => exact .up ((hs.parent? _ hhere).trans hp) (ih (h.parent_lt hp) hpassed)
  | last hn hlast => exact .last (hs.named hhere hn) hlast
  | absent hn hlast hentry =>
    have hsame := hs.child? _ hhere _ (hpassed _ List.mem_cons_self)
    exact .absent (hs.named hhere hn) hlast (hsame.trans hentry)
  | missing hn hrest hentry =>
    have hsame := hs.child? _ hhere _ (hpassed _ List.mem_cons_self)
    exact .missing (hs.named hhere hn) hrest (hsame.trans hentry)
  | present hn hlast hentry hlink =>
    have hsame := hs.child? _ hhere _ (hpassed _ List.mem_cons_self)
    have hi := h.lt_of_child? hentry
    exact .present (hs.named hhere hn) hlast (hsame.trans hentry) ((hs.link? _ hi).trans hlink)
  | through hn hrest hentry hlink _ ih =>
    obtain ⟨hname, hmore⟩ := List.forall_mem_cons.mp hpassed
    have hi := h.lt_of_child? hentry
    exact .through (hs.named hhere hn) hrest ((hs.child? _ hhere _ hname).trans hentry)
      ((hs.link? _ hi).trans hlink) (ih hi hmore)
  | jump hn hlast hentry hlink _ ih =>
    obtain ⟨hname, hmore⟩ := List.forall_mem_cons.mp hpassed
    exact .jump (hs.named hhere hn) hlast ((hs.child? _ hhere _ hname).trans hentry)
      ((hs.link? _ (h.lt_of_child? hentry)).trans hlink) (ih (start_lt hhere) hmore)
  | tangled hn hlast hentry hlink =>
    have hsame := hs.child? _ hhere _ (hpassed _ List.mem_cons_self)
    exact .tangled (hs.named hhere hn) hlast (hsame.trans hentry)
      ((hs.link? _ (h.lt_of_child? hentry)).trans hlink)

/-- A way from there is this one, or both lead nowhere. -/
def Alike (h : Host) (links here : Nat) (steps : List String) (w : Way) : Prop :=
  ∃ w', Goes h true links here steps w' ∧ (w' = w ∨ w.Lost ∧ w'.Lost)

theorem Goes.alike (hg : Goes h true links here steps w) : h.Alike links here steps w :=
  ⟨w, hg, .inl rfl⟩

theorem Alike.past {links' here' q : Nat} {steps' : List String} {n : String}
    (ha : h.Alike links here steps w)
    (hg : ∀ {w'}, Goes h true links here steps w' →
      Goes h true links' here' steps' (.past q n w')) :
    h.Alike links' here' steps' (.past q n w) := by
  obtain ⟨w', hgoes, rfl | hlost⟩ := ha
  · exact (hg hgoes).alike
  · exact ⟨_, hg hgoes, .inr hlost⟩

/-- A way that does not end at a dead end does not come to end there either, whatever is put in its
place that is a dead end too. -/
theorem Goes.deadEnd {q : Nat} {n : String} {files : List Nat}
    (hg : Goes h true links here steps w) (hs : SameBut [(q, n)] files h h')
    (hhere : here < h.objects.length) (hother : w.arrival ≠ .ok (.name q n))
    (hdead : h.DeadEnd q n) (hdead' : h'.DeadEnd q n) : h'.Alike links here steps w := by
  induction hg with
  | done => exact Goes.done.alike
  | refused hr => exact (Goes.refused (hr.imp_left (hs.parent? _ hhere).trans)).alike
  | stay hp _ ih =>
    exact (ih hhere hother).imp fun _ => And.imp_left (.stay ((hs.parent? _ hhere).trans hp))
  | up hp _ ih =>
    exact (ih (h.parent_lt hp) hother).imp fun _ =>
      And.imp_left (.up ((hs.parent? _ hhere).trans hp))
  | last _ hlast => cases hlast
  | @absent _ here part hn hlast hentry =>
    have hsame := hs.child? here hhere part fun hmem => by
      cases List.mem_singleton.mp hmem
      exact hother rfl
    exact (Goes.absent (hs.named hhere hn) hlast (hsame.trans hentry)).alike
  | @present _ here i part hn hlast hentry hlink =>
    have hsame := hs.child? here hhere part fun hmem => by
      cases List.mem_singleton.mp hmem
      exact hother rfl
    exact (Goes.present (hs.named hhere hn) hlast (hsame.trans hentry)
      ((hs.link? i (h.lt_of_child? hentry)).trans hlink)).alike
  | @missing _ here part rest hn hrest hentry =>
    by_cases hmem : (here, part) ∈ [(q, n)]
    · cases List.mem_singleton.mp hmem
      obtain ⟨w', hg', hlost'⟩ := hdead'.exists_goes (hs.named hhere hn) hrest
      exact ⟨w', hg', .inr ⟨⟨_, rfl⟩, hlost'⟩⟩
    · have hsame := hs.child? here hhere part hmem
      exact (Goes.missing (hs.named hhere hn) hrest (hsame.trans hentry)).alike
  | @through _ here i part rest w hn hrest hentry hlink hgoes ih =>
    by_cases hmem : (here, part) ∈ [(q, n)]
    · cases List.mem_singleton.mp hmem
      obtain ⟨w', hg', hlost'⟩ := hdead'.exists_goes (hs.named hhere hn) hrest
      exact ⟨w', hg', .inr ⟨hgoes.lost_of_deadEnd hrest hentry hdead, hlost'⟩⟩
    · have hi := h.lt_of_child? hentry
      have hsame := hs.child? here hhere part hmem
      exact (ih hi hother).past
        (.through (hs.named hhere hn) hrest (hsame.trans hentry) ((hs.link? i hi).trans hlink))
  | @jump _ here i part target rest w hn hlast hentry hlink _ ih =>
    have hsame := hs.child? here hhere part fun hmem => by
      cases List.mem_singleton.mp hmem
      exact hdead.not_link hentry hlink
    exact (ih (start_lt hhere) hother).past (.jump (hs.named hhere hn) hlast (hsame.trans hentry)
      ((hs.link? i (h.lt_of_child? hentry)).trans hlink))
  | @tangled here i part target rest hn hlast hentry hlink =>
    have hsame := hs.child? here hhere part fun hmem => by
      cases List.mem_singleton.mp hmem
      exact hdead.not_link hentry hlink
    exact (Goes.tangled (hs.named hhere hn) hlast (hsame.trans hentry)
      ((hs.link? i (h.lt_of_child? hentry)).trans hlink)).alike

/-- Directories have been added under names that were free, and nothing else has changed. -/
structure Grown (h h' : Host) : Prop where
  working : h'.working = h.working
  length_le : h.objects.length ≤ h'.objects.length
  objects : ∀ i < h.objects.length, h'.parent? i = h.parent? i ∧ h'.link? i = h.link? i ∧
    h'.content? i = h.content? i
  child? : ∀ {q n i}, h.child? q n = some i → h'.child? q n = some i
  new : ∀ {q n i}, q < h.objects.length → h.child? q n = none → h'.child? q n = some i →
    (h'.parent? i).isSome

namespace Grown

theorem refl (h : Host) : Grown h h where
  working := rfl
  length_le := Nat.le_refl _
  objects _ _ := ⟨rfl, rfl, rfl⟩
  child? hentry := hentry
  new _ hnone hsome := by
    rw [hnone] at hsome
    cases hsome

theorem trans (hg : Grown h h') (hg' : Grown h' h'') : Grown h h'' where
  working := hg'.working.trans hg.working
  length_le := Nat.le_trans hg.length_le hg'.length_le
  objects i hi := by
    have hi' := Nat.lt_of_lt_of_le hi hg.length_le
    obtain ⟨hparent, hlink, hcontent⟩ := hg.objects i hi
    obtain ⟨hparent', hlink', hcontent'⟩ := hg'.objects i hi'
    exact ⟨hparent'.trans hparent, hlink'.trans hlink, hcontent'.trans hcontent⟩
  child? hentry := hg'.child? (hg.child? hentry)
  new {q n i} hq hnone hsome := by
    cases hmade : h'.child? q n with
    | none => exact hg'.new (Nat.lt_of_lt_of_le hq hg.length_le) hmade hsome
    | some j =>
      obtain rfl := Option.some.inj ((hg'.child? hmade).symm.trans hsome)
      rw [(hg'.objects j (h'.lt_of_child? hmade)).1]
      exact hg.new hq hnone hmade

theorem named (hg : Grown h h') (hn : h.Named here part) : h'.Named here part :=
  ⟨(hg.objects here hn.lt).1.symm ▸ hn.parent?, hn.not_dot, hn.not_up, hn.short⟩

end Grown

theorem link?_of_parent? {i : Nat} (hp : (h.parent? i).isSome) : h.link? i = none := by
  obtain ⟨parent, hp⟩ := Option.isSome_iff_exists.mp hp
  obtain ⟨entry, hi⟩ := exists_of_parent? hp
  rw [link?, hi]

theorem content?_of_parent? {i : Nat} (hp : (h.parent? i).isSome) : h.content? i = none := by
  obtain ⟨parent, hp⟩ := Option.isSome_iff_exists.mp hp
  obtain ⟨entry, hi⟩ := exists_of_parent? hp
  rw [content?, hi]

/-- A way on which no directory is missing stays as it is when directories are made. -/
theorem Goes.grown (hg : Goes h follow links here steps w) (hgr : Grown h h')
    (hhere : here < h.objects.length) (hfound : w.arrival ≠ .error .missing) :
    Goes h' follow links here steps w := by
  induction hg with
  | done => exact .done
  | refused hr => exact .refused (hr.imp_left (hgr.objects _ hhere).1.trans)
  | stay hp _ ih => exact .stay ((hgr.objects _ hhere).1.trans hp) (ih hhere hfound)
  | up hp _ ih => exact .up ((hgr.objects _ hhere).1.trans hp) (ih (h.parent_lt hp) hfound)
  | last hn hlast => exact .last (hgr.named hn) hlast
  | @absent _ here part hn hlast hentry =>
    cases hmade : h'.child? here part with
    | none => exact .absent (hgr.named hn) hlast hmade
    | some i =>
      exact .present (hgr.named hn) hlast hmade (link?_of_parent? (hgr.new hhere hentry hmade))
  | missing => exact absurd rfl hfound
  | present hn hlast hentry hlink =>
    exact .present (hgr.named hn) hlast (hgr.child? hentry)
      ((hgr.objects _ (h.lt_of_child? hentry)).2.1.trans hlink)
  | through hn hrest hentry hlink _ ih =>
    have hi := h.lt_of_child? hentry
    exact .through (hgr.named hn) hrest (hgr.child? hentry)
      ((hgr.objects _ hi).2.1.trans hlink) (ih hi hfound)
  | jump hn hlast hentry hlink _ ih =>
    exact .jump (hgr.named hn) hlast (hgr.child? hentry)
      ((hgr.objects _ (h.lt_of_child? hentry)).2.1.trans hlink) (ih (start_lt hhere) hfound)
  | tangled hn hlast hentry hlink =>
    exact .tangled (hgr.named hn) hlast (hgr.child? hentry)
      ((hgr.objects _ (h.lt_of_child? hentry)).2.1.trans hlink)

end

end Host

end DevConsole
