import DevConsole.Files.Redirect
import DevConsole.Proofs.Regex.Capture
import DevConsole.Proofs.Text.Words

/-!
# Reading a redirect

The pattern is a good one (`Redirect.pattern?_eq`), and the matches that it has in a line are the
ways to take the line apart into a text in quotes, the sign and a name (`Redirect.exists_way_body`).
There are several such ways where blanks stand before the name, but all have the same text and the
same trimmed name (`Redirect.Parts.eq`), so that exactly the lines of this form are read
(`Redirect.parse?_eq_some_iff`). From a line that is put together of a text and a name both are read
back, if the name that is read is the one that was put in: a quote in the text would end it early,
and the name would get more quotes (`Redirect.eq_of_parse?`).
-/

namespace DevConsole.Files.Redirect

open Unicode (Ranges)

variable {line text name : String} {r : Redirect} {c : Char}

/-! ## The pattern -/

/-- Every character but the double quote. -/
def unquoted : Ranges := [(0, 33), (35, 0x10FFFF)]

/-- Every character but the line feed. -/
def unbroken : Ranges := [(0, 9), (11, 0x10FFFF)]

def blanks : Ranges :=
  [(9, 13), (32, 32), (0x85, 0x85), (0xA0, 0xA0), (0x1680, 0x1680), (0x2000, 0x200A),
    (0x2028, 0x2029), (0x202F, 0x202F), (0x205F, 0x205F), (0x3000, 0x3000)]

def anyBlanks : Regex := .repeated 0 none true (.set true blanks)

/-- What the pattern says about the line from its sign on. -/
def target : Regex :=
  .seq (.literal ['>']) (.seq anyBlanks
    (.seq (.group 2 (.repeated 1 none true (.set true unbroken))) (.anchor .textEnd)))

def body : Regex :=
  .seq (.literal ['"']) (.seq (.group 1 (.repeated 1 none true (.set true unquoted)))
    (.seq (.literal ['"']) (.seq anyBlanks target)))

theorem pattern?_eq : pattern? = some (.seq (.anchor .textStart) body) := by decide +kernel

theorem toNat_eq_iff {d : Char} : c.toNat = d.toNat ↔ c = d :=
  ⟨fun h => Char.ext (UInt32.toNat_inj.mp h), congrArg Char.toNat⟩

theorem unquoted_contains : unquoted.contains c.toNat = true ↔ c ≠ '"' := by
  have h := Unicode.toNat_le c
  rw [Ne, ← toNat_eq_iff (d := '"'), show ('"').toNat = 34 from rfl,
    Ranges.contains_eq_any (by decide) (by decide)]
  simp [unquoted]
  omega

theorem unbroken_contains : unbroken.contains c.toNat = true ↔ c ≠ '\n' := by
  have h := Unicode.toNat_le c
  rw [Ne, ← toNat_eq_iff (d := '\n'), show ('\n').toNat = 10 from rfl,
    Ranges.contains_eq_any (by decide) (by decide)]
  simp [unbroken]
  omega

theorem blanks_contains : blanks.contains c.toNat = true ↔ Text.isBlank c = true := by
  have hone : ∀ n m : Nat, (n ≤ m ∧ m ≤ n) = (m = n) := fun n m => propext (by omega)
  have hpair : (8232 ≤ c.toNat ∧ c.toNat ≤ 8233) = (c.toNat = 8232 ∨ c.toNat = 8233) :=
    propext (by omega)
  rw [Ranges.contains_eq_any (by decide) (by decide)]
  simp [blanks, Text.isBlank, hone, hpair, or_assoc]

/-! ## The parts of a line -/

/-- A text in quotes, the sign and a name, with blanks around the sign or not. -/
structure Parts (cs text gap more name : List Char) : Prop where
  line_eq : cs = '"' :: (text ++ '"' :: (gap ++ '>' :: (more ++ name)))
  text_ne_nil : text ≠ []
  quote_not_mem : '"' ∉ text
  isBlank_gap : ∀ c ∈ gap, Text.isBlank c = true
  isBlank_more : ∀ c ∈ more, Text.isBlank c = true
  name_ne_nil : name ≠ []
  feed_not_mem : '\n' ∉ name

theorem forall_unquoted {cs : List Char} :
    (∀ c ∈ cs, unquoted.contains c.toNat = true) ↔ '"' ∉ cs := by
  simp only [unquoted_contains]
  exact ⟨fun h hc => h _ hc rfl, fun h c hc he => h (he ▸ hc)⟩

theorem forall_unbroken {cs : List Char} :
    (∀ c ∈ cs, unbroken.contains c.toNat = true) ↔ '\n' ∉ cs := by
  simp only [unbroken_contains]
  exact ⟨fun h hc => h _ hc rfl, fun h c hc he => h (he ▸ hc)⟩

/-- What the groups of a match hold from the sign on. -/
theorem exists_way_target {c : Regex.Cursor} {groups : List (Nat × List Char)} :
    (∃ d ∈ target.ways c, d.groups = groups) ↔ ∃ more name, c.rest = '>' :: (more ++ name) ∧
      (∀ x ∈ more, Text.isBlank x = true) ∧ name ≠ [] ∧ '\n' ∉ name ∧
        groups = (2, name) :: c.groups := by
  simp only [target, anyBlanks, Regex.mem_ways_seq, Regex.mem_ways_literal, Regex.mem_ways_many,
    Regex.mem_ways_group, Regex.mem_ways_some, Regex.mem_ways_anchor, blanks_contains,
    forall_unbroken]
  constructor
  · rintro ⟨_, ⟨_, ⟨rest, hrest, rfl⟩, _, ⟨more, named, hrest', hmore, rfl⟩, d,
      ⟨_, ⟨name, ending, hnamed, hne, hfeed, rfl⟩, rfl⟩, hend, rfl⟩, rfl⟩
    have hclose := Regex.Cursor.close_past (c := ((c.past ['>'] rest).past more named)) hnamed 2
    rw [hclose] at hend ⊢
    obtain rfl : ending = [] := by
      cases ending with
      | nil => rfl
      | cons x ending => cases hend
    have hrest' : rest = more ++ named := hrest'
    have hnamed : named = name ++ [] := hnamed
    rw [List.append_nil] at hnamed
    exact ⟨more, name, by rw [hrest, hrest', hnamed], hmore, hne, hfeed, rfl⟩
  · rintro ⟨more, name, hrest, hmore, hne, hfeed, rfl⟩
    have hclose := Regex.Cursor.close_past (c := (c.past ['>'] (more ++ name)).past more name)
      (List.append_nil name).symm 2
    refine ⟨_, ⟨_, ⟨_, hrest, rfl⟩, _, ⟨more, name, rfl, hmore, rfl⟩, _,
      ⟨_, ⟨name, [], (List.append_nil name).symm, hne, hfeed, rfl⟩, hclose⟩, rfl, rfl⟩, rfl⟩

/-- What the groups of a match hold. -/
theorem exists_way_body {cs : List Char} {groups : List (Nat × List Char)} :
    (∃ d ∈ body.ways ⟨none, cs, []⟩, d.groups = groups) ↔
      ∃ text gap more name, Parts cs text gap more name ∧ groups = [(2, name), (1, text)] := by
  simp only [body, anyBlanks, Regex.mem_ways_seq, Regex.mem_ways_literal, Regex.mem_ways_many,
    Regex.mem_ways_group, Regex.mem_ways_some, blanks_contains, forall_unquoted]
  constructor
  · rintro ⟨d, ⟨_, ⟨rest, hrest, rfl⟩, _, ⟨_, ⟨text, after, hafter, hne, hquote, rfl⟩, rfl⟩, _,
      ⟨signed, hsigned, rfl⟩, e, ⟨gap, named, hgap, hblank, rfl⟩, hd⟩, hgroups⟩
    have hclose :=
      Regex.Cursor.close_past (c := Regex.Cursor.past ⟨none, cs, []⟩ ['"'] rest) hafter 1
    rw [hclose] at hsigned hd
    obtain ⟨more, name, hnamed, hmore, hname, hfeed, rfl⟩ :=
      exists_way_target.mp ⟨d, hd, hgroups⟩
    have hcs : cs = '"' :: rest := hrest
    have hrest : rest = text ++ after := hafter
    have hafter : after = '"' :: signed := hsigned
    have hsigned : signed = gap ++ named := hgap
    have hnamed : named = '>' :: (more ++ name) := hnamed
    refine ⟨text, gap, more, name, ⟨?_, hne, hquote, hblank, hmore, hname, hfeed⟩, rfl⟩
    rw [hcs, hrest, hafter, hsigned, hnamed]
  · rintro ⟨text, gap, more, name, h, rfl⟩
    have hcs := h.line_eq
    let sign : Regex.Cursor := ⟨gap.getLast?.or (some '"'), '>' :: (more ++ name), [(1, text)]⟩
    obtain ⟨d, hd, hgroups⟩ := (exists_way_target (c := sign)).mpr
      ⟨more, name, rfl, h.isBlank_more, h.name_ne_nil, h.feed_not_mem, rfl⟩
    exact ⟨d, ⟨_, ⟨_, hcs, rfl⟩, _, ⟨_, ⟨text, _, rfl, h.text_ne_nil, h.quote_not_mem, rfl⟩,
      Regex.Cursor.close_past rfl 1⟩, _, ⟨_, rfl, rfl⟩, _, ⟨gap, _, rfl, h.isBlank_gap, rfl⟩, hd⟩,
      hgroups⟩

/-! ## One reading -/

theorem takeWhile_quote {cs rest : List Char} (h : '"' ∉ cs) :
    (cs ++ '"' :: rest).takeWhile (· != '"') = cs :=
  Text.takeWhile_run (fun _ hc => bne_iff_ne.mpr fun he => h (he ▸ hc)) (by simp)

/-- Blanks before a name do not matter for what is left of it. -/
theorem trimChars_append {cs : List Char} (h : ∀ c ∈ cs, Text.isBlank c = true)
    (ds : List Char) : Text.trimChars (cs ++ ds) = Text.trimChars ds := by
  rw [← Text.trimChars_trimStartChars, Text.trimStartChars_append h, Text.trimChars_trimStartChars]

namespace Parts

variable {cs text gap more name text' gap' more' name' : List Char}

/-- However a line is taken apart, the text is the same, and so is what is left of the name. -/
theorem eq (h : Parts cs text gap more name) (h' : Parts cs text' gap' more' name') :
    text = text' ∧ Text.trimChars name = Text.trimChars name' := by
  have hline := (List.cons.inj (h.line_eq.symm.trans h'.line_eq)).2
  have htext := congrArg (List.takeWhile (· != '"')) hline
  rw [takeWhile_quote h.quote_not_mem, takeWhile_quote h'.quote_not_mem] at htext
  subst htext
  refine ⟨rfl, ?_⟩
  have hgap := congrArg Text.trimStartChars (List.cons.inj (List.append_cancel_left hline)).2
  rw [Text.trimStartChars_append h.isBlank_gap, Text.trimStartChars_append h'.isBlank_gap,
    Text.trimStartChars_of_cons (by decide), Text.trimStartChars_of_cons (by decide)] at hgap
  have hname := congrArg Text.trimChars (List.cons.inj hgap).2
  rwa [trimChars_append h.isBlank_more, trimChars_append h'.isBlank_more] at hname

end Parts

/-- What is read of a line that can be taken apart. -/
theorem parse?_eq_some_iff_parts : parse? line = some r ↔ ∃ text gap more name,
    Parts line.toList text gap more name ∧
      r = ⟨String.ofList text, String.ofList (Text.trimChars name)⟩ := by
  have hof : ∀ name text : List Char, ofGroups [(2, name), (1, text)] =
      ⟨String.ofList text, String.ofList (Text.trimChars name)⟩ := fun name text => by
    simp [ofGroups, List.lookup_cons, Text.trim]
  have hsame : ∀ d ∈ body.ways ⟨none, line.toList, []⟩, ∀ d' ∈ body.ways ⟨none, line.toList, []⟩,
      ofGroups d.groups = ofGroups d'.groups := by
    intro d hd d' hd'
    obtain ⟨text, gap, more, name, h, hgroups⟩ := exists_way_body.mp ⟨d, hd, rfl⟩
    obtain ⟨text', gap', more', name', h', hgroups'⟩ := exists_way_body.mp ⟨d', hd', rfl⟩
    obtain ⟨rfl, hname⟩ := h.eq h'
    rw [hgroups, hgroups', hof, hof, hname]
  rw [parse?, pattern?_eq, Option.bind_some, Regex.captures?_textStart, Option.map_map,
    Regex.map_head?_eq_some_iff (f := ofGroups ∘ fun d : Regex.Cursor => d.groups) hsame]
  constructor
  · rintro ⟨d, hd, rfl⟩
    obtain ⟨text, gap, more, name, h, hgroups⟩ := exists_way_body.mp ⟨d, hd, rfl⟩
    refine ⟨text, gap, more, name, h, ?_⟩
    rw [Function.comp_apply, hgroups, hof]
  · rintro ⟨text, gap, more, name, h, rfl⟩
    obtain ⟨d, hd, hgroups⟩ := exists_way_body.mpr ⟨text, gap, more, name, h, rfl⟩
    refine ⟨d, hd, ?_⟩
    rw [Function.comp_apply, hgroups, hof]

/-- A line of this form asks to write a text: a text in quotes, the sign, with blanks around it or
not, and a name with blanks around it or not. -/
inductive Form : String → Redirect → Prop
  | mk {text gap more name : String} : text ≠ "" → '"' ∉ text.toList →
      (∀ c ∈ gap.toList, Text.isBlank c = true) → (∀ c ∈ more.toList, Text.isBlank c = true) →
      name ≠ "" → '\n' ∉ name.toList →
      Form ("\"" ++ text ++ "\"" ++ gap ++ ">" ++ more ++ name) ⟨text, Text.trim name⟩

/-- Exactly this form is read. -/
theorem parse?_eq_some_iff : parse? line = some r ↔ Form line r := by
  rw [parse?_eq_some_iff_parts]
  constructor
  · rintro ⟨text, gap, more, name, h, rfl⟩
    have hline : line = "\"" ++ String.ofList text ++ "\"" ++ String.ofList gap ++ ">" ++
        String.ofList more ++ String.ofList name := String.toList_inj.mp (by simp [h.line_eq])
    have htrim : String.ofList (Text.trimChars name) = Text.trim (String.ofList name) := by
      rw [Text.trim, String.toList_ofList]
    rw [hline, htrim]
    exact .mk (by simpa using h.text_ne_nil) (by simpa using h.quote_not_mem)
      (by simpa using h.isBlank_gap) (by simpa using h.isBlank_more) (by simpa using h.name_ne_nil)
      (by simpa using h.feed_not_mem)
  · rintro @⟨text, gap, more, name, htext, hquote, hgap, hmore, hname, hfeed⟩
    refine ⟨text.toList, gap.toList, more.toList, name.toList,
      ⟨by simp, by simpa using htext, hquote, hgap, hmore, by simpa using hname, hfeed⟩, ?_⟩
    rw [String.ofList_toList, Text.trim]

/-- The name that is read of a line without blanks around it is trimmed and not empty. -/
theorem name_of_parse? (htrim : Text.trim line = line) (h : parse? line = some r) :
    Text.trim r.name = r.name ∧ r.name ≠ "" := by
  obtain ⟨text, gap, more, name, hparts, rfl⟩ := parse?_eq_some_iff_parts.mp h
  have hline : line.toList = ('"' :: (text ++ '"' :: (gap ++ '>' :: more))) ++ name := by
    rw [hparts.line_eq]
    simp
  constructor
  · rw [Text.trim, String.toList_ofList, Text.trimChars_trimChars]
  · intro hempty
    have hblank := Text.trimChars_eq_nil_iff.mp (String.ofList_eq_empty_iff.mp hempty)
    exact Text.trimStartChars_ne_nil htrim hline hparts.name_ne_nil
      (List.dropWhile_eq_nil_iff.mpr hblank)

/-! ## Reading back -/

/-- Trimming a text in quotes with more behind it leaves the text and its quotes alone. -/
theorem exists_trimChars_quoted (cs rest : List Char) :
    ∃ more, Text.trimChars ('"' :: (cs ++ '"' :: rest)) = '"' :: (cs ++ '"' :: more) := by
  obtain ⟨more, hmore⟩ := Text.exists_trimEndChars_cons (c := '"') (by decide) rest
  refine ⟨more, ?_⟩
  rw [Text.trimChars, Text.trimStartChars_of_cons (by decide), ← List.cons_append,
    Text.trimEndChars_append, hmore, if_neg (List.cons_ne_nil _ _), List.cons_append]

theorem count_blanks {cs : List Char} (h : ∀ c ∈ cs, Text.isBlank c = true) :
    cs.count '"' = 0 := by
  rw [List.count_eq_zero]
  intro hquote
  cases h _ hquote

/-- A line that is put together of a text and a name, and is read with this name, has no quotes in
the text. Trimming a line and reading a name lose no quotes, so the two that the line has besides
are all. -/
theorem quote_not_mem {cs ds text gap more name : List Char}
    (h : Parts (Text.trimChars ('"' :: (cs ++ '"' :: (' ' :: '>' :: ' ' :: ds))))
      text gap more name)
    (hname : Text.trimChars name = ds) : '"' ∉ cs := by
  have hcount := congrArg (List.count '"') h.line_eq
  have hsame : name.count '"' = ds.count '"' := by
    rw [← hname, Text.count_trimChars (by decide)]
  have hother : ∀ c, c ≠ '"' → (c == '"') = false := fun c hc => beq_false_of_ne hc
  rw [Text.count_trimChars (by decide)] at hcount
  simp only [List.count_cons, List.count_append, hother _ (by decide : ' ' ≠ '"'),
    hother _ (by decide : '>' ≠ '"'), List.count_eq_zero.mpr h.quote_not_mem, hsame,
    count_blanks h.isBlank_gap, count_blanks h.isBlank_more, beq_self_eq_true, if_true,
    Bool.false_eq_true, if_false] at hcount
  exact List.count_eq_zero.mp (by omega)

/-- A line that is put together of a text and a name is read as both of them, if it is read with
this name. -/
theorem eq_of_parse? (h : parse? (Text.trim ("\"" ++ text ++ "\" > " ++ name)) = some r)
    (hname : r.name = name) : r = ⟨text, name⟩ := by
  obtain ⟨content, gap, blank, named, hparts, rfl⟩ := parse?_eq_some_iff_parts.mp h
  have hnamed : Text.trimChars named = name.toList := by rw [← hname, String.toList_ofList]
  have hput : ("\"" ++ text ++ "\" > " ++ name).toList =
      '"' :: (text.toList ++ '"' :: (' ' :: '>' :: ' ' :: name.toList)) := by simp
  rw [Text.trim, hput, String.toList_ofList] at hparts
  have hquote := quote_not_mem hparts hnamed
  -- both lines have their text before the first quote
  obtain ⟨after, hafter⟩ :=
    exists_trimChars_quoted text.toList (' ' :: '>' :: ' ' :: name.toList)
  have hline := hafter.symm.trans hparts.line_eq
  have htaken := congrArg (List.takeWhile (· != '"')) (List.cons.inj hline).2
  rw [takeWhile_quote hquote, takeWhile_quote hparts.quote_not_mem] at htaken
  rw [← htaken, String.ofList_toList, ← hname]

end DevConsole.Files.Redirect
