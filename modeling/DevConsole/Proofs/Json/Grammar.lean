import DevConsole.Json.Printer
import DevConsole.Json.Reader

/-!
# Reading back what was written

`Json.Writes v cs`: the characters `cs` are a way to write `v`, with any blanks between the tokens
and the strings as `quoted` writes them. Numbers are left out. The reader finds the value that was
written and stops right behind it (`Writes.parse`), and both `compact` and `pretty` are ways to
write every value without numbers; so `parse` undoes them (`parse_compact`, `parse_pretty`).
-/

namespace DevConsole.Json

/-! ## Strings -/

theorem digitsValue?_hexChar {n : Nat} (h : n < 32) :
    Text.digitsValue? 16 Text.hexDigit? ['0', '0', Text.hexChar (n / 16), Text.hexChar (n % 16)] =
      some n := by
  revert n
  decide

/-- An escaped character is read as one piece, and the piece spells it. -/
theorem readPieces_escaped (c : Char) (rest : List Char) :
    ∃ p, readPieces (escaped c ++ rest) =
        (readPieces rest).map (fun r => (p :: r.1, r.2)) ∧
      ∀ ps, spell? (p :: ps) = (spell? ps).map (c :: ·) := by
  by_cases hletter : c ∈ ['"', '\\', '\n', '\r', '\t', '\x08', '\x0c']
  · refine ⟨.char c, ?_, fun ps => by rw [spell?]⟩
    simp only [List.mem_cons, List.not_mem_nil, or_false] at hletter
    rcases hletter with rfl | rfl | rfl | rfl | rfl | rfl | rfl <;>
      simp [escaped, readPieces, escape?]
  · simp only [List.mem_cons, List.not_mem_nil, or_false, not_or] at hletter
    obtain ⟨hquote, hslash, hn, hr, ht, hb, hf⟩ := hletter
    by_cases hcontrol : c.toNat < 32
    · refine ⟨.unit c.toNat, ?_, fun ps => ?_⟩
      · simp [escaped, hquote, hslash, hn, hr, ht, hb, hf, hcontrol, readPieces,
          digitsValue?_hexChar]
      · have hlow : c.toNat < 0xD800 := by omega
        rw [spell?.eq_def]
        simp only [hlow, true_or, if_true, Char.ofNat_toNat]
    · refine ⟨.char c, ?_, fun ps => by rw [spell?]⟩
      simp [escaped, hquote, hslash, hn, hr, ht, hb, hf, hcontrol, readPieces]

/-- The text of a string is read back up to the closing quote. -/
theorem readPieces_quoted (cs rest : List Char) :
    ∃ ps, readPieces (cs.flatMap escaped ++ '"' :: rest) = some (ps, rest) ∧
      spell? ps = some cs := by
  induction cs with
  | nil => exact ⟨[], by simp [readPieces], rfl⟩
  | cons c cs ih =>
    obtain ⟨ps, hread, hspell⟩ := ih
    obtain ⟨p, hp, hspellp⟩ := readPieces_escaped c (cs.flatMap escaped ++ '"' :: rest)
    refine ⟨p :: ps, ?_, ?_⟩
    · rw [List.flatMap_cons, List.append_assoc, hp, hread]
      rfl
    · rw [hspellp, hspell]
      rfl

/-! ## Blanks -/

/-- Nothing but blanks. -/
def Blank (cs : List Char) : Prop := ∀ c ∈ cs, isSpace c = true

theorem blank_nil : Blank [] := by simp [Blank]

theorem skipSpace_append {gap : List Char} (h : Blank gap) (cs : List Char) :
    skipSpace (gap ++ cs) = skipSpace cs := by
  induction gap with
  | nil => rfl
  | cons c gap ih =>
    have hc : isSpace c = true := h c List.mem_cons_self
    rw [skipSpace, List.cons_append, List.dropWhile_cons_of_pos hc, ← skipSpace,
      ih fun d hd => h d (List.mem_cons_of_mem _ hd)]

theorem skipSpace_cons {c : Char} (h : isSpace c = false) (cs : List Char) :
    skipSpace (c :: cs) = c :: cs := by
  rw [skipSpace, List.dropWhile_cons_of_neg (by simp [h])]

theorem skipSpace_skipSpace (cs : List Char) : skipSpace (skipSpace cs) = skipSpace cs := by
  induction cs with
  | nil => rfl
  | cons c cs ih =>
    cases hc : isSpace c with
    | false => rw [skipSpace_cons hc, skipSpace_cons hc]
    | true =>
      have hskip : skipSpace (c :: cs) = skipSpace cs := List.dropWhile_cons_of_pos hc
      rw [hskip, ih]

/-! ## The grammar -/

mutual

/-- The characters are a way to write the value. -/
inductive Writes : Json → List Char → Prop
  | null : Writes .null (scalarText .null)
  | bool (b : Bool) : Writes (.bool b) (scalarText (.bool b))
  | string (s : String) : Writes (.string s) (quoted s)
  | emptyArray {gap : List Char} : Blank gap → Writes (.array []) ('[' :: (gap ++ [']']))
  | array {items : List Json} {cs : List Char} :
      WritesItems items cs → Writes (.array items) ('[' :: cs)
  | emptyObject {gap : List Char} : Blank gap → Writes (.object []) ('{' :: (gap ++ ['}']))
  | object {members : List (String × Json)} {cs : List Char} :
      WritesMembers members cs → Writes (.object members) ('{' :: cs)

/-- The characters are a way to write at least one item and the closing bracket. -/
inductive WritesItems : List Json → List Char → Prop
  | last {v : Json} {before cs after : List Char} :
      Blank before → Writes v cs → Blank after →
      WritesItems [v] (before ++ (cs ++ (after ++ [']'])))
  | next {v : Json} {vs : List Json} {before cs after rest : List Char} :
      Blank before → Writes v cs → Blank after → WritesItems vs rest →
      WritesItems (v :: vs) (before ++ (cs ++ (after ++ ',' :: rest)))

/-- The characters are a way to write at least one member and the closing brace. -/
inductive WritesMembers : List (String × Json) → List Char → Prop
  | last {name : String} {v : Json} {before behind between cs after : List Char} :
      Blank before → Blank behind → Blank between → Writes v cs → Blank after →
      WritesMembers [(name, v)]
        (before ++ (quoted name ++ (behind ++ ':' :: (between ++ (cs ++ (after ++ ['}']))))))
  | next {name : String} {v : Json} {ms : List (String × Json)}
      {before behind between cs after rest : List Char} :
      Blank before → Blank behind → Blank between → Writes v cs → Blank after →
      WritesMembers ms rest →
      WritesMembers ((name, v) :: ms)
        (before ++ (quoted name ++ (behind ++ ':' :: (between ++ (cs ++ (after ++ ',' :: rest))))))

end

/-- A value starts with a character that is no blank and closes nothing. -/
theorem Writes.head {v : Json} {cs : List Char} (h : Writes v cs) :
    ∃ c tail, cs = c :: tail ∧ isSpace c = false ∧ c ≠ ']' ∧ c ≠ '}' := by
  cases h with
  | null => exact ⟨'n', _, rfl, by decide⟩
  | bool b => cases b <;> exact ⟨_, _, rfl, by decide⟩
  | string s => exact ⟨'"', _, rfl, by decide⟩
  | emptyArray | array => exact ⟨'[', _, rfl, by decide⟩
  | emptyObject | object => exact ⟨'{', _, rfl, by decide⟩

/-! ## The reader -/

/-- Blanks before a value are no matter. -/
theorem readValue_append {gap : List Char} (h : Blank gap) (fuel : Nat) (cs : List Char) :
    readValue fuel (gap ++ cs) = readValue fuel cs := by
  cases fuel with
  | zero => rfl
  | succ fuel => rw [readValue, readValue, skipSpace_append h]

theorem readItems_skipSpace (fuel : Nat) (cs : List Char) :
    readItems fuel (skipSpace cs) = readItems fuel cs := by
  cases fuel with
  | zero => rfl
  | succ fuel =>
    have hv : readValue fuel (skipSpace cs) = readValue fuel cs := by
      cases fuel with
      | zero => rfl
      | succ fuel => rw [readValue, readValue, skipSpace_skipSpace]
    rw [readItems, readItems, hv]

theorem readMembers_skipSpace (fuel : Nat) (cs : List Char) :
    readMembers fuel (skipSpace cs) = readMembers fuel cs := by
  cases fuel with
  | zero => rfl
  | succ fuel => rw [readMembers, readMembers, skipSpace_skipSpace]

/-- Members as they are read, each name with the characters it spells. -/
def readNames (members : List (String × Json)) : List (Option (List Char) × Json) :=
  members.map fun m => (some m.1.toList, m.2)

theorem objectOf_readNames (members : List (String × Json)) :
    objectOf (readNames members) = .object members := by
  have h : (readNames members).mapM (fun m => m.1.map fun n => (String.ofList n, m.2)) =
      some members := by
    induction members with
    | nil => rfl
    | cons m members ih =>
      rw [readNames, List.map_cons, List.mapM_cons, ← readNames, ih]
      simp
  rw [objectOf, h]

/-- With this much fuel everything that is written in half as many characters is read back. -/
structure Reads (fuel : Nat) : Prop where
  value : ∀ {v cs}, Writes v cs → 2 * cs.length ≤ fuel →
    ∀ rest, readValue fuel (cs ++ rest) = some (v, rest)
  items : ∀ {vs cs}, WritesItems vs cs → 2 * cs.length ≤ fuel →
    ∀ rest, readItems fuel (cs ++ rest) = some (vs, rest)
  members : ∀ {ms cs}, WritesMembers ms cs → 2 * cs.length ≤ fuel →
    ∀ rest, readMembers fuel (cs ++ rest) = some (readNames ms, rest)

theorem WritesItems.skipSpace_append {vs : List Json} {cs : List Char} (h : WritesItems vs cs)
    (rest : List Char) : ∃ c tail, skipSpace (cs ++ rest) = c :: tail ∧ c ≠ ']' := by
  have hhead : ∀ {v before cs}, Blank before → Writes v cs → ∀ behind : List Char,
      ∃ c tail, skipSpace (before ++ (cs ++ behind)) = c :: tail ∧ c ≠ ']' := by
    intro v before cs hb hw behind
    obtain ⟨c, tail, rfl, hspace, hc, -⟩ := hw.head
    exact ⟨c, _, by rw [Json.skipSpace_append hb, List.cons_append, skipSpace_cons hspace], hc⟩
  cases h with
  | last hb hw _ =>
    rw [List.append_assoc, List.append_assoc]
    exact hhead hb hw _
  | next hb hw _ _ =>
    rw [List.append_assoc, List.append_assoc]
    exact hhead hb hw _

theorem WritesMembers.skipSpace_append {ms : List (String × Json)} {cs : List Char}
    (h : WritesMembers ms cs) (rest : List Char) :
    ∃ tail, skipSpace (cs ++ rest) = '"' :: tail := by
  have hhead : ∀ {before}, Blank before → ∀ (name : String) (behind : List Char),
      ∃ tail, skipSpace (before ++ (quoted name ++ behind)) = '"' :: tail := by
    intro before hb name behind
    exact ⟨_, by
      rw [Json.skipSpace_append hb, quoted, List.cons_append, skipSpace_cons (by decide)]⟩
  cases h with
  | last hb _ _ _ _ =>
    rw [List.append_assoc, List.append_assoc]
    exact hhead hb _ _
  | next hb _ _ _ _ _ =>
    rw [List.append_assoc, List.append_assoc]
    exact hhead hb _ _

theorem readValue_null (fuel : Nat) (rest : List Char) :
    readValue (fuel + 1) (scalarText .null ++ rest) = some (.null, rest) := by
  have hskip : skipSpace (scalarText .null ++ rest) = 'n' :: ("ull".toList ++ rest) := rfl
  rw [readValue, hskip]
  simp [readWord]

theorem readValue_bool (fuel : Nat) (b : Bool) (rest : List Char) :
    readValue (fuel + 1) (scalarText (.bool b) ++ rest) = some (.bool b, rest) := by
  cases b with
  | true =>
    have hskip : skipSpace (scalarText (.bool true) ++ rest) = 't' :: ("rue".toList ++ rest) := rfl
    rw [readValue, hskip]
    simp [readWord]
  | false =>
    have hskip : skipSpace (scalarText (.bool false) ++ rest) = 'f' :: ("alse".toList ++ rest) :=
      rfl
    rw [readValue, hskip]
    simp [readWord]

theorem readValue_string (fuel : Nat) (s : String) (rest : List Char) :
    readValue (fuel + 1) (quoted s ++ rest) = some (.string s, rest) := by
  obtain ⟨ps, hread, hspell⟩ := readPieces_quoted s.toList rest
  have hskip : skipSpace (quoted s ++ rest) =
      '"' :: (s.toList.flatMap escaped ++ '"' :: rest) := by
    rw [quoted, List.cons_append, skipSpace_cons (by decide), List.append_assoc]
    rfl
  rw [readValue, hskip]
  simp only [hread, hspell, Option.map_some, String.ofList_toList]

theorem Reads.next_value {fuel : Nat} (h : Reads fuel) {v : Json} {cs : List Char}
    (hw : Writes v cs) (hfuel : 2 * cs.length ≤ fuel + 1) (rest : List Char) :
    readValue (fuel + 1) (cs ++ rest) = some (v, rest) := by
  cases hw with
  | null => exact readValue_null fuel rest
  | bool b => exact readValue_bool fuel b rest
  | string s => exact readValue_string fuel s rest
  | @emptyArray gap hg =>
    have hbracket : ∀ r, skipSpace (']' :: r) = ']' :: r := skipSpace_cons (by decide)
    rw [List.cons_append, readValue, skipSpace_cons (by decide), List.append_assoc]
    simp only [Json.skipSpace_append hg, List.cons_append, hbracket, List.nil_append]
  | @array items cs hw =>
    obtain ⟨c, tail, hskip, hc⟩ := hw.skipSpace_append rest
    have hread := h.items hw (by rw [List.length_cons] at hfuel; omega) rest
    rw [← readItems_skipSpace, hskip] at hread
    rw [List.cons_append, readValue, skipSpace_cons (by decide)]
    simp only [hskip]
    split
    · rename_i hcons
      exact absurd (List.cons.inj hcons).1 hc
    · rw [hread]
      rfl
  | @emptyObject gap hg =>
    have hbrace : ∀ r, skipSpace ('}' :: r) = '}' :: r := skipSpace_cons (by decide)
    rw [List.cons_append, readValue, skipSpace_cons (by decide), List.append_assoc]
    simp only [Json.skipSpace_append hg, List.cons_append, hbrace, List.nil_append]
  | @object members cs hw =>
    obtain ⟨tail, hskip⟩ := hw.skipSpace_append rest
    have hread := h.members hw (by rw [List.length_cons] at hfuel; omega) rest
    rw [← readMembers_skipSpace, hskip] at hread
    rw [List.cons_append, readValue, skipSpace_cons (by decide)]
    simp only [hskip]
    split
    · rename_i hcons
      exact absurd (List.cons.inj hcons).1 (by decide)
    · rw [hread, Option.map_some, objectOf_readNames]

/-- Behind a value: the blanks, and then a character that is none. -/
theorem skipSpace_after {after : List Char} (h : Blank after) {c : Char} (hc : isSpace c = false)
    (rest : List Char) : skipSpace (after ++ c :: rest) = c :: rest := by
  rw [skipSpace_append h, skipSpace_cons hc]

theorem Reads.next_items {fuel : Nat} (h : Reads fuel) {vs : List Json} {cs : List Char}
    (hw : WritesItems vs cs) (hfuel : 2 * cs.length ≤ fuel + 1) (rest : List Char) :
    readItems (fuel + 1) (cs ++ rest) = some (vs, rest) := by
  cases hw with
  | @last v before cs after hb hv ha =>
    simp only [List.length_append, List.length_cons] at hfuel
    have hread := h.value hv (by omega) (after ++ ']' :: rest)
    simp only [List.append_assoc, List.cons_append, List.nil_append]
    rw [readItems, readValue_append hb, hread]
    simp only [skipSpace_after ha (show isSpace ']' = false by decide)]
  | @next v vs before cs after tail hb hv ha hvs =>
    simp only [List.length_append, List.length_cons] at hfuel
    have hread := h.value hv (by omega) (after ++ ',' :: (tail ++ rest))
    have hitems := h.items hvs (by omega) rest
    simp only [List.append_assoc, List.cons_append]
    rw [readItems, readValue_append hb, hread]
    simp only [skipSpace_after ha (show isSpace ',' = false by decide), hitems, Option.map_some]

/-- A member is read up to what stands behind it: a comma and further members, or the closing
brace. -/
theorem readMembers_member {fuel : Nat} {before behind between cs rest r : List Char} {v : Json}
    (hb : Blank before) (hbehind : Blank behind) (hbetween : Blank between) (name : String)
    (hread : readValue fuel (cs ++ rest) = some (v, r)) :
    (∀ r', skipSpace r = ',' :: r' →
      readMembers (fuel + 1)
          (before ++ (quoted name ++ (behind ++ ':' :: (between ++ (cs ++ rest))))) =
        (readMembers fuel r').map fun p => ((some name.toList, v) :: p.1, p.2)) ∧
    (∀ r', skipSpace r = '}' :: r' →
      readMembers (fuel + 1)
          (before ++ (quoted name ++ (behind ++ ':' :: (between ++ (cs ++ rest))))) =
        some ([(some name.toList, v)], r')) := by
  obtain ⟨ps, hname, hspell⟩ :=
    readPieces_quoted name.toList (behind ++ ':' :: (between ++ (cs ++ rest)))
  have hskip : skipSpace (before ++ (quoted name ++ (behind ++ ':' :: (between ++ (cs ++ rest))))) =
      '"' :: (name.toList.flatMap escaped ++
        '"' :: (behind ++ ':' :: (between ++ (cs ++ rest)))) := by
    rw [skipSpace_append hb, quoted, List.cons_append, skipSpace_cons (by decide),
      List.append_assoc]
    rfl
  have hcolon := fun cs => skipSpace_after hbehind (show isSpace ':' = false by decide) cs
  refine ⟨fun r' hr => ?_, fun r' hr => ?_⟩
  · rw [readMembers, hskip]
    simp only [hname, hcolon, readValue_append hbetween, hread, hspell, hr]
  · rw [readMembers, hskip]
    simp only [hname, hcolon, readValue_append hbetween, hread, hspell, hr]

theorem Reads.next_members {fuel : Nat} (h : Reads fuel) {ms : List (String × Json)}
    {cs : List Char} (hw : WritesMembers ms cs) (hfuel : 2 * cs.length ≤ fuel + 1)
    (rest : List Char) :
    readMembers (fuel + 1) (cs ++ rest) = some (readNames ms, rest) := by
  cases hw with
  | @last name v before behind between cs after hb hbehind hbetween hv ha =>
    simp only [List.length_append, List.length_cons] at hfuel
    have hread := h.value hv (by omega) (after ++ '}' :: rest)
    have hbrace := skipSpace_after ha (show isSpace '}' = false by decide) rest
    simp only [List.append_assoc, List.cons_append, List.nil_append]
    exact (readMembers_member hb hbehind hbetween name hread).2 rest hbrace
  | @next name v ms before behind between cs after tail hb hbehind hbetween hv ha hms =>
    simp only [List.length_append, List.length_cons] at hfuel
    have hread := h.value hv (by omega) (after ++ ',' :: (tail ++ rest))
    have hcomma := skipSpace_after ha (show isSpace ',' = false by decide) (tail ++ rest)
    have hmembers := h.members hms (by omega) rest
    simp only [List.append_assoc, List.cons_append]
    rw [(readMembers_member hb hbehind hbetween name hread).1 _ hcomma, hmembers, Option.map_some]
    rfl

theorem reads (fuel : Nat) : Reads fuel := by
  induction fuel with
  | zero =>
    constructor
    · intro v cs hw hfuel rest
      obtain ⟨c, tail, rfl, -⟩ := hw.head
      simp at hfuel
    · intro vs cs hw hfuel rest
      cases hw <;> simp at hfuel
    · intro ms cs hw hfuel rest
      cases hw <;> simp at hfuel
  | succ fuel ih => exact ⟨ih.next_value, ih.next_items, ih.next_members⟩

/-- What is written is read back, by the grammar alone. -/
theorem Writes.parse {v : Json} {cs : List Char} (h : Writes v cs) :
    Json.parse (String.ofList cs) = some v := by
  have hread := (reads (2 * cs.length + 2)).value h (by omega) []
  rw [List.append_nil] at hread
  rw [Json.parse, String.toList_ofList]
  simp only [hread]
  rfl

/-! ## Writing without blanks -/

/-- A value without numbers in which every piece has a value. -/
inductive Plain : Json → Prop
  | null : Plain .null
  | bool (b : Bool) : Plain (.bool b)
  | string (s : String) : Plain (.string s)
  | array {items : List Json} : (∀ v ∈ items, Plain v) → Plain (.array items)
  | object {members : List (String × Json)} : (∀ m ∈ members, Plain m.2) → Plain (.object members)

theorem writesItems_compact {v : Json} {vs : List Json}
    (h : ∀ w ∈ v :: vs, Writes w (compactChars w)) :
    WritesItems (v :: vs) (compactItems (v :: vs)) := by
  have hv := h v List.mem_cons_self
  induction vs generalizing v with
  | nil =>
    show WritesItems [v] ([] ++ (compactChars v ++ ([] ++ [']'])))
    exact .last blank_nil hv blank_nil
  | cons w vs ih =>
    show WritesItems (v :: w :: vs)
      ([] ++ (compactChars v ++ ([] ++ ',' :: compactItems (w :: vs))))
    have hvs : ∀ u ∈ w :: vs, Writes u (compactChars u) := fun u hu =>
      h u (List.mem_cons_of_mem _ hu)
    exact .next blank_nil hv blank_nil (ih hvs (hvs w List.mem_cons_self))

theorem writesMembers_compact {m : String × Json} {ms : List (String × Json)}
    (h : ∀ n ∈ m :: ms, Writes n.2 (compactChars n.2)) :
    WritesMembers (m :: ms) (compactMembers (m :: ms)) := by
  have hm := h m List.mem_cons_self
  induction ms generalizing m with
  | nil =>
    show WritesMembers [m]
      ([] ++ (quoted m.1 ++ ([] ++ ':' :: ([] ++ (compactChars m.2 ++ ([] ++ ['}']))))))
    exact .last blank_nil blank_nil blank_nil hm blank_nil
  | cons n ms ih =>
    show WritesMembers (m :: n :: ms)
      ([] ++ (quoted m.1 ++ ([] ++ ':' :: ([] ++ (compactChars m.2 ++
        ([] ++ ',' :: compactMembers (n :: ms)))))))
    have hms : ∀ p ∈ n :: ms, Writes p.2 (compactChars p.2) := fun p hp =>
      h p (List.mem_cons_of_mem _ hp)
    exact .next blank_nil blank_nil blank_nil hm blank_nil (ih hms (hms n List.mem_cons_self))

theorem Plain.writes_compactChars {v : Json} (h : Plain v) : Writes v (compactChars v) := by
  induction h with
  | null => exact .null
  | bool b => exact .bool b
  | string s => exact .string s
  | @array items _ ih =>
    cases items with
    | nil => exact .emptyArray blank_nil
    | cons v vs => exact .array (writesItems_compact ih)
  | @object members _ ih =>
    cases members with
    | nil => exact .emptyObject blank_nil
    | cons m ms => exact .object (writesMembers_compact ih)

theorem parse_compact {v : Json} (h : Plain v) : parse v.compact = some v :=
  h.writes_compactChars.parse

theorem soundItems_of_forall {items : List Json} (h : ∀ v ∈ items, v.sound = true) :
    soundItems items = true := by
  induction items with
  | nil => rfl
  | cons v vs ih =>
    rw [soundItems, h v List.mem_cons_self, ih fun w hw => h w (List.mem_cons_of_mem _ hw)]
    rfl

theorem soundMembers_of_forall {members : List (String × Json)}
    (h : ∀ m ∈ members, m.2.sound = true) : soundMembers members = true := by
  induction members with
  | nil => rfl
  | cons m ms ih =>
    rw [soundMembers, h m List.mem_cons_self, ih fun n hn => h n (List.mem_cons_of_mem _ hn)]
    rfl

theorem Plain.sound {v : Json} (h : Plain v) : v.sound = true := by
  induction h with
  | null => rfl
  | bool b => rfl
  | string s => rfl
  | array _ ih => rw [Json.sound, soundItems_of_forall ih]
  | object _ ih => rw [Json.sound, soundMembers_of_forall ih]

/-- A plain value is read from a text that spells it if it is not nested too deeply. -/
theorem Plain.read_of_parse {v : Json} (h : Plain v) {text : String}
    (hparse : parse text = some v) :
    read text = if v.depth ≤ maxDepth then some v else none := by
  rw [read, hparse, Option.filter_some, h.sound, Bool.true_and]
  simp only [decide_eq_true_eq]

theorem read_compact {v : Json} (h : Plain v) :
    read v.compact = if v.depth ≤ maxDepth then some v else none :=
  h.read_of_parse (parse_compact h)

/-! ## Writing on indented lines -/

theorem blank_newLine (level : Nat) : Blank (newLine level) := by
  intro c hc
  rcases List.mem_cons.1 hc with rfl | hc
  · rfl
  · rw [List.eq_of_mem_replicate hc]
    rfl

theorem blank_space : Blank [' '] := by simp [Blank, isSpace]

theorem writesItems_pretty {level : Nat} {v : Json} {vs : List Json}
    (h : ∀ w ∈ v :: vs, Writes w (prettyChars (level + 1) w)) :
    WritesItems (v :: vs) (prettyItems level (v :: vs)) := by
  have hv := h v List.mem_cons_self
  induction vs generalizing v with
  | nil =>
    rw [prettyItems, List.append_assoc]
    exact .last (blank_newLine _) hv (blank_newLine _)
  | cons w vs ih =>
    have hvs : ∀ u ∈ w :: vs, Writes u (prettyChars (level + 1) u) := fun u hu =>
      h u (List.mem_cons_of_mem _ hu)
    rw [prettyItems, List.append_assoc]
    exact .next (blank_newLine _) hv blank_nil (ih hvs (hvs w List.mem_cons_self))

theorem writesMembers_pretty {level : Nat} {m : String × Json} {ms : List (String × Json)}
    (h : ∀ n ∈ m :: ms, Writes n.2 (prettyChars (level + 1) n.2)) :
    WritesMembers (m :: ms) (prettyMembers level (m :: ms)) := by
  have hm := h m List.mem_cons_self
  induction ms generalizing m with
  | nil =>
    rw [prettyMembers, List.append_assoc]
    exact .last (blank_newLine _) blank_nil blank_space hm (blank_newLine _)
  | cons n ms ih =>
    have hms : ∀ p ∈ n :: ms, Writes p.2 (prettyChars (level + 1) p.2) := fun p hp =>
      h p (List.mem_cons_of_mem _ hp)
    rw [prettyMembers, List.append_assoc]
    exact .next (blank_newLine _) blank_nil blank_space hm blank_nil
      (ih hms (hms n List.mem_cons_self))

theorem Plain.writes_prettyChars {v : Json} (h : Plain v) (level : Nat) :
    Writes v (prettyChars level v) := by
  induction h generalizing level with
  | null => exact .null
  | bool b => exact .bool b
  | string s => exact .string s
  | @array items _ ih =>
    cases items with
    | nil => exact .emptyArray blank_nil
    | cons v vs => exact .array (writesItems_pretty fun w hw => ih w hw (level + 1))
  | @object members _ ih =>
    cases members with
    | nil => exact .emptyObject blank_nil
    | cons m ms => exact .object (writesMembers_pretty fun n hn => ih n hn (level + 1))

theorem parse_pretty {v : Json} (h : Plain v) : parse v.pretty = some v :=
  (h.writes_prettyChars 0).parse

theorem read_pretty {v : Json} (h : Plain v) :
    read v.pretty = if v.depth ≤ maxDepth then some v else none :=
  h.read_of_parse (parse_pretty h)

end DevConsole.Json
