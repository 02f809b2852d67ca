import DevConsole.Proofs.Command.Registry
import DevConsole.Proofs.Text.Words
import Mathlib.Data.List.Induction
import Mathlib.Data.List.Nodup

/-!
# Completing and looking up names

A registry comes about by registrations (`Registry.ofRegistrations`), each for one mode or for all
of them. Its tables are `Tidy`: their names ascend, and each is that of its command in lower case.
Under a name a table holds the command that has been registered last (`find?_table`). `Coherent`
says that completing, listing and looking up names agree with each other and with the registrations;
this holds of any registrations (`coherent_ofRegistrations`). The built-in commands all have names
of their own, so that each is found under its name wherever it can be called
(`Builtin.resolve?_name`).
-/

namespace DevConsole

theorem Entries.mem_names_iff {α : Type} {name : String} {es : Entries α} :
    name ∈ es.names ↔ (es.find? name).isSome = true := by
  induction es with
  | nil => simp [names]
  | cons p es ih =>
    obtain ⟨n, v⟩ := p
    simp only [names, List.map_cons, List.mem_cons, find?]
    split
    · rename_i hn
      exact iff_of_true (.inl hn.symm) rfl
    · rename_i hn
      rw [← ih, names, or_iff_right (Ne.symm hn)]

namespace Registry

variable {α : Type}

/-! ## Sorted names -/

theorem mem_eraseReps_loop {name last : String} {names found : List String} :
    name ∈ List.eraseRepsBy.loop (· == ·) last names found ↔
      name ∈ found ∨ name = last ∨ name ∈ names := by
  induction names generalizing last found with
  | nil => simp [List.eraseRepsBy.loop, or_comm]
  | cons next names ih =>
    unfold List.eraseRepsBy.loop
    cases hnext : last == next with
    | true =>
      obtain rfl := eq_of_beq hnext
      simp only [ih, List.mem_cons, or_self_left]
    | false => simp only [ih, List.mem_cons, or_assoc, or_left_comm]

theorem mem_eraseReps {name : String} {names : List String} :
    name ∈ names.eraseReps ↔ name ∈ names := by
  cases names with
  | nil => exact Iff.rfl
  | cons first names =>
    rw [List.eraseReps, List.eraseRepsBy, mem_eraseReps_loop, List.mem_cons]
    exact or_iff_right List.not_mem_nil

/-- The names found so far ascend and are below the last one; what is found of the others goes on
from there. -/
theorem pairwise_eraseReps_loop {last : String} {names found : List String}
    (hnames : (last :: names).Pairwise (· ≤ ·)) (hfound : (last :: found).Pairwise (· > ·)) :
    (List.eraseRepsBy.loop (· == ·) last names found).Pairwise (· < ·) := by
  induction names generalizing last found with
  | nil =>
    rw [List.eraseRepsBy.loop]
    exact List.pairwise_reverse.mpr hfound
  | cons next names ih =>
    obtain ⟨hlast, hrest⟩ := List.pairwise_cons.mp hnames
    unfold List.eraseRepsBy.loop
    cases hnext : last == next with
    | true =>
      obtain rfl := eq_of_beq hnext
      exact ih hrest hfound
    | false =>
      have hlt : last < next :=
        Std.lt_of_le_of_ne (hlast next List.mem_cons_self) (ne_of_beq_false hnext)
      refine ih hrest (List.pairwise_cons.mpr ⟨fun name hname => ?_, hfound⟩)
      rcases List.mem_cons.mp hname with rfl | hname
      · exact hlt
      · exact String.lt_trans ((List.pairwise_cons.mp hfound).1 name hname) hlt

/-- Sorted names without repetitions ascend. -/
theorem pairwise_eraseReps_mergeSort (names : List String) :
    (names.mergeSort fun a b => decide (a ≤ b)).eraseReps.Pairwise (· < ·) := by
  have hsorted : (names.mergeSort fun a b => decide (a ≤ b)).Pairwise
      fun a b => decide (a ≤ b) = true :=
    List.pairwise_mergeSort (fun _ _ _ => by simpa using String.le_trans)
      (fun a b => by simpa using String.le_total a b) names
  cases hnames : names.mergeSort fun a b => decide (a ≤ b) with
  | nil => exact .nil
  | cons first rest =>
    rw [hnames] at hsorted
    exact pairwise_eraseReps_loop (hsorted.imp of_decide_eq_true) (List.pairwise_singleton ..)

/-! ## Registrations -/

/-- A command that is registered, for one mode or for all modes. -/
structure Registration (α : Type) where
  mode? : Option Mode
  command : Registered α

/-- The registry after a registration. -/
def enter (r : Registry α) (g : Registration α) : Registry α :=
  match g.mode? with
  | none => r.registerGlobal g.command
  | some mode => r.register mode g.command

/-- The registry after registrations, in order. -/
def ofRegistrations (gs : List (Registration α)) : Registry α := gs.foldl enter {}

/-- The commands of a mode, or those of all modes. -/
def table (r : Registry α) : Option Mode → Entries (Registered α)
  | none => r.globals
  | some mode => r.ofMode mode

/-- The command that has been registered last for a mode, or for all modes, under a name in any case
of its letters. -/
def lastNamed (gs : List (Registration α)) (mode? : Option Mode) (name : String) :
    Option (Registered α) :=
  ((gs.filter fun g => g.mode? = mode? ∧ g.command.key = Text.lower name).getLast?).map
    Registration.command

variable {r : Registry α} {gs : List (Registration α)}

theorem table_enter (r : Registry α) (g : Registration α) (mode? : Option Mode) :
    (r.enter g).table mode? =
      if g.mode? = mode? then (r.table mode?).insert g.command.key g.command
      else r.table mode? := by
  obtain ⟨mode, command⟩ := g
  cases mode <;> cases mode? <;> simp [enter, table, registerGlobal, register, eq_comm]

theorem ofRegistrations_append_singleton (gs : List (Registration α)) (g : Registration α) :
    ofRegistrations (gs ++ [g]) = (ofRegistrations gs).enter g := by
  simp [ofRegistrations]

/-- A table holds under a name what has been registered there last. -/
theorem find?_table (gs : List (Registration α)) (mode? : Option Mode) (name : String) :
    ((ofRegistrations gs).table mode?).find? (Text.lower name) = lastNamed gs mode? name := by
  induction gs using List.reverseRecOn with
  | nil => cases mode? <;> rfl
  | append_singleton gs g ih =>
    rw [ofRegistrations_append_singleton, table_enter, lastNamed, List.filter_append]
    by_cases hmode : g.mode? = mode?
    · rw [if_pos hmode, Entries.find?_insert]
      by_cases hkey : Text.lower name = g.command.key
      · simp [hmode, hkey]
      · rw [if_neg hkey, ih, lastNamed]
        simp [hmode, Ne.symm hkey]
    · rw [if_neg hmode, ih, lastNamed]
      simp [hmode]

/-- The names of a table ascend, and each is that of its command in lower case. -/
structure Tidy (es : Entries (Registered α)) : Prop where
  ordered : es.Ordered
  keyed : ∀ e ∈ es, e.1 = e.2.key

theorem Tidy.insert {es : Entries (Registered α)} (h : Tidy es) (c : Registered α) :
    Tidy (es.insert c.key c) where
  ordered := h.ordered.insert _ _
  keyed e he := by
    rcases Entries.mem_insert he with rfl | he
    · rfl
    · exact h.keyed e he

theorem tidy_table (gs : List (Registration α)) (mode? : Option Mode) :
    Tidy ((ofRegistrations gs).table mode?) := by
  induction gs using List.reverseRecOn with
  | nil => cases mode? <;> exact ⟨Entries.ordered_nil, nofun⟩
  | append_singleton gs g ih =>
    rw [ofRegistrations_append_singleton, table_enter]
    split
    · exact ih.insert g.command
    · exact ih

namespace Tidy

variable {es : Entries (Registered α)} {name : String}

theorem lower_eq (h : Tidy es) (hname : name ∈ es.names) : Text.lower name = name := by
  obtain ⟨e, he, rfl⟩ := List.mem_map.mp hname
  rw [h.keyed e he]
  exact Text.lower_lower _

/-- The names are those that are listed, in lower case. -/
theorem mem_names_iff_listing (h : Tidy es) (name : String) :
    name ∈ es.names ↔ ∃ info ∈ listing es, Text.lower info.name = name := by
  unfold Entries.names listing
  simp only [List.mem_map, exists_exists_and_eq_and]
  refine exists_congr fun e => and_congr_right fun he => ?_
  rw [h.keyed e he]
  rfl

end Tidy

/-! ## Agreement -/

/-- Completing, listing and looking up names agree, and are told from the registrations. -/
structure Coherent (gs : List (Registration α)) (r : Registry α) : Prop where
  /-- What a name may become ascends strictly. -/
  ascending : ∀ typed mode, (r.completions typed mode).Pairwise (· < ·)
  /-- It may become the names in lower case that start with it and that a command is found under. -/
  mem_completions : ∀ typed mode name, name ∈ r.completions typed mode ↔
    Text.lower name = name ∧ typed.toList <+: name.toList ∧ (r.resolve? name mode).isSome = true
  /-- Where nothing is typed, these are the names that are listed, in lower case. -/
  listed : ∀ mode name, name ∈ r.completions "" mode ↔
    ∃ info ∈ listing r.globals ++ listing (r.ofMode mode), Text.lower info.name = name
  /-- The case of letters does not matter for looking up. -/
  anyCase : ∀ name name' mode, Text.lower name = Text.lower name' →
    r.resolve? name mode = r.resolve? name' mode
  /-- The command for all modes comes first, and of several ones the last. -/
  last : ∀ name mode,
    r.resolve? name mode = (lastNamed gs none name).or (lastNamed gs (some mode) name)

theorem mem_completions_iff {typed name : String} {mode : Mode} : name ∈ r.completions typed mode ↔
    (name ∈ r.globals.names ∨ name ∈ (r.ofMode mode).names) ∧ typed.toList <+: name.toList := by
  rw [completions, mem_eraseReps, List.mem_mergeSort, List.mem_filter, List.mem_append,
    List.isPrefixOf_iff_prefix]

/-- However commands have been registered, the ways to ask for them agree. -/
theorem coherent_ofRegistrations (gs : List (Registration α)) :
    Coherent gs (ofRegistrations gs) where
  ascending _ _ := pairwise_eraseReps_mergeSort _
  mem_completions typed mode name := by
    have hall := tidy_table gs none
    have hmode := tidy_table gs (some mode)
    rw [mem_completions_iff, and_comm (b := typed.toList <+: name.toList), and_left_comm]
    refine and_congr_right fun _ => ?_
    constructor
    · intro hname
      have hlower : Text.lower name = name := hname.elim hall.lower_eq hmode.lower_eq
      refine ⟨hlower, ?_⟩
      rw [Entries.mem_names_iff, Entries.mem_names_iff] at hname
      rw [resolve?, hlower, Option.isSome_or, Bool.or_eq_true]
      exact hname
    · rintro ⟨hlower, hfound⟩
      rw [resolve?, hlower, Option.isSome_or, Bool.or_eq_true] at hfound
      rwa [Entries.mem_names_iff, Entries.mem_names_iff]
  listed mode name := by
    have hall := (tidy_table gs none).mem_names_iff_listing name
    have hmode := (tidy_table gs (some mode)).mem_names_iff_listing name
    have hempty : "".toList <+: name.toList := List.nil_prefix
    rw [mem_completions_iff, and_iff_left hempty]
    simp only [List.mem_append, or_and_right, exists_or]
    exact or_congr hall hmode
  anyCase name name' mode h := by rw [resolve?, resolve?, h]
  last name mode := by
    rw [resolve?]
    exact congrArg₂ Option.or (find?_table gs none name) (find?_table gs (some mode) name)

end Registry

/-! ## The built-in commands -/

namespace Builtin

/-- The registrations of the built-in commands. -/
def registrations : List (Registry.Registration Builtin) :=
  Global.all.map (fun c => ⟨none, (Builtin.global c).registered⟩) ++
    Mode.all.flatMap fun mode => (ofMode mode).map fun c => ⟨some mode, c.registered⟩

theorem builtins_eq_ofRegistrations : builtins = Registry.ofRegistrations registrations := by
  simp only [builtins, Registry.ofRegistrations, registrations, List.foldl_append,
    List.foldl_flatMap, List.foldl_map, Registry.enter]

theorem coherent_builtins : Registry.Coherent registrations builtins :=
  builtins_eq_ofRegistrations ▸ Registry.coherent_ofRegistrations registrations

/-- No name has a blank in it. -/
theorem not_isBlank_of_mem_name (c : Builtin) :
    ∀ char ∈ c.info.name.toList, Text.isBlank char = false := by
  have hall : (c.info.name.toList.all fun char => !Text.isBlank char) = true := by
    cases c with
    | global c => cases c <;> decide +kernel
    | development c => cases c <;> decide +kernel
    | market c => cases c <;> decide +kernel
    | networking c => cases c <;> decide +kernel
    | utility c => cases c <;> decide +kernel
    | filing c => cases c <;> decide +kernel
    | novelty c => cases c <;> decide +kernel
  intro char hchar
  rw [← Bool.not_eq_true', List.all_eq_true.mp hall char hchar]

theorem mem_registrations (c : Builtin) : ⟨c.mode?, c.registered⟩ ∈ registrations := by
  have hmode : ∀ mode, c ∈ ofMode mode → ⟨some mode, c.registered⟩ ∈ registrations := by
    intro mode hc
    refine List.mem_append_right _ (List.mem_flatMap.mpr ⟨mode, ?_, List.mem_map_of_mem hc⟩)
    cases mode <;> decide
  cases c with
  | global c => exact List.mem_append_left _ (List.mem_map_of_mem (by cases c <;> decide))
  | development c => exact hmode .development (List.mem_map_of_mem (by cases c <;> decide))
  | market c => exact hmode .marketData (List.mem_map_of_mem (by cases c <;> decide))
  | networking c => exact hmode .network (List.mem_map_of_mem (by cases c <;> decide))
  | utility c => exact hmode .utilities (List.mem_map_of_mem (by cases c <;> decide))
  | filing c => exact hmode .filesystem (List.mem_map_of_mem (by cases c <;> decide))
  | novelty c => exact hmode .novelty (List.mem_map_of_mem (by cases c <;> decide))

theorem isWord_name (c : Builtin) : Text.IsWord c.info.name := by
  have hall : ∀ g ∈ registrations, g.command.info.name ≠ "" := by decide +kernel
  exact ⟨hall _ (mem_registrations c), c.not_isBlank_of_mem_name⟩

/-- No two commands have the same name. -/
theorem eq_of_name {c c' : Builtin} (h : c.info.name = c'.info.name) : c = c' := by
  have hnodup : (registrations.map fun g => g.command.info.name).Nodup := by decide +kernel
  have hsame := List.inj_on_of_nodup_map hnodup (mem_registrations c) (mem_registrations c') h
  exact congrArg (fun g => g.command.action) hsame

/-- A command is found under its name wherever it can be called. -/
theorem resolve?_name {c : Builtin} {mode : Mode} (h : c.IsIn mode) :
    builtins.resolve? c.info.name mode = some c.registered := by
  have hlast : (Registry.lastNamed registrations c.mode? c.info.name).isSome = true := by
    have hmem : ⟨c.mode?, c.registered⟩ ∈ registrations.filter fun g =>
        g.mode? = c.mode? ∧ g.command.key = Text.lower c.info.name := by
      refine List.mem_filter.mpr ⟨mem_registrations c, ?_⟩
      simp [Registered.key, registered]
    rw [Registry.lastNamed, Option.isSome_map, List.getLast?_isSome]
    exact List.ne_nil_of_mem hmem
  have hsome : (builtins.resolve? c.info.name mode).isSome = true := by
    rw [coherent_builtins.last, Option.isSome_or, Bool.or_eq_true]
    rcases h with hnone | hmode
    · exact .inl (hnone ▸ hlast)
    · exact .inr (hmode ▸ hlast)
  obtain ⟨found, hfound⟩ := Option.isSome_iff_exists.mp hsome
  obtain ⟨c', rfl, hname, -⟩ := Registry.resolve?_builtins hfound
  rw [hfound, eq_of_name (hname.trans c.lower_name)]

end Builtin
end DevConsole
