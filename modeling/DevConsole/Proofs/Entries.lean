import DevConsole.Entries

/-!
# The theory of sorted entries

`insert` and `erase` keep `Ordered`, look-ups find exactly the members of an ordered list, and
`ofList` gives an ordered list back unchanged. `mapValues f` changes every value and keeps the
names; it commutes with look-ups, `insert` and `erase`, so that two lists that are both images of a
third can be changed together.
-/

namespace DevConsole.Entries

variable {α β : Type}

/-! ## Order -/

instance (es : Entries α) : Decidable es.Ordered :=
  inferInstanceAs (Decidable (es.names.Pairwise (· < ·)))

theorem ordered_nil : Ordered ([] : Entries α) := List.Pairwise.nil

theorem ordered_cons {p : String × α} {es : Entries α} :
    Ordered (p :: es) ↔ (∀ e ∈ es, p.1 < e.1) ∧ Ordered es := by
  simp [Ordered, names]

theorem mem_insert {name : String} {value : α} {es : Entries α} {e : String × α}
    (h : e ∈ insert name value es) : e = (name, value) ∨ e ∈ es := by
  induction es with
  | nil => simpa [insert] using h
  | cons p es ih =>
    obtain ⟨n, v⟩ := p
    simp only [insert] at h
    split at h
    · simpa using h
    · split at h
      · rcases List.mem_cons.1 h with h | h
        · exact .inl h
        · exact .inr (List.mem_cons_of_mem _ h)
      · rcases List.mem_cons.1 h with h | h
        · exact .inr (h ▸ List.mem_cons_self)
        · exact (ih h).imp_right (List.mem_cons_of_mem _)

theorem mem_of_mem_erase {name : String} {es : Entries α} {e : String × α}
    (h : e ∈ erase name es) : e ∈ es := by
  induction es with
  | nil => exact h
  | cons p es ih =>
    obtain ⟨n, v⟩ := p
    simp only [erase] at h
    split at h
    · exact List.mem_cons_of_mem _ h
    · rcases List.mem_cons.1 h with h | h
      · exact h ▸ List.mem_cons_self
      · exact List.mem_cons_of_mem _ (ih h)

theorem Ordered.insert {es : Entries α} (h : Ordered es) (name : String) (value : α) :
    Ordered (insert name value es) := by
  induction es with
  | nil => simp [Entries.insert, ordered_cons, ordered_nil]
  | cons p es ih =>
    obtain ⟨n, v⟩ := p
    obtain ⟨hlt, hes⟩ := ordered_cons.1 h
    simp only [Entries.insert]
    split
    · rename_i hn
      refine ordered_cons.2 ⟨fun e he => ?_, h⟩
      rcases List.mem_cons.1 he with rfl | he
      · exact hn
      · exact String.lt_trans hn (hlt e he)
    · split
      · rename_i _ hn
        exact ordered_cons.2 ⟨fun e he => hn ▸ hlt e he, hes⟩
      · rename_i hle hne
        refine ordered_cons.2 ⟨fun e he => ?_, ih hes⟩
        rcases mem_insert he with rfl | he
        · exact Std.lt_of_le_of_ne hle hne
        · exact hlt e he

theorem Ordered.erase {es : Entries α} (h : Ordered es) (name : String) :
    Ordered (erase name es) := by
  induction es with
  | nil => exact h
  | cons p es ih =>
    obtain ⟨n, v⟩ := p
    obtain ⟨hlt, hes⟩ := ordered_cons.1 h
    simp only [Entries.erase]
    split
    · exact hes
    · exact ordered_cons.2 ⟨fun e he => hlt e (mem_of_mem_erase he), ih hes⟩

/-! ## Look-ups -/

theorem mem_of_find? {name : String} {es : Entries α} {value : α}
    (h : es.find? name = some value) : (name, value) ∈ es := by
  induction es with
  | nil => simp at h
  | cons p es ih =>
    obtain ⟨n, v⟩ := p
    simp only [find?] at h
    split at h
    · rename_i hn
      cases h; subst hn
      exact List.mem_cons_self
    · exact List.mem_cons_of_mem _ (ih h)

theorem find?_eq_none_of_lt {name : String} {es : Entries α} (h : ∀ e ∈ es, name < e.1) :
    es.find? name = none := by
  cases hf : es.find? name with
  | none => rfl
  | some v => exact absurd (h _ (mem_of_find? hf)) (String.lt_irrefl name)

/-- In an ordered list every member is found under its name. -/
theorem Ordered.find?_eq_some_iff {es : Entries α} (h : Ordered es) {name : String} {value : α} :
    es.find? name = some value ↔ (name, value) ∈ es := by
  refine ⟨mem_of_find?, fun hm => ?_⟩
  induction es with
  | nil => simp at hm
  | cons p es ih =>
    obtain ⟨n, v⟩ := p
    obtain ⟨hlt, hes⟩ := ordered_cons.1 h
    rcases List.mem_cons.1 hm with he | hm
    · cases he
      simp [find?]
    · have hne : n ≠ name := fun hn => String.lt_irrefl n (hn ▸ hlt _ hm)
      simp only [find?, if_neg hne]
      exact ih hes hm

theorem Ordered.find?_erase_self {es : Entries α} (h : Ordered es) (name : String) :
    (Entries.erase name es).find? name = none := by
  induction es with
  | nil => rfl
  | cons p es ih =>
    obtain ⟨n, v⟩ := p
    obtain ⟨hlt, hes⟩ := ordered_cons.1 h
    simp only [Entries.erase]
    split
    · rename_i hn
      exact find?_eq_none_of_lt fun e he => hn ▸ hlt e he
    · rename_i hn
      simp only [find?, if_neg hn]
      exact ih hes

theorem erase_of_find?_eq_none {name : String} {es : Entries α} (h : es.find? name = none) :
    erase name es = es := by
  induction es with
  | nil => rfl
  | cons p es ih =>
    obtain ⟨n, v⟩ := p
    simp only [find?] at h
    split at h
    · cases h
    · rename_i hn
      simp only [erase, if_neg hn, ih h]

/-- What is in the list after an insertion: the new entry, and the old ones of other names. -/
theorem Ordered.mem_insert_iff {es : Entries α} (h : Ordered es) {name : String} {value : α}
    {e : String × α} :
    e ∈ Entries.insert name value es ↔ e = (name, value) ∨ e ∈ Entries.erase name es := by
  induction es with
  | nil => simp [Entries.insert, Entries.erase]
  | cons p es ih =>
    obtain ⟨n, v⟩ := p
    obtain ⟨hlt, hes⟩ := ordered_cons.1 h
    simp only [Entries.insert, Entries.erase]
    split
    · rename_i hn
      have hne : n ≠ name := fun he => String.lt_irrefl n (he ▸ hn)
      have hnone : Entries.find? name es = none :=
        find?_eq_none_of_lt fun e he => String.lt_trans hn (hlt e he)
      rw [if_neg hne, erase_of_find?_eq_none hnone, List.mem_cons]
    · split
      · rw [List.mem_cons]
      · rw [List.mem_cons, List.mem_cons, ih hes, or_left_comm]

/-- Putting the value that is found back under its name changes nothing. -/
theorem Ordered.insert_of_find? {es : Entries α} (h : Ordered es) {name : String} {value : α}
    (hf : es.find? name = some value) : Entries.insert name value es = es := by
  induction es with
  | nil => simp at hf
  | cons p es ih =>
    obtain ⟨n, v⟩ := p
    obtain ⟨hlt, hes⟩ := ordered_cons.1 h
    simp only [find?] at hf
    split at hf
    · rename_i hn
      cases hf; subst hn
      simp [Entries.insert]
    · rename_i hn
      have hnlt : ¬name < n := String.lt_asymm (hlt _ (mem_of_find? hf))
      simp only [Entries.insert, if_neg hnlt, if_neg hn, ih hes hf]

/-- Of two values put under one name the second stays. -/
theorem insert_insert (name : String) (value value' : α) (es : Entries α) :
    insert name value' (insert name value es) = insert name value' es := by
  induction es with
  | nil => simp [insert]
  | cons p es ih =>
    obtain ⟨n, v⟩ := p
    simp only [insert]
    split
    · simp [insert]
    · split
      · simp [insert]
      · rename_i hlt hne
        simp only [insert, if_neg hlt, if_neg hne, ih]

/-! ## Building from a list -/

theorem insert_of_forall_lt {name : String} {value : α} {es : Entries α}
    (h : ∀ e ∈ es, e.1 < name) : Entries.insert name value es = es ++ [(name, value)] := by
  induction es with
  | nil => rfl
  | cons p es ih =>
    obtain ⟨n, v⟩ := p
    have hn : n < name := h _ List.mem_cons_self
    have hne : n ≠ name := fun he => String.lt_irrefl n (he ▸ hn)
    simp only [Entries.insert, if_neg (String.lt_asymm hn), if_neg hne, List.cons_append,
      ih fun e he => h e (List.mem_cons_of_mem _ he)]

theorem ofList_of_ordered {es : Entries α} (h : Ordered es) : ofList es = es := by
  suffices ∀ (rest done : Entries α), Ordered (done ++ rest) →
      rest.foldl (fun es p => Entries.insert p.1 p.2 es) done = done ++ rest from this es [] h
  intro rest
  induction rest with
  | nil => simp
  | cons p rest ih =>
    intro done hd
    have hlt : ∀ e ∈ done, e.1 < p.1 := by
      intro e he
      simp only [Ordered, names, List.map_append, List.map_cons, List.pairwise_append] at hd
      exact hd.2.2 _ (List.mem_map_of_mem he) _ List.mem_cons_self
    rw [List.foldl_cons, insert_of_forall_lt hlt, ih _ (by simpa using hd)]
    simp

theorem foldl_insert_ordered (pairs : List (String × α)) {es : Entries α} (h : Ordered es) :
    Ordered (pairs.foldl (fun es p => Entries.insert p.1 p.2 es) es) := by
  induction pairs generalizing es with
  | nil => exact h
  | cons p pairs ih => exact ih (h.insert p.1 p.2)

theorem ordered_ofList (pairs : List (String × α)) : Ordered (ofList pairs) :=
  foldl_insert_ordered pairs ordered_nil

theorem mem_ofList {pairs : List (String × α)} {e : String × α} (h : e ∈ ofList pairs) :
    e ∈ pairs := by
  suffices ∀ (pairs : List (String × α)) (es : Entries α),
      e ∈ pairs.foldl (fun es p => Entries.insert p.1 p.2 es) es → e ∈ es ∨ e ∈ pairs from
    (this pairs [] h).resolve_left List.not_mem_nil
  intro pairs
  induction pairs with
  | nil => exact fun es h => .inl h
  | cons p pairs ih =>
    intro es h
    rcases ih _ h with h | h
    · rcases mem_insert h with rfl | h
      · exact .inr List.mem_cons_self
      · exact .inl h
    · exact .inr (List.mem_cons_of_mem _ h)

/-! ## Changing the values -/

/-- The entries with every value changed and every name kept. -/
def mapValues (f : α → β) (es : Entries α) : Entries β := es.map fun e => (e.1, f e.2)

@[simp] theorem mapValues_nil (f : α → β) : mapValues f ([] : Entries α) = [] := rfl

@[simp] theorem mapValues_cons (f : α → β) (e : String × α) (es : Entries α) :
    mapValues f (e :: es) = (e.1, f e.2) :: mapValues f es := rfl

theorem mem_mapValues (f : α → β) {es : Entries α} {e : String × α} (h : e ∈ es) :
    (e.1, f e.2) ∈ mapValues f es := List.mem_map_of_mem h

theorem mapValues_mapValues {γ : Type} (f : α → β) (g : β → γ) (es : Entries α) :
    mapValues g (mapValues f es) = mapValues (fun v => g (f v)) es := by
  simp [mapValues]

theorem names_mapValues (f : α → β) (es : Entries α) : (mapValues f es).names = es.names := by
  simp [names, mapValues]

theorem ordered_mapValues {f : α → β} {es : Entries α} : Ordered (mapValues f es) ↔ Ordered es := by
  rw [Ordered, names_mapValues, Ordered]

theorem find?_mapValues (f : α → β) (name : String) (es : Entries α) :
    (mapValues f es).find? name = (es.find? name).map f := by
  induction es with
  | nil => rfl
  | cons p es ih =>
    simp only [mapValues_cons, find?]
    split
    · rfl
    · exact ih

theorem mapValues_insert (f : α → β) (name : String) (value : α) (es : Entries α) :
    mapValues f (Entries.insert name value es) =
      Entries.insert name (f value) (mapValues f es) := by
  induction es with
  | nil => rfl
  | cons p es ih =>
    simp only [mapValues_cons, Entries.insert]
    split
    · rfl
    · split
      · rfl
      · rw [mapValues_cons, ih]

theorem mapValues_erase (f : α → β) (name : String) (es : Entries α) :
    mapValues f (Entries.erase name es) = Entries.erase name (mapValues f es) := by
  induction es with
  | nil => rfl
  | cons p es ih =>
    simp only [mapValues_cons, Entries.erase]
    split
    · rfl
    · rw [mapValues_cons, ih]

end DevConsole.Entries
