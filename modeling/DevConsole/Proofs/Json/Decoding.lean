import DevConsole.Proofs.Entries
import DevConsole.Proofs.Json.Grammar

/-!
# Decoding JSON

A list is decoded item by item and a map value by value: what was encoded in this way is found
again (`list?_array_map`, `entries?_mapValues`). What is found in a map comes from a member
(`mem_of_entries?`) and is in order.
-/

namespace DevConsole.Json

theorem depthMembers_le_iff {members : List (String × Json)} {n : Nat} :
    depthMembers members ≤ n ↔ ∀ m ∈ members, m.2.depth ≤ n := by
  induction members with
  | nil => simp [depthMembers]
  | cons m ms ih => simp only [depthMembers, Nat.max_le, ih, List.forall_mem_cons]

theorem depthItems_le_iff {items : List Json} {n : Nat} :
    depthItems items ≤ n ↔ ∀ v ∈ items, v.depth ≤ n := by
  induction items with
  | nil => simp [depthItems]
  | cons v vs ih => simp only [depthItems, Nat.max_le, ih, List.forall_mem_cons]

/-- A list is decoded item by item. -/
theorem list?_array_map {α : Type} {decode : Json → Option α} {encode : α → Json} {xs : List α}
    (h : ∀ x ∈ xs, decode (encode x) = some x) :
    list? decode (.array (xs.map encode)) = some xs := by
  rw [list?]
  induction xs with
  | nil => rfl
  | cons x xs ih =>
    rw [List.map_cons, List.mapM_cons, h x List.mem_cons_self,
      ih fun y hy => h y (List.mem_cons_of_mem _ hy)]
    rfl

/-- A map is decoded value by value. -/
theorem entries?_mapValues {α : Type} {decode : Json → Option α} {encode : α → Json}
    {es : Entries α} (ho : es.Ordered) (h : ∀ e ∈ es, decode (encode e.2) = some e.2) :
    entries? decode (.object (es.mapValues encode)) = some es := by
  have hmap : (es.mapValues encode).mapM (fun m => (decode m.2).map fun d => (m.1, d)) =
      some es := by
    clear ho
    induction es with
    | nil => rfl
    | cons e es ih =>
      rw [Entries.mapValues_cons, List.mapM_cons, h e List.mem_cons_self,
        ih fun e he => h e (List.mem_cons_of_mem _ he)]
      rfl
  rw [entries?, hmap, Option.map_some, Entries.ofList_of_ordered ho]

/-- Where a map is decoded, each of its entries is the value of a member. -/
theorem mem_of_entries? {α : Type} {decode : Json → Option α} {v : Json} {es : Entries α}
    (h : entries? decode v = some es) :
    ∃ members, v = .object members ∧
      ∀ e ∈ es, ∃ w, (e.1, w) ∈ members ∧ decode w = some e.2 := by
  cases v with
  | object members =>
    refine ⟨members, rfl, ?_⟩
    obtain ⟨pairs, hpairs, rfl⟩ := Option.map_eq_some_iff.1 h
    suffices ∀ e ∈ pairs, ∃ w, (e.1, w) ∈ members ∧ decode w = some e.2 from
      fun e he => this e (Entries.mem_ofList he)
    clear h
    induction members generalizing pairs with
    | nil =>
      cases hpairs
      exact fun e he => absurd he List.not_mem_nil
    | cons m ms ih =>
      rw [List.mapM_cons] at hpairs
      obtain ⟨d, hd, hrest⟩ := Option.bind_eq_some_iff.1 hpairs
      obtain ⟨c, hc, rfl⟩ := Option.map_eq_some_iff.1 hd
      obtain ⟨rest, hms, heq⟩ := Option.bind_eq_some_iff.1 hrest
      cases heq
      intro e he
      rcases List.mem_cons.1 he with rfl | he
      · exact ⟨m.2, List.mem_cons_self, hc⟩
      · obtain ⟨w, hw, hdw⟩ := ih rest hms e he
        exact ⟨w, List.mem_cons_of_mem _ hw, hdw⟩
  | _ => cases h

theorem ordered_of_entries? {α : Type} {decode : Json → Option α} {v : Json} {es : Entries α}
    (h : entries? decode v = some es) : es.Ordered := by
  cases v with
  | object members =>
    obtain ⟨pairs, _, rfl⟩ := Option.map_eq_some_iff.1 h
    exact Entries.ordered_ofList pairs
  | _ => cases h

theorem mem_of_member? {name : String} {members : List (String × Json)} {v : Json}
    (h : member? name members = some (some v)) : (name, v) ∈ members := by
  unfold member? at h
  split at h
  · cases h
  · rename_i n w hfilter
    cases h
    have hm : (n, v) ∈ members.filter fun m => m.1 = name := by
      rw [hfilter]
      exact List.mem_singleton_self _
    obtain ⟨hm, hn⟩ := List.mem_filter.1 hm
    rw [← of_decide_eq_true hn]
    exact hm
  · cases h

end DevConsole.Json
