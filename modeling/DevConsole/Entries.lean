/-!
# Sorted entries

`Entries α` is a finite map from names to values, kept as a list in ascending order of the names
(by code points, which is also the order of their UTF-8 bytes). Directories, stored keys and the
members of a JSON object are all held this way, so that they are listed in this order.

`Ordered` says that the names ascend strictly; `insert` and `erase` keep it, and `find?_insert`
and `find?_erase_of_ne` say what they do to look-ups.
-/

namespace DevConsole

/-- Named values, in ascending order of the names. -/
abbrev Entries (α : Type) := List (String × α)

namespace Entries

variable {α β : Type}

def names (es : Entries α) : List String := es.map Prod.fst

/-- The names ascend strictly. -/
def Ordered (es : Entries α) : Prop := es.names.Pairwise (· < ·)

def find? (name : String) : Entries α → Option α
  | [] => none
  | (n, v) :: es => if n = name then some v else find? name es

def contains (name : String) (es : Entries α) : Bool := (es.find? name).isSome

/-- Puts a value under a name, in place of the one already there. -/
def insert (name : String) (value : α) : Entries α → Entries α
  | [] => [(name, value)]
  | (n, v) :: es =>
    if name < n then (name, value) :: (n, v) :: es
    else if n = name then (name, value) :: es
    else (n, v) :: insert name value es

def erase (name : String) : Entries α → Entries α
  | [] => []
  | (n, v) :: es => if n = name then es else (n, v) :: erase name es

/-- Of two values under one name the later one stays. -/
def ofList (pairs : List (String × α)) : Entries α :=
  pairs.foldl (fun es p => insert p.1 p.2 es) []

/-! ## Look-ups after changes -/

@[simp] theorem find?_nil (name : String) : find? name ([] : Entries α) = none := rfl

theorem find?_insert (name other : String) (value : α) (es : Entries α) :
    find? other (insert name value es) = if other = name then some value else find? other es := by
  induction es with
  | nil => by_cases h : name = other <;> simp [insert, find?, h, eq_comm]
  | cons p es ih =>
    obtain ⟨n, v⟩ := p
    simp only [insert]
    split
    · by_cases h : name = other <;> simp [find?, h, eq_comm]
    · split
      · rename_i hn
        by_cases h : name = other <;> simp [find?, h, hn, eq_comm]
      · rename_i hn
        simp only [find?, ih]
        by_cases h : other = name
        · simp [h, hn]
        · simp [h]

theorem find?_erase_of_ne {name other : String} (h : other ≠ name) (es : Entries α) :
    find? other (erase name es) = find? other es := by
  induction es with
  | nil => rfl
  | cons p es ih =>
    obtain ⟨n, v⟩ := p
    simp only [erase]
    split
    · subst_vars; simp [find?, Ne.symm h]
    · simp only [find?, ih]

end Entries

end DevConsole
