/-!
# Insertion-ordered maps

Lists of named values with at most one value per name. Assigning to a name that is already there
keeps its position.
-/

namespace SchemaForge

/-- Named values in order. -/
abbrev Entries (α : Type) := List (String × α)

namespace Entries

variable {α : Type}

/-- The value of a name. -/
def get? (name : String) : Entries α → Option α
  | [] => none
  | (k, v) :: rest => if k = name then some v else get? name rest

/-- Assign a value to a name, in place if the name is there and at the end otherwise. -/
def insert (name : String) (value : α) : Entries α → Entries α
  | [] => [(name, value)]
  | (k, v) :: rest => if k = name then (k, value) :: rest else (k, v) :: insert name value rest

/-- The names in order. -/
def keys (xs : Entries α) : List String := xs.map Prod.fst

/-- Assign all pairs of a list, one after the other. -/
def ofList (xs : List (String × α)) : Entries α :=
  xs.foldl (fun acc (k, v) => insert k v acc) []

theorem mem_keys_insert {name k : String} {value : α} {xs : Entries α} :
    k ∈ keys (insert name value xs) ↔ k = name ∨ k ∈ keys xs := by
  induction xs with
  | nil => simp [insert, keys]
  | cons x rest ih =>
    obtain ⟨key, v⟩ := x
    by_cases h : key = name
    · subst h
      simp [insert, keys]
    · simp only [insert, h, if_false]
      simp only [keys, List.map_cons, List.mem_cons] at ih ⊢
      rw [ih]
      constructor
      · rintro (rfl | rfl | h')
        · exact Or.inr (Or.inl rfl)
        · exact Or.inl rfl
        · exact Or.inr (Or.inr h')
      · rintro (rfl | rfl | h')
        · exact Or.inr (Or.inl rfl)
        · exact Or.inl rfl
        · exact Or.inr (Or.inr h')

theorem mem_keys_of_get? {name : String} {value : α} {xs : Entries α}
    (h : get? name xs = some value) : name ∈ keys xs := by
  induction xs with
  | nil => simp [get?] at h
  | cons x rest ih =>
    obtain ⟨key, v⟩ := x
    by_cases hk : key = name
    · simp [keys, hk]
    · simp only [get?, hk, if_false] at h
      exact List.mem_cons_of_mem _ (ih h)

theorem nodup_keys_insert {name : String} {value : α} {xs : Entries α} (h : (keys xs).Nodup) :
    (keys (insert name value xs)).Nodup := by
  induction xs with
  | nil => simp [insert, keys]
  | cons x rest ih =>
    obtain ⟨key, v⟩ := x
    have hrest : (keys rest).Nodup := (List.nodup_cons.mp h).2
    by_cases hk : key = name
    · simpa [insert, hk, keys] using h
    · simp only [insert, hk, if_false]
      refine List.nodup_cons.mpr ⟨?_, ih hrest⟩
      intro hmem
      rcases mem_keys_insert.mp hmem with h' | h'
      · exact hk h'
      · exact (List.nodup_cons.mp h).1 h'

end Entries

end SchemaForge
