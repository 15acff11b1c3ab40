import SchemaForge.Proofs.Locality

/-!
# Runs of assignments

Entries that are made by assigning values to names, one after the other. Main statements: every name
stands once, at the place of the first assignment to it, and has the value of the last one.
-/

namespace SchemaForge

namespace Text

variable {α : Type} [BEq α] [LawfulBEq α]

lemma distinct_concat (xs : List α) (x : α) :
    distinct (xs ++ [x]) = if x ∈ xs then distinct xs else distinct xs ++ [x] := by
  have hfold : distinct (xs ++ [x]) =
      if (distinct xs).contains x then distinct xs else distinct xs ++ [x] := by
    rw [distinct, List.foldl_append]
    rfl
  rw [hfold]
  by_cases hx : x ∈ xs
  · rw [if_pos hx, if_pos (List.contains_iff_mem.mpr ((mem_distinct xs x).mpr hx))]
  · have hseen : ¬(distinct xs).contains x = true := by
      rwa [List.contains_iff_mem, mem_distinct]
    rw [if_neg hx, if_neg hseen]

/-- Without its repetitions a list has the order of the first appearances. -/
theorem pairwise_idxOf_distinct (xs : List α) :
    (distinct xs).Pairwise fun a b => xs.idxOf a < xs.idxOf b := by
  induction xs using List.reverseRecOn with
  | nil => exact List.Pairwise.nil
  | append_singleton xs x ih =>
    have hkeep : (distinct xs).Pairwise fun a b => (xs ++ [x]).idxOf a < (xs ++ [x]).idxOf b := by
      refine ih.imp_of_mem ?_
      intro a b ha hb hab
      rw [mem_distinct] at ha hb
      rwa [List.idxOf_append_of_mem ha, List.idxOf_append_of_mem hb]
    rw [distinct_concat]
    by_cases hx : x ∈ xs
    · rwa [if_pos hx]
    · rw [if_neg hx, List.pairwise_append]
      refine ⟨hkeep, List.pairwise_singleton _ x, ?_⟩
      intro a ha b hb
      rw [mem_distinct] at ha
      rw [List.mem_singleton.mp hb, List.idxOf_append_of_mem ha, List.idxOf_append_of_notMem hx]
      have hlt := List.idxOf_lt_length_of_mem ha
      omega

end Text

namespace Entries

variable {α : Type}

lemma keys_insert (name : String) (value : α) (xs : Entries α) :
    keys (insert name value xs) = if name ∈ keys xs then keys xs else keys xs ++ [name] := by
  induction xs with
  | nil => rfl
  | cons x xs ih =>
    obtain ⟨key, v⟩ := x
    by_cases hkey : key = name
    · rw [insert, if_pos hkey, if_pos (by simp [keys, hkey])]
      rfl
    · have hmem : name ∈ keys ((key, v) :: xs) ↔ name ∈ keys xs := by
        simp [keys, Ne.symm hkey]
      have hcons : keys ((key, v) :: insert name value xs) = key :: keys (insert name value xs) := rfl
      rw [insert, if_neg hkey, hcons, ih]
      by_cases hname : name ∈ keys xs
      · rw [if_pos hname, if_pos (hmem.mpr hname)]
        rfl
      · rw [if_neg hname, if_neg (mt hmem.mp hname)]
        rfl

lemma ofList_concat (xs : List (String × α)) (x : String × α) :
    ofList (xs ++ [x]) = insert x.1 x.2 (ofList xs) := by
  rw [ofList, List.foldl_append]
  rfl

/-- Every name stands once, where it was assigned first. -/
theorem keys_ofList (xs : List (String × α)) : keys (ofList xs) = Text.distinct (xs.map Prod.fst) := by
  induction xs using List.reverseRecOn with
  | nil => rfl
  | append_singleton xs x ih =>
    rw [ofList_concat, keys_insert, ih, List.map_append, List.map_singleton, Text.distinct_concat]
    simp only [Text.mem_distinct]

/-- Every name has the value that it was assigned last. -/
theorem get?_ofList (name : String) (xs : List (String × α)) :
    get? name (ofList xs) = (xs.reverse.find? fun x => x.1 = name).map Prod.snd := by
  induction xs using List.reverseRecOn with
  | nil => rfl
  | append_singleton xs x ih =>
    rw [ofList_concat, get?_insert, ih, List.reverse_append, List.reverse_singleton,
      List.singleton_append, List.find?_cons]
    by_cases hname : x.1 = name
    · simp [hname]
    · simp [hname, Ne.symm hname]

end Entries

end SchemaForge
