import Mathlib.Data.Finset.Card
import Mathlib.Data.List.DropRight
import SchemaForge.Definition.Builder
import SchemaForge.Load
import SchemaForge.Proofs.Assignments

/-!
# Runs of a registry

A registry changes by registrations and by being cleared. After any run it holds what the
registrations since the last clearing assign, one after the other: every name once, at the place of
its first registration, with the definition of its last one.
-/

namespace SchemaForge

namespace Text

variable {α : Type} [BEq α] [LawfulBEq α]

lemma distinct_append_of_mem {xs : List α} {x : α} (hx : x ∈ xs) (ys : List α) :
    distinct (xs ++ x :: ys) = distinct (xs ++ ys) := by
  induction ys using List.reverseRecOn with
  | nil => rw [distinct_concat, if_pos hx, List.append_nil]
  | append_singleton ys y ih =>
    have hmem : y ∈ xs ++ x :: ys ↔ y ∈ xs ++ ys := by
      simp only [List.mem_append, List.mem_cons]
      constructor
      · rintro (h | rfl | h)
        · exact Or.inl h
        · exact Or.inl hx
        · exact Or.inr h
      · rintro (h | h)
        · exact Or.inl h
        · exact Or.inr (Or.inr h)
    rw [← List.append_assoc xs ys, ← List.cons_append, ← List.append_assoc, distinct_concat,
      distinct_concat, ih]
    by_cases hy : y ∈ xs ++ ys
    · rw [if_pos (hmem.mpr hy), if_pos hy]
    · rw [if_neg (mt hmem.mp hy), if_neg hy]

lemma length_distinct [DecidableEq α] (xs : List α) : (distinct xs).length = xs.toFinset.card := by
  have hset : (distinct xs).toFinset = xs.toFinset := by
    ext x
    rw [List.mem_toFinset, List.mem_toFinset, mem_distinct]
  rw [← hset, List.toFinset_card_of_nodup (nodup_distinct xs)]

end Text

namespace Registry

/-- A change of a registry. -/
inductive Change where
  | register (name : String) (d : Definition)
  | clear

def Change.isClear : Change → Bool
  | .register _ _ => false
  | .clear => true

def Change.registration? : Change → Option (String × Definition)
  | .register name d => some (name, d)
  | .clear => none

def apply (reg : Registry) : Change → Registry
  | .register name d => reg.register name d
  | .clear => reg.clear

/-- The registry after changes of an empty one, one after the other. -/
def run (changes : List Change) : Registry := changes.foldl apply empty

/-- The registrations after the last clearing. -/
def registrations (changes : List Change) : List (String × Definition) :=
  (changes.rtakeWhile fun c => !c.isClear).filterMap Change.registration?

/-- The definition of the last registration of a name. -/
def lastOf (rs : List (String × Definition)) (name : String) : Option Definition :=
  (rs.filter fun r => r.1 = name).getLast?.map Prod.snd

/-! ### What one change does -/

lemma run_concat (changes : List Change) (c : Change) :
    run (changes ++ [c]) = (run changes).apply c := by
  rw [run, List.foldl_append]
  rfl

lemma registrations_concat_register (changes : List Change) (name : String) (d : Definition) :
    registrations (changes ++ [.register name d]) = registrations changes ++ [(name, d)] := by
  unfold registrations
  rw [List.rtakeWhile_concat_pos _ _ _ rfl, List.filterMap_append]
  rfl

lemma registrations_concat_clear (changes : List Change) :
    registrations (changes ++ [.clear]) = [] := by
  unfold registrations
  rw [List.rtakeWhile_concat_neg _ _ _ (by simp [Change.isClear])]
  rfl

/-- One more registration assigns to one more name, and clearing starts again from nothing. -/
lemma entries_apply {reg : Registry} {changes : List Change}
    (h : reg.entries = Entries.ofList (registrations changes)) (c : Change) :
    (reg.apply c).entries = Entries.ofList (registrations (changes ++ [c])) := by
  cases c with
  | register name d =>
    rw [registrations_concat_register, Entries.ofList_concat, ← h]
    rfl
  | clear =>
    rw [registrations_concat_clear]
    rfl

/-! ### What a run leaves -/

theorem entries_run (changes : List Change) :
    (run changes).entries = Entries.ofList (registrations changes) := by
  induction changes using List.reverseRecOn with
  | nil => rfl
  | append_singleton changes c ih =>
    rw [run_concat]
    exact entries_apply ih c

lemma names_run (changes : List Change) :
    (run changes).names = Text.distinct ((registrations changes).map Prod.fst) := by
  rw [names, entries_run, Entries.keys_ofList]

lemma find?_run (changes : List Change) (name : String) :
    (run changes).find? name = lastOf (registrations changes) name := by
  rw [find?, entries_run, Entries.get?_ofList, lastOf, List.getLast?_filter]

lemma contains_run (changes : List Change) (name : String) :
    (run changes).contains name = true ↔ name ∈ (registrations changes).map Prod.fst := by
  rw [contains_iff_mem_names, names_run, Text.mem_distinct]

lemma size_eq_length_names (reg : Registry) : reg.size = reg.names.length := by
  rw [size, names, Entries.keys, List.length_map]

lemma snapshot_eq_map_names (reg : Registry) :
    (reg.snapshot.map fun e => (e.1, some e.2)) = reg.names.map fun name => (name, reg.find? name) := by
  rw [names, Entries.keys, List.map_map]
  apply List.map_congr_left
  rintro ⟨name, d⟩ he
  rw [Function.comp_apply, (mem_entries_iff name d).mp he]

/-! ### Loaded definitions -/

/-- Loading registers and never clears. -/
def changesOf (ds : List Loaded) : List Change := ds.map fun d => .register d.name d.definition

lemma run_changesOf (ds : List Loaded) : run (changesOf ds) = ofLoaded ds := by
  rw [run, changesOf, ofLoaded, ofList, List.foldl_map, List.foldl_map]
  rfl

lemma registrations_changesOf (ds : List Loaded) :
    registrations (changesOf ds) = ds.map fun d => (d.name, d.definition) := by
  induction ds using List.reverseRecOn with
  | nil => rfl
  | append_singleton ds d ih =>
    have hlast : changesOf (ds ++ [d]) = changesOf ds ++ [.register d.name d.definition] :=
      List.map_append
    rw [hlast, registrations_concat_register, ih, List.map_append, List.map_singleton]

lemma names_ofLoaded (ds : List Loaded) :
    (ofLoaded ds).names = Text.distinct (ds.map Loaded.name) := by
  rw [← run_changesOf, names_run, registrations_changesOf, List.map_map]
  rfl

lemma find?_ofLoaded (ds : List Loaded) (name : String) :
    (ofLoaded ds).find? name = (ds.filter fun d => d.name = name).getLast?.map Loaded.definition := by
  rw [← run_changesOf, find?_run, registrations_changesOf, lastOf, List.filter_map,
    List.getLast?_map, Option.map_map]
  rfl

/-- The later of two definitions with one name wins and stands where the earlier one stood. -/
lemma ofLoaded_replace {before between after : List Loaded} {x y : Loaded} (hxy : x.name = y.name)
    (hafter : ∀ z ∈ after, z.name ≠ y.name) :
    (ofLoaded (before ++ x :: between ++ y :: after)).find? y.name = some y.definition ∧
      (ofLoaded (before ++ x :: between ++ y :: after)).names =
        (ofLoaded (before ++ x :: between ++ after)).names := by
  constructor
  · have hnone : after.filter (fun d => d.name = y.name) = [] := by
      apply List.filter_eq_nil_iff.mpr
      intro z hz
      simpa using hafter z hz
    rw [find?_ofLoaded, List.filter_append, List.filter_cons_of_pos (by simp), hnone,
      List.getLast?_concat]
    rfl
  · have hmem : y.name ∈ (before ++ x :: between).map Loaded.name := by
      rw [← hxy]
      exact List.mem_map_of_mem (by simp)
    rw [names_ofLoaded, names_ofLoaded, List.map_append, List.map_cons,
      Text.distinct_append_of_mem hmem, ← List.map_append]

/-! ### Ordered maps -/

/-- Over any run a registry is an ordered map of the registrations since the last clearing, and the
registry of loaded definitions is the one of the run that registers them in order. -/
theorem run_is_ordered_map (changes : List Change) (ds : List Loaded) :
    ((∀ name, name ∈ (run changes).names ↔ name ∈ (registrations changes).map Prod.fst) ∧
      (run changes).names.Pairwise fun a b =>
        ((registrations changes).map Prod.fst).idxOf a <
          ((registrations changes).map Prod.fst).idxOf b) ∧
    (∀ name, (run changes).find? name = lastOf (registrations changes) name) ∧
    (∀ name, (run changes).contains name = ((run changes).find? name).isSome ∧
      ((run changes).contains name = true ↔ name ∈ (registrations changes).map Prod.fst)) ∧
    (run changes).size = ((registrations changes).map Prod.fst).toFinset.card ∧
    ((run changes).snapshot.map fun e => (e.1, some e.2)) =
      ((run changes).names.map fun name => (name, lastOf (registrations changes) name)) ∧
    ofLoaded ds = run (ds.map fun d => .register d.name d.definition) ∧
    ∀ before x between y after, ds = before ++ x :: between ++ y :: after → x.name = y.name →
      (∀ z ∈ after, z.name ≠ y.name) →
        (ofLoaded ds).find? y.name = some y.definition ∧
          (ofLoaded ds).names = (ofLoaded (before ++ x :: between ++ after)).names := by
  refine ⟨⟨?_, ?_⟩, find?_run changes, ?_, ?_, ?_, (run_changesOf ds).symm, ?_⟩
  · intro name
    rw [names_run, Text.mem_distinct]
  · rw [names_run]
    exact Text.pairwise_idxOf_distinct _
  · exact fun name => ⟨rfl, contains_run changes name⟩
  · rw [size_eq_length_names, names_run, Text.length_distinct]
  · rw [snapshot_eq_map_names]
    simp only [find?_run]
  · rintro before x between y after rfl hxy hafter
    exact ofLoaded_replace hxy hafter

/-- What was registered before the clearing is gone, and a definition that is loaded again keeps its
place. -/
theorem run_is_ordered_map_of_replaced :
    (run [.register "A" .anyString, .clear, .register "B" .anyNumber,
      .register "B" (.refTo "A")]).find? "A" = none ∧
    (ofLoaded [⟨"A", .anyString, "a.json"⟩, ⟨"B", .anyString, "b.json"⟩,
      ⟨"A", .anyNumber, "c.json"⟩]).find? "A" = some .anyNumber ∧
    (ofLoaded [⟨"A", .anyString, "a.json"⟩, ⟨"B", .anyString, "b.json"⟩,
      ⟨"A", .anyNumber, "c.json"⟩]).names = ["A", "B"] :=
  have h := run_is_ordered_map
    [.register "A" .anyString, .clear, .register "B" .anyNumber, .register "B" (.refTo "A")]
    [⟨"A", .anyString, "a.json"⟩, ⟨"B", .anyString, "b.json"⟩, ⟨"A", .anyNumber, "c.json"⟩]
  ⟨h.2.1 "A",
    h.2.2.2.2.2.2 [] ⟨"A", .anyString, "a.json"⟩ [⟨"B", .anyString, "b.json"⟩]
      ⟨"A", .anyNumber, "c.json"⟩ [] rfl rfl (by simp)⟩

end Registry

end SchemaForge
