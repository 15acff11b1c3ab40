import Mathlib.Data.List.Nodup
import Mathlib.Data.Set.Function
import Mathlib.Tactic.Lemma
import SchemaForge.Schema.Generate

/-!
# Definitions as trees

Induction over the nodes of a definition, and the functions that walk through a definition in
terms of the parts of its nodes. What a rendering defers is what its references defer, one
after the other in the order of the reference nodes.
-/

namespace SchemaForge

/-! ### Lists without repetitions -/

namespace Text

variable {α β : Type} [BEq α] [BEq β]

/-- The elements of a list that are not among those seen before, each once, behind them. -/
def distinctAfter (seen xs : List α) : List α :=
  xs.foldl (fun seen x => if seen.contains x then seen else seen ++ [x]) seen

lemma distinctAfter_cons (seen : List α) (x : α) (xs : List α) :
    distinctAfter seen (x :: xs) =
      distinctAfter (if seen.contains x then seen else seen ++ [x]) xs := rfl

variable [LawfulBEq α] [LawfulBEq β]

lemma mem_distinctAfter (seen xs : List α) (y : α) :
    y ∈ distinctAfter seen xs ↔ y ∈ seen ∨ y ∈ xs := by
  induction xs generalizing seen with
  | nil => simp [distinctAfter]
  | cons x xs ih =>
    rw [distinctAfter_cons, ih]
    by_cases hx : x ∈ seen
    · rw [if_pos (List.contains_iff_mem.mpr hx), List.mem_cons]
      constructor
      · rintro (h | h)
        · exact Or.inl h
        · exact Or.inr (Or.inr h)
      · rintro (h | rfl | h)
        · exact Or.inl h
        · exact Or.inl hx
        · exact Or.inr h
    · rw [if_neg (fun h => hx (List.contains_iff_mem.mp h)), List.mem_append, List.mem_singleton,
        List.mem_cons, or_assoc]

lemma nodup_distinctAfter (seen xs : List α) (h : seen.Nodup) : (distinctAfter seen xs).Nodup := by
  induction xs generalizing seen with
  | nil => exact h
  | cons x xs ih =>
    rw [distinctAfter_cons]
    apply ih
    by_cases hx : x ∈ seen
    · rwa [if_pos (List.contains_iff_mem.mpr hx)]
    · rw [if_neg (fun h => hx (List.contains_iff_mem.mp h))]
      exact h.append (List.nodup_singleton x) (List.disjoint_singleton.mpr hx)

lemma map_distinctAfter (f : α → β) (seen xs : List α)
    (hf : Set.InjOn f {x | x ∈ seen ∨ x ∈ xs}) :
    (distinctAfter seen xs).map f = distinctAfter (seen.map f) (xs.map f) := by
  induction xs generalizing seen with
  | nil => rfl
  | cons x xs ih =>
    rw [List.map_cons, distinctAfter_cons, distinctAfter_cons]
    have hx : f x ∈ seen.map f ↔ x ∈ seen := by
      constructor
      · intro h
        obtain ⟨y, hy, hyx⟩ := List.mem_map.mp h
        have he : y = x := hf (Or.inl hy) (Or.inr List.mem_cons_self) hyx
        exact he ▸ hy
      · exact List.mem_map_of_mem
    by_cases h : x ∈ seen
    · rw [if_pos (List.contains_iff_mem.mpr h), if_pos (List.contains_iff_mem.mpr (hx.mpr h))]
      exact ih seen (hf.mono (by
        rintro y (hy | hy)
        · exact Or.inl hy
        · exact Or.inr (List.mem_cons_of_mem x hy)))
    · rw [if_neg (fun hc => h (List.contains_iff_mem.mp hc)),
        if_neg (fun hc => h (hx.mp (List.contains_iff_mem.mp hc)))]
      rw [ih (seen ++ [x]) (hf.mono (by
        rintro y (hy | hy)
        · rcases List.mem_append.mp hy with hy | hy
          · exact Or.inl hy
          · exact Or.inr (List.mem_singleton.mp hy ▸ List.mem_cons_self)
        · exact Or.inr (List.mem_cons_of_mem x hy)))]
      rw [List.map_append, List.map_singleton]

@[simp] lemma mem_distinct (xs : List α) (y : α) : y ∈ distinct xs ↔ y ∈ xs := by
  change y ∈ distinctAfter [] xs ↔ y ∈ xs
  simp [mem_distinctAfter]

lemma nodup_distinct (xs : List α) : (distinct xs).Nodup :=
  nodup_distinctAfter [] xs List.nodup_nil

/-- A map that tells the elements of a list apart keeps the order of their first appearance. -/
lemma map_distinct (f : α → β) (xs : List α) (hf : Set.InjOn f {x | x ∈ xs}) :
    (distinct xs).map f = distinct (xs.map f) :=
  map_distinctAfter f [] xs (hf.mono (by
    rintro y (hy | hy)
    · exact absurd hy (List.not_mem_nil)
    · exact hy))

end Text

namespace Entries

variable {α : Type}

lemma mem_of_get? {name : String} {value : α} {xs : Entries α} (h : get? name xs = some value) :
    (name, value) ∈ xs := by
  induction xs with
  | nil => simp [get?] at h
  | cons x xs ih =>
    obtain ⟨key, v⟩ := x
    by_cases hk : key = name
    · simp only [get?, hk, if_true, Option.some.injEq] at h
      rw [hk, h]
      exact List.mem_cons_self
    · simp only [get?, hk, if_false] at h
      exact List.mem_cons_of_mem _ (ih h)

end Entries

/-! ### Induction over the parts -/

namespace Definition

/-- The node is written from its parts, unlike leaves and references. -/
def isComposite : Definition → Bool
  | leaf _ _ | ref _ _ => false
  | array _ _ _ | object _ _ _ _ | tuple _ _ | group _ _ _ => true

lemma sizeOf_lt_of_mem_parts {d p : Definition} (h : p ∈ d.parts) : sizeOf p < sizeOf d := by
  cases d with
  | leaf _ _ => cases h
  | array item _ _ =>
    rw [List.mem_singleton.mp h, array.sizeOf_spec]
    omega
  | object properties _ _ _ =>
    obtain ⟨⟨name, q⟩, hq, rfl⟩ := List.mem_map.mp h
    have hlt := List.sizeOf_lt_of_mem hq
    rw [Prod.mk.sizeOf_spec] at hlt
    rw [object.sizeOf_spec]
    dsimp only
    omega
  | tuple items _ =>
    have hlt := List.sizeOf_lt_of_mem h
    rw [parts] at hlt
    rw [tuple.sizeOf_spec]
    omega
  | group _ members _ =>
    have hlt := List.sizeOf_lt_of_mem h
    rw [parts] at hlt
    rw [group.sizeOf_spec]
    omega
  | ref _ _ => cases h

/-- Induction over the nodes of a definition, with the hypothesis at every part. -/
@[elab_as_elim]
theorem partsInduction {motive : Definition → Prop} (leaf : ∀ l ex, motive (.leaf l ex))
    (composite : ∀ d, d.isComposite = true → (∀ p ∈ d.parts, motive p) → motive d)
    (ref : ∀ name ex, motive (.ref name ex)) (d : Definition) : motive d := by
  have hparts : ∀ p ∈ d.parts, motive p := fun p _ => partsInduction leaf composite ref p
  cases d with
  | leaf l ex => exact leaf l ex
  | ref name ex => exact ref name ex
  | array _ _ _ | object _ _ _ _ | tuple _ _ | group _ _ _ => exact composite _ rfl hparts
termination_by sizeOf d
decreasing_by exact sizeOf_lt_of_mem_parts (by assumption)

/-! ### Walks through the parts -/

mutual

/-- The leaves of a definition in order. -/
def leaves : Definition → List Leaf
  | leaf l _ => [l]
  | array item _ _ => leaves item
  | object properties _ _ _ => leavesOfProperties properties
  | tuple items _ => leavesOfList items
  | group _ members _ => leavesOfList members
  | ref _ _ => []

def leavesOfList : List Definition → List Leaf
  | [] => []
  | d :: rest => leaves d ++ leavesOfList rest

def leavesOfProperties : List (String × Definition) → List Leaf
  | [] => []
  | (_, d) :: rest => leaves d ++ leavesOfProperties rest

end

lemma leavesOfList_eq_flatMap (ds : List Definition) : leavesOfList ds = ds.flatMap leaves := by
  induction ds with
  | nil => rfl
  | cons d ds ih => rw [leavesOfList, ih, List.flatMap_cons]

lemma leavesOfProperties_eq_flatMap (ps : List (String × Definition)) :
    leavesOfProperties ps = ps.flatMap fun p => leaves p.2 := by
  induction ps with
  | nil => rfl
  | cons p ps ih => rw [leavesOfProperties, ih, List.flatMap_cons]

lemma leaves_of_isComposite {d : Definition} (h : d.isComposite = true) :
    d.leaves = d.parts.flatMap leaves := by
  cases d with
  | leaf _ _ | ref _ _ => cases h
  | array item _ _ => rw [leaves, parts, List.flatMap_singleton]
  | object properties _ _ _ =>
    rw [leaves, parts, leavesOfProperties_eq_flatMap, List.flatMap_map]
  | tuple items _ => rw [leaves, parts, leavesOfList_eq_flatMap]
  | group _ members _ => rw [leaves, parts, leavesOfList_eq_flatMap]

lemma isComposite_of_mem_parts {d p : Definition} (h : p ∈ d.parts) : d.isComposite = true := by
  cases d with
  | leaf _ _ | ref _ _ => cases h
  | array _ _ _ | object _ _ _ _ | tuple _ _ | group _ _ _ => rfl

/-- The leaves of a part are leaves of the whole. -/
lemma leaves_subset_of_mem_parts {d p : Definition} (h : p ∈ d.parts) : p.leaves ⊆ d.leaves := by
  intro l hl
  rw [leaves_of_isComposite (isComposite_of_mem_parts h)]
  exact List.mem_flatMap.mpr ⟨p, h, hl⟩

lemma renderList_eq_map (resolve : String → Rendered) (ds : List Definition) :
    renderList resolve ds = ds.map (render resolve) := by
  induction ds with
  | nil => rfl
  | cons d ds ih => rw [renderList, ih, List.map_cons]

lemma renderProperties_eq_map (resolve : String → Rendered) (ps : List (String × Definition)) :
    renderProperties resolve ps = ps.map fun p => render resolve p.2 := by
  induction ps with
  | nil => rfl
  | cons p ps ih => rw [renderProperties, ih, List.map_cons]

/-- A composite node is written from the renderings of its parts. -/
lemma render_of_isComposite (resolve : String → Rendered) {d : Definition}
    (h : d.isComposite = true) :
    d.render resolve =
      .ofParts (d.schemaFrom ((d.parts.map (render resolve)).map Rendered.text))
        (d.parts.map (render resolve)) := by
  cases d with
  | leaf _ _ | ref _ _ => cases h
  | array item _ _ =>
    rw [render]
    rfl
  | object properties _ _ _ =>
    have hparts : renderProperties resolve properties =
        (properties.map Prod.snd).map (render resolve) := by
      rw [renderProperties_eq_map, List.map_map]
      rfl
    rw [render, parts, hparts]
  | tuple items _ => rw [render, parts, renderList_eq_map]
  | group _ members _ => rw [render, parts, renderList_eq_map]

mutual

/-- The names of all reference nodes in pre-order, with repetitions. -/
def refNames : Definition → List String
  | leaf _ _ => []
  | array item _ _ => refNames item
  | object properties _ _ _ => refNamesOfProperties properties
  | tuple items _ => refNamesOfList items
  | group _ members _ => refNamesOfList members
  | ref name _ => [name]

def refNamesOfList : List Definition → List String
  | [] => []
  | d :: rest => refNames d ++ refNamesOfList rest

def refNamesOfProperties : List (String × Definition) → List String
  | [] => []
  | (_, d) :: rest => refNames d ++ refNamesOfProperties rest

end

lemma refNamesOfList_eq_flatMap (ds : List Definition) :
    refNamesOfList ds = ds.flatMap refNames := by
  induction ds with
  | nil => rfl
  | cons d ds ih => rw [refNamesOfList, ih, List.flatMap_cons]

lemma refNamesOfProperties_eq_flatMap (ps : List (String × Definition)) :
    refNamesOfProperties ps = ps.flatMap fun p => refNames p.2 := by
  induction ps with
  | nil => rfl
  | cons p ps ih => rw [refNamesOfProperties, ih, List.flatMap_cons]

lemma refNames_of_isComposite {d : Definition} (h : d.isComposite = true) :
    d.refNames = d.parts.flatMap refNames := by
  cases d with
  | leaf _ _ | ref _ _ => cases h
  | array item _ _ => rw [refNames, parts, List.flatMap_singleton]
  | object properties _ _ _ =>
    rw [refNames, parts, refNamesOfProperties_eq_flatMap, List.flatMap_map]
  | tuple items _ => rw [refNames, parts, refNamesOfList_eq_flatMap]
  | group _ members _ => rw [refNames, parts, refNamesOfList_eq_flatMap]

lemma collectFromList_eq_foldl (names : List String) (ds : List Definition) :
    collectFromList names ds = ds.foldl collectReferences names := by
  induction ds generalizing names with
  | nil => rfl
  | cons d ds ih => rw [collectFromList, ih, List.foldl_cons]

lemma collectFromProperties_eq_foldl (names : List String) (ps : List (String × Definition)) :
    collectFromProperties names ps = (ps.map Prod.snd).foldl collectReferences names := by
  induction ps generalizing names with
  | nil => rfl
  | cons p ps ih => rw [collectFromProperties, ih, List.map_cons, List.foldl_cons]

lemma collectReferences_of_isComposite (names : List String) {d : Definition}
    (h : d.isComposite = true) :
    collectReferences names d = d.parts.foldl collectReferences names := by
  cases d with
  | leaf _ _ | ref _ _ => cases h
  | array item _ _ => rw [collectReferences, parts, List.foldl_cons, List.foldl_nil]
  | object properties _ _ _ => rw [collectReferences, parts, collectFromProperties_eq_foldl]
  | tuple items _ => rw [collectReferences, parts, collectFromList_eq_foldl]
  | group _ members _ => rw [collectReferences, parts, collectFromList_eq_foldl]

/-- A walk adds the names of the reference nodes that it has not met before. -/
lemma collectReferences_eq_distinctAfter (names : List String) (d : Definition) :
    collectReferences names d = Text.distinctAfter names d.refNames := by
  induction d using partsInduction generalizing names with
  | leaf l ex => rw [collectReferences, refNames, Text.distinctAfter, List.foldl_nil]
  | composite d h ih =>
    rw [collectReferences_of_isComposite names h, refNames_of_isComposite h, Text.distinctAfter,
      List.foldl_flatMap]
    exact List.foldl_ext _ _ _ fun seen p hp => ih p hp seen
  | ref name ex =>
    rw [collectReferences, refNames, Text.distinctAfter_cons, Text.distinctAfter, List.foldl_nil]

lemma references_eq_distinct (d : Definition) : d.references = Text.distinct d.refNames :=
  collectReferences_eq_distinctAfter [] d

@[simp] lemma mem_references (d : Definition) (name : String) :
    name ∈ d.references ↔ name ∈ d.refNames := by
  rw [references_eq_distinct, Text.mem_distinct]

/-- A rendering defers what its references defer, in the order of the reference nodes. -/
theorem render_deferred (resolve : String → Rendered) (d : Definition) :
    (d.render resolve).deferred = d.refNames.flatMap fun name => (resolve name).deferred := by
  induction d using partsInduction with
  | leaf l ex => rw [render, refNames, List.flatMap_nil]
  | composite d h ih =>
    rw [render_of_isComposite resolve h, refNames_of_isComposite h, Rendered.ofParts,
      List.flatMap_map, List.flatMap_assoc]
    exact List.flatMap_congr ih
  | ref name ex => rw [render, refNames, List.flatMap_singleton]

end Definition

/-! ### References below a stack of names -/

namespace Registry

variable {reg : Registry} {stack : List String} {name : String}

lemma reference_of_mem (hs : name ∈ stack) : reg.reference stack name = .defer name .cycle := by
  rw [reference, dif_pos hs]

lemma reference_of_unregistered (hs : name ∉ stack) (hd : reg.find? name = none) :
    reg.reference stack name = .defer name .unregistered := by
  rw [reference, dif_neg hs]
  split
  · rfl
  · rename_i d hd'
    rw [hd] at hd'
    cases hd'

lemma reference_of_registered {d : Definition} (hs : name ∉ stack) (hd : reg.find? name = some d) :
    reg.reference stack name = d.render (reg.reference (name :: stack)) := by
  rw [reference, dif_neg hs]
  split
  · rename_i hd'
    rw [hd] at hd'
    cases hd'
  · rename_i d' hd'
    rw [hd] at hd'
    cases hd'
    rfl

/-- Induction along the inlining of a reference: a name on the stack, a name without a definition,
and a name that is inlined, whose references stand below a longer stack. -/
@[elab_as_elim]
theorem referenceInduction (reg : Registry) {motive : List String → String → Prop}
    (cycle : ∀ stack name, name ∈ stack → motive stack name)
    (unregistered : ∀ stack name, name ∉ stack → reg.find? name = none → motive stack name)
    (inlined : ∀ stack name d, name ∉ stack → reg.find? name = some d →
      (∀ n, motive (name :: stack) n) → motive stack name)
    (stack : List String) (name : String) : motive stack name := by
  induction stack, name using reference.induct reg with
  | case1 stack name hs => exact cycle stack name hs
  | case2 stack name hs hd => exact unregistered stack name hs hd
  | case3 stack name hs d hd ih => exact inlined stack name d hs hd ih

end Registry

end SchemaForge
