import SchemaForge.Proofs.ModuleWriting

/-!
# Independence of examples

Examples are documentation. Everything that is computed from a definition or from a registry is
computed alike when all examples are removed, so nothing depends on which examples were there.
-/

namespace SchemaForge

/-! ### Definitions -/

namespace Definition

mutual

/-- A definition with the examples of every node removed. -/
def withoutExamples : Definition → Definition
  | leaf l _ => leaf l []
  | array item size _ => array (withoutExamples item) size []
  | object properties required additional _ =>
    object (propertiesWithoutExamples properties) required additional []
  | tuple items _ => tuple (listWithoutExamples items) []
  | group g members _ => group g (listWithoutExamples members) []
  | ref name _ => ref name []

def listWithoutExamples : List Definition → List Definition
  | [] => []
  | d :: rest => withoutExamples d :: listWithoutExamples rest

def propertiesWithoutExamples : List (String × Definition) → List (String × Definition)
  | [] => []
  | (name, d) :: rest => (name, withoutExamples d) :: propertiesWithoutExamples rest

end

lemma listWithoutExamples_eq_map (ds : List Definition) :
    listWithoutExamples ds = ds.map withoutExamples := by
  induction ds with
  | nil => rfl
  | cons d ds ih => rw [listWithoutExamples, ih, List.map_cons]

lemma propertiesWithoutExamples_eq_map (ps : List (String × Definition)) :
    propertiesWithoutExamples ps = ps.map fun p => (p.1, withoutExamples p.2) := by
  induction ps with
  | nil => rfl
  | cons p ps ih => rw [propertiesWithoutExamples, ih, List.map_cons]

variable {d : Definition}

lemma isComposite_withoutExamples (h : d.isComposite = true) :
    d.withoutExamples.isComposite = true := by
  cases d with
  | leaf _ _ | ref _ _ => cases h
  | array _ _ _ | object _ _ _ _ | tuple _ _ | group _ _ _ =>
    rw [withoutExamples]
    rfl

lemma parts_withoutExamples (h : d.isComposite = true) :
    d.withoutExamples.parts = d.parts.map withoutExamples := by
  cases d with
  | leaf _ _ | ref _ _ => cases h
  | array item _ _ =>
    rw [withoutExamples]
    rfl
  | object properties _ _ _ =>
    rw [withoutExamples, parts, parts, propertiesWithoutExamples_eq_map, List.map_map,
      List.map_map]
    rfl
  | tuple items _ => rw [withoutExamples, parts, parts, listWithoutExamples_eq_map]
  | group _ members _ => rw [withoutExamples, parts, parts, listWithoutExamples_eq_map]

lemma schemaFrom_withoutExamples (h : d.isComposite = true) (texts : List String) :
    d.withoutExamples.schemaFrom texts = d.schemaFrom texts := by
  cases d with
  | leaf _ _ | ref _ _ => cases h
  | array _ _ _ | tuple _ _ | group _ _ _ => rw [withoutExamples, schemaFrom, schemaFrom]
  | object properties _ _ _ =>
    rw [withoutExamples, schemaFrom, schemaFrom, propertiesWithoutExamples_eq_map,
      List.zipWith_map_left]

theorem render_withoutExamples (resolve : String → Rendered) (d : Definition) :
    d.withoutExamples.render resolve = d.render resolve := by
  induction d using partsInduction with
  | leaf l ex =>
    rw [withoutExamples, render, render]
    rfl
  | composite d h ih =>
    have hparts : d.withoutExamples.parts.map (render resolve) = d.parts.map (render resolve) := by
      rw [parts_withoutExamples h, List.map_map]
      exact List.map_congr_left ih
    rw [render_of_isComposite _ (isComposite_withoutExamples h), render_of_isComposite _ h,
      hparts, schemaFrom_withoutExamples h]
  | ref name ex => rw [withoutExamples, render, render]

lemma refNames_withoutExamples (d : Definition) : d.withoutExamples.refNames = d.refNames := by
  induction d using partsInduction with
  | leaf l ex => rw [withoutExamples, refNames, refNames]
  | composite d h ih =>
    rw [refNames_of_isComposite (isComposite_withoutExamples h), refNames_of_isComposite h,
      parts_withoutExamples h, List.flatMap_map]
    exact List.flatMap_congr ih
  | ref name ex => rw [withoutExamples, refNames, refNames]

lemma leaves_withoutExamples (d : Definition) : d.withoutExamples.leaves = d.leaves := by
  induction d using partsInduction with
  | leaf l ex => rw [withoutExamples, leaves, leaves]
  | composite d h ih =>
    rw [leaves_of_isComposite (isComposite_withoutExamples h), leaves_of_isComposite h,
      parts_withoutExamples h, List.flatMap_map]
    exact List.flatMap_congr ih
  | ref name ex => rw [withoutExamples, leaves, leaves]

lemma references_withoutExamples (d : Definition) :
    d.withoutExamples.references = d.references := by
  rw [references_eq_distinct, references_eq_distinct, refNames_withoutExamples]

end Definition

/-! ### Registries -/

namespace Entries

variable {α β : Type}

lemma get?_map (f : α → β) (name : String) (xs : Entries α) :
    get? name (xs.map fun x => (x.1, f x.2)) = (get? name xs).map f := by
  induction xs with
  | nil => rfl
  | cons x xs ih =>
    obtain ⟨key, v⟩ := x
    by_cases hk : key = name
    · simp [get?, hk]
    · simpa [get?, hk] using ih

lemma keys_map (f : α → β) (xs : Entries α) : keys (xs.map fun x => (x.1, f x.2)) = keys xs := by
  unfold keys
  rw [List.map_map]
  rfl

end Entries

namespace Registry

/-- A registry with the examples of all definitions removed. -/
def withoutExamples (reg : Registry) : Registry where
  entries := reg.entries.map fun x => (x.1, x.2.withoutExamples)
  nodup := by
    rw [Entries.keys_map]
    exact reg.nodup

variable (reg : Registry)

lemma find?_withoutExamples (name : String) :
    reg.withoutExamples.find? name = (reg.find? name).map Definition.withoutExamples :=
  Entries.get?_map _ name reg.entries

lemma names_withoutExamples : reg.withoutExamples.names = reg.names :=
  Entries.keys_map _ reg.entries

theorem reference_withoutExamples (stack : List String) (name : String) :
    reg.withoutExamples.reference stack name = reg.reference stack name := by
  induction stack, name using referenceInduction reg with
  | cycle stack name hs => rw [reference_of_mem hs, reference_of_mem hs]
  | unregistered stack name hs hd =>
    have hd' : reg.withoutExamples.find? name = none := by
      rw [find?_withoutExamples, hd, Option.map_none]
    rw [reference_of_unregistered hs hd, reference_of_unregistered hs hd']
  | inlined stack name d hs hd ih =>
    have hd' : reg.withoutExamples.find? name = some d.withoutExamples := by
      rw [find?_withoutExamples, hd, Option.map_some]
    rw [reference_of_registered hs hd, reference_of_registered hs hd',
      Definition.render_withoutExamples, funext ih]

lemma generate_withoutExamples (d : Definition) :
    reg.withoutExamples.generate d.withoutExamples = reg.generate d := by
  rw [generate, generate, Definition.render_withoutExamples,
    funext (reference_withoutExamples reg [])]

lemma generateNamed?_withoutExamples (name : String) :
    reg.withoutExamples.generateNamed? name = reg.generateNamed? name := by
  rw [generateNamed?, generateNamed?, find?_withoutExamples, Option.map_map]
  apply congrArg (fun f => (reg.find? name).map f)
  funext d
  rw [Function.comp_apply, Definition.render_withoutExamples,
    funext (reference_withoutExamples reg [name])]

lemma unresolved_withoutExamples : reg.withoutExamples.unresolved = reg.unresolved := by
  have hcontains : reg.withoutExamples.contains = reg.contains := by
    funext name
    rw [contains, contains, find?_withoutExamples, Option.isSome_map]
  unfold unresolved
  rw [hcontains, withoutExamples, List.foldl_map]
  simp only [Definition.references_withoutExamples]

theorem search_withoutExamples (path : List String) (name : String) (visited : List String) :
    reg.withoutExamples.search path name visited = reg.search path name visited := by
  induction path, name, visited using search.induct reg with
  | case1 path name visited hp => rw [search, dif_pos hp, search, dif_pos hp]
  | case2 path name visited hp hv =>
    rw [search, dif_neg hp, if_pos hv, search, dif_neg hp, if_pos hv]
  | case3 path name visited hp hv hd =>
    have hd' : reg.withoutExamples.find? name = none := by
      rw [find?_withoutExamples, hd, Option.map_none]
    rw [search_of_unregistered hp hv hd, search_of_unregistered hp hv hd']
  | case4 path name visited hp hv d hd ih =>
    have hd' : reg.withoutExamples.find? name = some d.withoutExamples := by
      rw [find?_withoutExamples, hd, Option.map_some]
    have hstep : (fun seen next => reg.withoutExamples.search (name :: path) next seen) =
        fun seen next => reg.search (name :: path) next seen := by
      funext seen next
      exact ih seen next
    rw [search_of_registered hp hv hd, search_of_registered hp hv hd', hstep,
      Definition.references_withoutExamples]

lemma findCycle_withoutExamples : reg.withoutExamples.findCycle = reg.findCycle := by
  unfold findCycle
  rw [names_withoutExamples]
  simp only [search_withoutExamples]

end Registry

/-! ### Modules -/

namespace Module

lemma generate_withoutExamples (options : ModuleOptions) (reg : Registry) :
    generate options reg.withoutExamples = generate options reg := by
  have hexpressions : expressions reg.withoutExamples = expressions reg := by
    unfold expressions
    rw [Registry.names_withoutExamples]
    simp only [Registry.generateNamed?_withoutExamples]
  have hassemble : assemble options reg.withoutExamples = assemble options reg := by
    unfold assemble
    rw [hexpressions, Registry.unresolved_withoutExamples]
  rw [generate_eq, generate_eq, Registry.names_withoutExamples, hassemble]

end Module

/-- Examples affect nothing but themselves. Two definitions over two registries that are equal
once the examples of all nodes are removed have the same text, deferred references, referenced
names and refinements, and the registries have the same unresolved names, the same cycle and the
same module or clash. -/
theorem outputs_eq_of_withoutExamples_eq {reg other : Registry} {d e : Definition}
    (hreg : reg.withoutExamples = other.withoutExamples)
    (hd : d.withoutExamples = e.withoutExamples) :
    (Generator.generate ⟨reg, [], []⟩ d).1 = (Generator.generate ⟨other, [], []⟩ e).1 ∧
      (Generator.generate ⟨reg, [], []⟩ d).2.deferred =
        (Generator.generate ⟨other, [], []⟩ e).2.deferred ∧
      (∀ name, reg.generateNamed? name = other.generateNamed? name) ∧
      d.references = e.references ∧
      d.leaves.map Refinement.ofLeaf = e.leaves.map Refinement.ofLeaf ∧
      reg.unresolved = other.unresolved ∧
      reg.findCycle = other.findCycle ∧
      ∀ options, Module.generate options reg = Module.generate options other := by
  have hrendered : reg.generate d = other.generate e := by
    rw [← Registry.generate_withoutExamples reg, hreg, hd, Registry.generate_withoutExamples]
  refine ⟨?_, ?_, ?_, ?_, ?_, ?_, ?_, ?_⟩
  · rw [Generator.generate, Generator.generate, hrendered]
  · simp only [Generator.generate, Generator.record, hrendered]
  · intro name
    rw [← Registry.generateNamed?_withoutExamples reg, hreg,
      Registry.generateNamed?_withoutExamples]
  · rw [← Definition.references_withoutExamples, hd, Definition.references_withoutExamples]
  · rw [← Definition.leaves_withoutExamples, hd, Definition.leaves_withoutExamples]
  · rw [← Registry.unresolved_withoutExamples, hreg, Registry.unresolved_withoutExamples]
  · rw [← Registry.findCycle_withoutExamples, hreg, Registry.findCycle_withoutExamples]
  · intro options
    rw [← Module.generate_withoutExamples, hreg, Module.generate_withoutExamples]

/-- A name on a cycle with a filtered part, where the examples of every node differ. -/
theorem outputs_eq_of_withoutExamples_eq_on_cycle :
    let email := Leaf.email ⟨.deny, ["example.org"]⟩
    let reg := Registry.ofList [("a", .tuple [.ref "a" [.null], .leaf email [.bool true]] [])]
    let other := Registry.ofList [("a", .tuple [.ref "a" [], .leaf email []] [.int 1, .null])]
    let d := Definition.array (.ref "a" [.str "x"]) {} []
    let e := Definition.array (.ref "a" []) {} [.arr []]
    reg.withoutExamples = other.withoutExamples ∧ d.withoutExamples = e.withoutExamples ∧
      (Generator.generate ⟨reg, [], []⟩ d).1 = (Generator.generate ⟨other, [], []⟩ e).1 ∧
      Module.generate {} reg = Module.generate {} other := by
  intro email reg other d e
  have hreg : reg.withoutExamples = other.withoutExamples := rfl
  have hd : d.withoutExamples = e.withoutExamples := rfl
  obtain ⟨htext, -, -, -, -, -, -, hmodule⟩ := outputs_eq_of_withoutExamples_eq hreg hd
  exact ⟨hreg, hd, htext, hmodule {}⟩

end SchemaForge
