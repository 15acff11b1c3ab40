import SchemaForge.Definition.Builder
import SchemaForge.Proofs.Assignments
import SchemaForge.Proofs.CompositeReading

/-!
# Objects built step by step

A run of builder steps assigns definitions to names and collects the names that have to be there in
a list of its own. Main statement: the properties are those of the assignments, and a property is
optional exactly when no step of the run requires its name. A later step that makes the property
optional does not take its name from the list.
-/

namespace SchemaForge.ObjectRules

/-- One step of a builder. -/
inductive Step where
  | required (name : String) (d : Definition)
  | optional (name : String) (d : Definition)
  | additional (allowed : Bool)

namespace Step

def apply (o : ObjectRules) : Step → ObjectRules
  | required name d => o.withRequired name d
  | optional name d => o.withOptional name d
  | additional allowed => o.withAdditional allowed

/-- The property that a step names, with its definition. -/
def assignment? : Step → Option (String × Definition)
  | required name d => some (name, d)
  | optional name d => some (name, d)
  | additional _ => none

def name? (s : Step) : Option String := s.assignment?.map Prod.fst

def definition? (s : Step) : Option Definition := s.assignment?.map Prod.snd

/-- The name that a step requires. -/
def requiredName? : Step → Option String
  | required name _ => some name
  | _ => none

def allowed? : Step → Option Bool
  | additional allowed => some allowed
  | _ => none

end Step

/-- The object after a run of steps. -/
def build (steps : List Step) : ObjectRules := steps.foldl Step.apply {}

/-- The last step that names a property. -/
def lastNaming? (name : String) (steps : List Step) : Option Step :=
  steps.reverse.find? fun s => s.name? = some name

lemma build_concat (steps : List Step) (s : Step) :
    build (steps ++ [s]) = s.apply (build steps) := by
  rw [build, List.foldl_append]
  rfl

lemma properties_build (steps : List Step) :
    (build steps).properties = Entries.ofList (steps.filterMap Step.assignment?) := by
  induction steps using List.reverseRecOn with
  | nil => rfl
  | append_singleton steps s ih =>
    rw [build_concat, List.filterMap_append]
    cases s with
    | required name d => exact (congrArg _ ih).trans (Entries.ofList_concat _ (name, d)).symm
    | optional name d => exact (congrArg _ ih).trans (Entries.ofList_concat _ (name, d)).symm
    | additional allowed => exact ih.trans (congrArg _ (List.append_nil _).symm)

/-- Steps only ever add to the names that have to be there. -/
lemma required_build (steps : List Step) :
    (build steps).required = steps.filterMap Step.requiredName? := by
  induction steps using List.reverseRecOn with
  | nil => rfl
  | append_singleton steps s ih =>
    rw [build_concat, List.filterMap_append, ← ih]
    cases s with
    | required name d => rfl
    | optional name d => exact (List.append_nil _).symm
    | additional allowed => exact (List.append_nil _).symm

lemma additional_build (steps : List Step) :
    (build steps).additional = (steps.filterMap Step.allowed?).getLast? := by
  induction steps using List.reverseRecOn with
  | nil => rfl
  | append_singleton steps s ih =>
    rw [build_concat, List.filterMap_append]
    cases s with
    | required name d => exact ih.trans (congrArg _ (List.append_nil _).symm)
    | optional name d => exact ih.trans (congrArg _ (List.append_nil _).symm)
    | additional allowed => exact List.getLast?_concat.symm

lemma map_fst_assignments (steps : List Step) :
    (steps.filterMap Step.assignment?).map Prod.fst = steps.filterMap Step.name? := by
  rw [List.map_filterMap]
  rfl

lemma get?_properties_build (steps : List Step) (name : String) :
    (build steps).properties.get? name = (lastNaming? name steps).bind Step.definition? := by
  have hnames : ∀ s : Step, (s.assignment?.any fun x => x.1 = name) = (s.name? = some name : Bool) := by
    intro s
    rw [Step.name?]
    cases s.assignment? <;> simp
  rw [properties_build, Entries.get?_ofList, ← List.filterMap_reverse, List.find?_filterMap,
    lastNaming?, funext hnames, Option.map_bind]
  rfl

/-- What a run of steps builds. Every name that a step names stands once, in the order of the first
steps that name them, with the definition of the last such step. The generated property is optional
exactly when no step requires its name, whichever step came last. Whether further keys pass is what
the last step about them said. -/
theorem build_keeps_required (steps : List Step) :
    (∀ name, name ∈ (build steps).properties.keys ↔ name ∈ steps.filterMap Step.name?) ∧
    ((build steps).properties.keys.Pairwise fun a b =>
      (steps.filterMap Step.name?).idxOf a < (steps.filterMap Step.name?).idxOf b) ∧
    (∀ name, (build steps).properties.get? name =
      (lastNaming? name steps).bind Step.definition?) ∧
    (∀ g : Generator, (g.generate (build steps).toDefinition).1 =
      Schema.object
        ((build steps).properties.map fun p =>
          ⟨p.1, (g.generate p.2).1, (steps.filterMap Step.requiredName?).contains p.1⟩)
        (steps.filterMap Step.allowed?).getLast?) := by
  have hkeys : (build steps).properties.keys = Text.distinct (steps.filterMap Step.name?) := by
    rw [properties_build, Entries.keys_ofList, map_fst_assignments]
  refine ⟨?_, ?_, get?_properties_build steps, ?_⟩
  · intro name
    rw [hkeys, Text.mem_distinct]
  · rw [hkeys]
    exact Text.pairwise_idxOf_distinct _
  · intro g
    rw [toDefinition, Generator.generate_object, Generator.fields, required_build, additional_build]

/-- A property that the last step makes optional, although an earlier one required it. -/
theorem build_of_required_then_optional :
    let steps : List Step := [.required "a" .anyString, .optional "a" .anyNumber]
    lastNaming? "a" steps = some (.optional "a" .anyNumber) ∧
      (Generator.generate ⟨Registry.empty, [], []⟩ (build steps).toDefinition).1 =
        "z.object(\x7b\n  \"a\": z.number()\n\x7d)" :=
  ⟨rfl, by decide +kernel⟩

end SchemaForge.ObjectRules
