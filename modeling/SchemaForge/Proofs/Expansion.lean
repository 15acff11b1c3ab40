import SchemaForge.Proofs.DeferredReferences

/-!
# Expansion

`Registry.expand` replaces references by definitions, as far as no name is expanded inside itself.
What a generator writes over a registry is what it writes over no registry for the expansion: the
same text, with the same deferred names in the same order. Only the reasons differ, since a name
that comes back to itself is then one without a definition.
-/

namespace SchemaForge

/-! ### Substitution -/

namespace Definition

mutual

/-- A definition in which the references that `f` knows are replaced. -/
def substitute (f : String → Option Definition) : Definition → Definition
  | leaf l ex => leaf l ex
  | array item size ex => array (substitute f item) size ex
  | object properties required additional ex =>
    object (substituteProperties f properties) required additional ex
  | tuple items ex => tuple (substituteList f items) ex
  | group g members ex => group g (substituteList f members) ex
  | ref name ex => (f name).getD (ref name ex)

def substituteList (f : String → Option Definition) : List Definition → List Definition
  | [] => []
  | d :: rest => substitute f d :: substituteList f rest

def substituteProperties (f : String → Option Definition) :
    List (String × Definition) → List (String × Definition)
  | [] => []
  | (name, d) :: rest => (name, substitute f d) :: substituteProperties f rest

end

variable (f : String → Option Definition) (resolve : String → Rendered)

lemma substituteList_eq_map (ds : List Definition) :
    substituteList f ds = ds.map (substitute f) := by
  induction ds with
  | nil => rfl
  | cons d ds ih => rw [substituteList, ih, List.map_cons]

lemma substituteProperties_eq_map (ps : List (String × Definition)) :
    substituteProperties f ps = ps.map fun p => (p.1, substitute f p.2) := by
  induction ps with
  | nil => rfl
  | cons p ps ih => rw [substituteProperties, ih, List.map_cons]

/-- How references are written after a substitution. -/
def resolveBy (name : String) : Rendered :=
  match f name with
  | some d => d.render resolve
  | none => resolve name

variable {f} in
lemma resolveBy_of_some {name : String} {d : Definition} (h : f name = some d) :
    resolveBy f resolve name = d.render resolve := by
  rw [resolveBy, h]

variable {f} in
lemma resolveBy_of_none {name : String} (h : f name = none) :
    resolveBy f resolve name = resolve name := by
  rw [resolveBy, h]

variable {d : Definition}

lemma isComposite_substitute (h : d.isComposite = true) :
    (d.substitute f).isComposite = true := by
  cases d with
  | leaf _ _ | ref _ _ => cases h
  | array _ _ _ | object _ _ _ _ | tuple _ _ | group _ _ _ =>
    rw [substitute]
    rfl

lemma parts_substitute (h : d.isComposite = true) :
    (d.substitute f).parts = d.parts.map (substitute f) := by
  cases d with
  | leaf _ _ | ref _ _ => cases h
  | array item _ _ =>
    rw [substitute]
    rfl
  | object properties _ _ _ =>
    rw [substitute, parts, parts, substituteProperties_eq_map, List.map_map, List.map_map]
    rfl
  | tuple items _ => rw [substitute, parts, parts, substituteList_eq_map]
  | group _ members _ => rw [substitute, parts, parts, substituteList_eq_map]

/-- A node reads nothing of its parts but their texts and the names of its properties. -/
lemma schemaFrom_substitute (h : d.isComposite = true) (texts : List String) :
    (d.substitute f).schemaFrom texts = d.schemaFrom texts := by
  cases d with
  | leaf _ _ | ref _ _ => cases h
  | array _ _ _ | tuple _ _ | group _ _ _ => rw [substitute, schemaFrom, schemaFrom]
  | object properties _ _ _ =>
    rw [substitute, schemaFrom, schemaFrom, substituteProperties_eq_map, List.zipWith_map_left]

theorem render_substitute (d : Definition) :
    (d.substitute f).render resolve = d.render (resolveBy f resolve) := by
  induction d using partsInduction with
  | leaf l ex => rw [substitute, render, render]
  | composite d h ih =>
    have hparts : (d.substitute f).parts.map (render resolve) =
        d.parts.map (render (resolveBy f resolve)) := by
      rw [parts_substitute f h, List.map_map]
      exact List.map_congr_left ih
    rw [render_of_isComposite _ (isComposite_substitute f h), render_of_isComposite _ h, hparts,
      schemaFrom_substitute f h]
  | ref name ex =>
    rw [substitute, render]
    cases hf : f name with
    | none => rw [Option.getD_none, render, resolveBy_of_none resolve hf]
    | some d => rw [Option.getD_some, resolveBy_of_some resolve hf]

end Definition

/-! ### Renderings without reasons -/

/-- A rendering in which every name is deferred as one without a definition. -/
def Rendered.forget (r : Rendered) : Rendered :=
  { r with deferred := r.deferred.map fun e => ⟨e.name, .unregistered⟩ }

lemma Rendered.forget_ofParts (text : String) (parts : List Rendered) :
    (Rendered.ofParts text parts).forget = Rendered.ofParts text (parts.map forget) := by
  simp only [ofParts, forget, List.map_flatMap, List.flatMap_map]

lemma Rendered.map_text_forget (parts : List Rendered) :
    (parts.map forget).map text = parts.map text := by
  rw [List.map_map]
  rfl

/-- If the reason belongs to the name, deferrals are repeated where their names are. -/
lemma Rendered.map_name_distinct {r : Rendered} (reason : String → DeferReason)
    (h : ∀ e ∈ r.deferred, e.reason = reason e.name) :
    (Text.distinct r.deferred).map Deferral.name = Text.distinct (r.deferred.map Deferral.name) := by
  apply Text.map_distinct
  intro a ha b hb hname
  obtain ⟨name, _⟩ := a
  obtain ⟨_, _⟩ := b
  cases hname
  rw [Deferral.mk.injEq]
  exact ⟨rfl, (h _ ha).trans (h _ hb).symm⟩

lemma Rendered.map_name_distinct_forget {r : Rendered} (reason : String → DeferReason)
    (h : ∀ e ∈ r.deferred, e.reason = reason e.name) :
    (Text.distinct r.forget.deferred).map Deferral.name =
      (Text.distinct r.deferred).map Deferral.name := by
  have hforget : ∀ e ∈ r.forget.deferred, e.reason = .unregistered := by
    intro e he
    obtain ⟨_, -, rfl⟩ := List.mem_map.mp he
    rfl
  rw [map_name_distinct reason h, map_name_distinct (fun _ => .unregistered) hforget, forget,
    List.map_map]
  rfl

theorem Definition.forget_render (resolve : String → Rendered) (d : Definition) :
    (d.render resolve).forget = d.render fun name => (resolve name).forget := by
  induction d using partsInduction with
  | leaf l ex => rw [render, render, Rendered.forget, List.map_nil]
  | composite d h ih =>
    have hparts : (d.parts.map (render resolve)).map Rendered.forget =
        d.parts.map (render fun name => (resolve name).forget) := by
      rw [List.map_map]
      exact List.map_congr_left ih
    rw [render_of_isComposite _ h, render_of_isComposite _ h, Rendered.forget_ofParts, ← hparts,
      Rendered.map_text_forget]
  | ref name ex => rw [render, render]

/-! ### Expansion over a registry -/

namespace Registry

/-- What stands for a reference below the names of `stack`: nothing if it stays, else the
definition of the name with its own references replaced. -/
def inlined? (reg : Registry) (stack : List String) (name : String) : Option Definition :=
  if _hs : name ∈ stack then none
  else
    match _hd : reg.find? name with
    | none => none
    | some d => some (d.substitute fun n => reg.inlined? (name :: stack) n)
termination_by reg.countOutside stack
decreasing_by exact countOutside_cons_lt _hd _hs

/-- Replace every reference to a registered name outside `stack` by the expansion of its definition
below that name. -/
def expand (reg : Registry) (stack : List String) (d : Definition) : Definition :=
  d.substitute (reg.inlined? stack)

variable {reg : Registry} {stack : List String} {name : String}

lemma inlined?_of_mem (hs : name ∈ stack) : reg.inlined? stack name = none := by
  rw [inlined?, dif_pos hs]

lemma inlined?_of_unregistered (hd : reg.find? name = none) : reg.inlined? stack name = none := by
  rw [inlined?]
  split
  · rfl
  · split
    · rfl
    · simp_all

lemma inlined?_of_registered {d : Definition} (hs : name ∉ stack) (hd : reg.find? name = some d) :
    reg.inlined? stack name = some (reg.expand (name :: stack) d) := by
  rw [inlined?, dif_neg hs]
  split
  · simp_all
  · rename_i d' hd'
    rw [hd] at hd'
    cases hd'
    rfl

lemma reference_empty (name : String) : empty.reference [] name = .defer name .unregistered :=
  reference_of_unregistered List.not_mem_nil rfl

/-- Reasons apart, a reference is written as what stands for it, and stays deferred if nothing
does. -/
theorem forget_reference (reg : Registry) (stack : List String) (name : String) :
    (reg.reference stack name).forget =
      Definition.resolveBy (reg.inlined? stack) (empty.reference []) name := by
  induction stack, name using referenceInduction reg with
  | cycle stack name hs =>
    rw [Definition.resolveBy_of_none _ (inlined?_of_mem hs), reference_of_mem hs, reference_empty]
    rfl
  | unregistered stack name hs hd =>
    rw [Definition.resolveBy_of_none _ (inlined?_of_unregistered hd),
      reference_of_unregistered hs hd, reference_empty]
    rfl
  | inlined stack name d hs hd ih =>
    rw [Definition.resolveBy_of_some _ (inlined?_of_registered hs hd),
      reference_of_registered hs hd, Definition.forget_render, expand,
      Definition.render_substitute, funext ih]

theorem forget_render_reference (reg : Registry) (stack : List String) (d : Definition) :
    (d.render (reg.reference stack)).forget = empty.generate (reg.expand stack d) := by
  rw [Definition.forget_render, generate, expand, Definition.render_substitute,
    funext (forget_reference reg stack)]

lemma text_render_reference (reg : Registry) (stack : List String) (d : Definition) :
    (d.render (reg.reference stack)).text = (empty.generate (reg.expand stack d)).text := by
  rw [← forget_render_reference]
  rfl

lemma map_name_distinct_render (hstack : ∀ s ∈ stack, reg.contains s = true) (d : Definition) :
    (Text.distinct (d.render (reg.reference stack)).deferred).map Deferral.name =
      (Text.distinct (empty.generate (reg.expand stack d)).deferred).map Deferral.name := by
  rw [← forget_render_reference]
  symm
  apply Rendered.map_name_distinct_forget fun n => if reg.contains n then .cycle else .unregistered
  intro e he
  rw [Definition.render_deferred] at he
  obtain ⟨name, -, he⟩ := List.mem_flatMap.mp he
  exact reason_of_mem_deferred hstack he

end Registry

namespace Generator

/-- Generation is substitution followed by printing: over a registry and over none, a definition
and its expansion have one text and defer the same names in the same order. A registered name is
generated as its definition, expanded below the name itself. -/
theorem generate_eq_generate_expand (reg : Registry) :
    (∀ d, (generate ⟨reg, [], []⟩ d).1 = (generate ⟨.empty, [], []⟩ (reg.expand [] d)).1 ∧
      (generate ⟨reg, [], []⟩ d).2.deferred.map Deferral.name =
        (generate ⟨.empty, [], []⟩ (reg.expand [] d)).2.deferred.map Deferral.name) ∧
      ∀ name d, reg.find? name = some d →
        (generateNamed ⟨reg, [], []⟩ name).1 =
            some (generate ⟨.empty, [], []⟩ (reg.expand [name] d)).1 ∧
          (generateNamed ⟨reg, [], []⟩ name).2.deferred.map Deferral.name =
            (generate ⟨.empty, [], []⟩ (reg.expand [name] d)).2.deferred.map Deferral.name := by
  constructor
  · intro d
    exact ⟨Registry.text_render_reference reg [] d, Registry.map_name_distinct_render (by simp) d⟩
  · intro name d hd
    have hname : ∀ s ∈ [name], reg.contains s = true := by simp [Registry.contains, hd]
    have hr : reg.generateNamed? name = some (d.render (reg.reference [name])) := by
      rw [Registry.generateNamed?, hd, Option.map_some]
    simp only [generateNamed, hr]
    exact ⟨congrArg some (Registry.text_render_reference reg [name] d),
      Registry.map_name_distinct_render hname d⟩

/-- Two names that refer to each other, of which the second also refers to one without a
definition. -/
theorem generate_eq_generate_expand_of_pair :
    let reg := Registry.ofList
      [("a", .array (.ref "b" []) {} []), ("b", .tuple [.ref "a" [], .ref "lost" []] [])]
    reg.find? "a" = some (.array (.ref "b" []) {} []) ∧
      (generateNamed ⟨reg, [], []⟩ "a").1 =
        some (generate ⟨.empty, [], []⟩ (reg.expand ["a"] (.array (.ref "b" []) {} []))).1 ∧
      (generate ⟨.empty, [], []⟩
        (reg.expand ["a"] (.array (.ref "b" []) {} []))).2.deferred.map Deferral.name =
        ["a", "lost"] := by
  intro reg
  have hfind : reg.find? "a" = some (.array (.ref "b" []) {} []) := rfl
  obtain ⟨htext, hnames⟩ := (generate_eq_generate_expand reg).2 "a" _ hfind
  refine ⟨hfind, htext, ?_⟩
  rw [← hnames]
  decide +kernel

end Generator

end SchemaForge
