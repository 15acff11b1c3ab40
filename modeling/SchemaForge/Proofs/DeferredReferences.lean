import SchemaForge.Proofs.ModuleWriting

/-!
# Deferred references

What is deferred while references are inlined, in terms of the graph of references: a name without
a definition, or a name that reaches itself. For a whole module these are exactly the unresolved
names and the names on cycles.
-/

namespace SchemaForge

namespace Registry

variable {reg : Registry}

/-! ### Below a stack of names -/

/-- A definition defers what the names that it refers to defer. -/
lemma mem_deferred_render_iff {name : String} {d : Definition} (hd : reg.find? name = some d)
    (resolve : String → Rendered) (e : Deferral) :
    e ∈ (d.render resolve).deferred ↔
      ∃ next, reg.Refers name next ∧ e ∈ (resolve next).deferred := by
  simp only [Definition.render_deferred, List.mem_flatMap, refers_iff_of_find? hd,
    Definition.mem_references]

lemma mem_deferred_reference_iff {stack : List String} {name : String} {d : Definition}
    (hs : name ∉ stack) (hd : reg.find? name = some d) (e : Deferral) :
    e ∈ (reg.reference stack name).deferred ↔
      ∃ next, reg.Refers name next ∧ e ∈ (reg.reference (name :: stack) next).deferred := by
  rw [reference_of_registered hs hd, mem_deferred_render_iff hd]

/-- Whether a name is registered decides for which reason it is deferred. -/
lemma reason_of_mem_deferred {stack : List String} {name : String} {e : Deferral}
    (hstack : ∀ s ∈ stack, reg.contains s = true)
    (he : e ∈ (reg.reference stack name).deferred) :
    e.reason = if reg.contains e.name then .cycle else .unregistered := by
  induction stack, name using referenceInduction reg with
  | cycle stack name hs =>
    rw [reference_of_mem hs] at he
    cases List.mem_singleton.mp he
    rw [if_pos (hstack name hs)]
  | unregistered stack name hs hd =>
    rw [reference_of_unregistered hs hd] at he
    cases List.mem_singleton.mp he
    simp [contains, hd]
  | inlined stack name d hs hd ih =>
    obtain ⟨next, -, he⟩ := (mem_deferred_reference_iff hs hd e).mp he
    apply ih next _ he
    rw [List.forall_mem_cons]
    exact ⟨by simp [contains, hd], hstack⟩

/-- If every name on the stack reaches the reference, a name that is deferred as a cycle reaches
itself. -/
lemma transGen_of_mem_deferred {stack : List String} {name : String} {e : Deferral}
    (hstack : ∀ s ∈ stack, Relation.TransGen reg.Refers s name)
    (he : e ∈ (reg.reference stack name).deferred) (hreason : e.reason = .cycle) :
    Relation.TransGen reg.Refers e.name e.name := by
  induction stack, name using referenceInduction reg with
  | cycle stack name hs =>
    rw [reference_of_mem hs] at he
    cases List.mem_singleton.mp he
    exact hstack name hs
  | unregistered stack name hs hd =>
    rw [reference_of_unregistered hs hd] at he
    cases List.mem_singleton.mp he
    cases hreason
  | inlined stack name d hs hd ih =>
    obtain ⟨next, hnext, he⟩ := (mem_deferred_reference_iff hs hd e).mp he
    apply ih next _ he
    rw [List.forall_mem_cons]
    exact ⟨Relation.TransGen.single hnext, fun s hmem => (hstack s hmem).tail hnext⟩

/-- What is deferred is the reference itself or a name that some definition refers to. -/
lemma refers_of_mem_deferred {stack : List String} {name : String} {e : Deferral}
    (hname : ∃ a, reg.Refers a name) (he : e ∈ (reg.reference stack name).deferred) :
    ∃ a, reg.Refers a e.name := by
  induction stack, name using referenceInduction reg with
  | cycle stack name hs =>
    rw [reference_of_mem hs] at he
    cases List.mem_singleton.mp he
    exact hname
  | unregistered stack name hs hd =>
    rw [reference_of_unregistered hs hd] at he
    cases List.mem_singleton.mp he
    exact hname
  | inlined stack name d hs hd ih =>
    obtain ⟨next, hnext, he⟩ := (mem_deferred_reference_iff hs hd e).mp he
    exact ih next ⟨name, hnext⟩ he

/-- Inlining follows every way that visits no name twice, up to a name on the stack. -/
lemma cycle_mem_deferred {l stack : List String} {name target : String} (ht : target ∈ stack)
    (hnodup : (name :: l).Nodup) (hchain : (name :: l).IsChain reg.Refers)
    (hlast : (name :: l).getLast? = some target)
    (hfree : ∀ x ∈ name :: l, x ∈ stack → x = target) :
    ⟨target, .cycle⟩ ∈ (reg.reference stack name).deferred := by
  induction l generalizing name stack with
  | nil =>
    obtain rfl : name = target := Option.some.inj hlast
    rw [reference_of_mem ht]
    exact List.mem_singleton.mpr rfl
  | cons next l ih =>
    obtain ⟨hname, hnodup'⟩ := List.nodup_cons.mp hnodup
    obtain ⟨hrefers, hchain'⟩ := List.isChain_cons_cons.mp hchain
    rw [List.getLast?_cons_cons] at hlast
    have hne : name ≠ target := by
      rintro rfl
      exact hname (List.mem_of_getLast? hlast)
    have hs : name ∉ stack := fun hs => hne (hfree name List.mem_cons_self hs)
    have ⟨d, hd, _⟩ := hrefers
    refine (mem_deferred_reference_iff hs hd _).mpr ⟨next, hrefers, ?_⟩
    apply ih (List.mem_cons_of_mem name ht) hnodup' hchain' hlast
    intro x hx hmem
    rcases List.mem_cons.mp hmem with rfl | hmem
    · exact absurd hx hname
    · exact hfree x (List.mem_cons_of_mem name hx) hmem

end Registry

namespace Module

open Relation (TransGen)

variable {reg : Registry} {options : ModuleOptions} {m : Module}

/-! ### Below the names of a module -/

lemma mem_deferred_assemble (e : Deferral) :
    e ∈ (assemble options reg).deferred ↔
      ∃ name next, reg.Refers name next ∧ e ∈ (reg.reference [name] next).deferred := by
  have hnamed : e ∈ (assemble options reg).deferred ↔
      ∃ name r, reg.generateNamed? name = some r ∧ e ∈ r.deferred := by
    simp [assemble, mem_expressions]
  rw [hnamed]
  constructor
  · rintro ⟨name, r, hr, he⟩
    obtain ⟨d, hd, rfl⟩ := Option.map_eq_some_iff.mp hr
    exact ⟨name, (Registry.mem_deferred_render_iff hd _ e).mp he⟩
  · rintro ⟨name, next, ⟨d, hd, hnext⟩, he⟩
    refine ⟨name, d.render (reg.reference [name]), by simp [Registry.generateNamed?, hd], ?_⟩
    exact (Registry.mem_deferred_render_iff hd _ e).mpr ⟨next, ⟨d, hd, hnext⟩, he⟩

lemma reason_of_mem_deferred_assemble {e : Deferral} (he : e ∈ (assemble options reg).deferred) :
    e.reason = if reg.contains e.name then .cycle else .unregistered := by
  obtain ⟨name, next, ⟨d, hd, -⟩, he⟩ := (mem_deferred_assemble e).mp he
  apply Registry.reason_of_mem_deferred _ he
  simp [Registry.contains, hd]

lemma unregistered_mem_deferred_assemble (name : String) :
    ⟨name, .unregistered⟩ ∈ (assemble options reg).deferred ↔ name ∈ reg.unresolved := by
  rw [Registry.mem_unresolved_iff]
  constructor
  · intro he
    have hreason := reason_of_mem_deferred_assemble he
    obtain ⟨top, next, hrefers, he⟩ := (mem_deferred_assemble _).mp he
    constructor
    · cases hd : reg.find? name with
      | none => rfl
      | some d => simp [Registry.contains, hd] at hreason
    · exact Registry.refers_of_mem_deferred ⟨top, hrefers⟩ he
  · rintro ⟨hd, top, hrefers⟩
    refine (mem_deferred_assemble _).mpr ⟨top, name, hrefers, ?_⟩
    have hne : name ∉ [top] := by
      intro hmem
      cases List.mem_singleton.mp hmem
      exact Registry.not_refers_of_find? hd _ hrefers
    rw [Registry.reference_of_unregistered hne hd]
    exact List.mem_singleton.mpr rfl

lemma cycle_mem_deferred_assemble (name : String) :
    ⟨name, .cycle⟩ ∈ (assemble options reg).deferred ↔ TransGen reg.Refers name name := by
  constructor
  · intro he
    obtain ⟨top, next, hrefers, he⟩ := (mem_deferred_assemble _).mp he
    apply Registry.transGen_of_mem_deferred _ he rfl
    intro s hs
    cases List.mem_singleton.mp hs
    exact TransGen.single hrefers
  · intro h
    -- The first step of a shortest way back is written right below the name itself.
    obtain ⟨next, hrefers, hback⟩ := TransGen.head'_iff.mp h
    obtain ⟨l, hnodup, hchain, hlast⟩ := Registry.exists_nodup_chain hback
    refine (mem_deferred_assemble _).mpr ⟨name, next, hrefers, ?_⟩
    apply Registry.cycle_mem_deferred List.mem_cons_self hnodup hchain hlast
    intro x _ hx
    exact List.mem_singleton.mp hx

/-- What a module defers: the names without a definition, which it reports as unresolved, and the
registered names that reach themselves, each once. So it defers a cycle exactly when a search
through the registry finds one. -/
theorem generate_deferred_iff (h : generate options reg = .ok m) :
    (∀ name, ⟨name, .unregistered⟩ ∈ m.deferred ↔ name ∈ m.unresolved) ∧
      (∀ name, ⟨name, .cycle⟩ ∈ m.deferred ↔
        reg.contains name = true ∧ TransGen reg.Refers name name) ∧
      m.deferred.Nodup ∧
      ((∃ name, ⟨name, .cycle⟩ ∈ m.deferred) ↔ reg.findCycle.isSome = true) := by
  obtain ⟨-, rfl⟩ := generate_eq_ok_iff.mp h
  refine ⟨unregistered_mem_deferred_assemble, ?_, Text.nodup_distinct _, ?_⟩
  · intro name
    rw [cycle_mem_deferred_assemble]
    exact ⟨fun h => ⟨Registry.contains_of_transGen h, h⟩, And.right⟩
  · rw [Registry.findCycle_isSome_iff]
    exact exists_congr cycle_mem_deferred_assemble

/-- Two overlapping cycles, one of which is only met below an inlined name, and a name without a
definition. -/
theorem generate_deferred_of_overlapping_cycles :
    let reg := Registry.ofList
      [("a", .tuple [.ref "b" [], .ref "lost" []] []), ("b", .tuple [.ref "c" [], .ref "a" []] []),
        ("c", .array (.ref "b" []) {} [])]
    ∃ m, generate {} reg = .ok m ∧ ⟨"lost", .unregistered⟩ ∈ m.deferred ∧
      ⟨"c", .cycle⟩ ∈ m.deferred ∧ reg.findCycle.isSome = true := by
  intro reg
  have hok : generate {} reg = .ok (assemble {} reg) := generate_eq_ok_iff.mpr ⟨by decide, rfl⟩
  obtain ⟨hunregistered, hcycle, -, hfound⟩ := generate_deferred_iff hok
  have hback : TransGen reg.Refers "c" "c" :=
    TransGen.head (b := "b") ⟨_, rfl, by decide⟩ (TransGen.single ⟨_, rfl, by decide⟩)
  have hc : ⟨"c", .cycle⟩ ∈ (assemble {} reg).deferred := (hcycle "c").mpr ⟨by decide, hback⟩
  exact ⟨_, hok, (hunregistered "lost").mpr (by decide), hc, hfound.mp ⟨"c", hc⟩⟩

end Module

end SchemaForge
