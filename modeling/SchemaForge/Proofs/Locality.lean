import SchemaForge.Proofs.ReferenceGraph

/-!
# Locality of generation

What is generated for a definition depends on the names that can be reached from it and on nothing
else in the registry: neither on other definitions nor on the order of registration.
-/

namespace SchemaForge

namespace Entries

variable {α : Type}

lemma get?_insert (name k : String) (value : α) (xs : Entries α) :
    get? k (insert name value xs) = if k = name then some value else get? k xs := by
  induction xs with
  | nil =>
    by_cases hk : k = name
    · simp [insert, get?, hk]
    · have hne : name ≠ k := fun h => hk h.symm
      simp [insert, get?, hk, hne]
  | cons x xs ih =>
    obtain ⟨key, v⟩ := x
    by_cases hkey : key = name
    · rw [insert, if_pos hkey, get?, get?]
      by_cases hk : k = name
      · rw [if_pos (hkey.trans hk.symm), if_pos hk]
      · have hne : key ≠ k := fun h => hk (h.symm.trans hkey)
        rw [if_neg hne, if_neg hk, if_neg hne]
    · rw [insert, if_neg hkey, get?, get?, ih]
      by_cases hk : key = k
      · have hne : k ≠ name := fun h => hkey (hk.trans h)
        rw [if_pos hk, if_neg hne, if_pos hk]
      · rw [if_neg hk, if_neg hk]

end Entries

/-- Only the references of a definition are looked up when it is rendered. -/
theorem Definition.render_congr {f g : String → Rendered} {d : Definition}
    (h : ∀ name ∈ d.refNames, f name = g name) : d.render f = d.render g := by
  induction d using partsInduction with
  | leaf l ex => rw [render, render]
  | composite d hd ih =>
    have hparts : d.parts.map (render f) = d.parts.map (render g) := by
      apply List.map_congr_left
      intro p hp
      apply ih p hp
      intro name hname
      apply h name
      rw [refNames_of_isComposite hd]
      exact List.mem_flatMap.mpr ⟨p, hp, hname⟩
    rw [render_of_isComposite f hd, render_of_isComposite g hd, hparts]
  | ref name ex =>
    rw [render, render]
    exact h name (by simp [refNames])

namespace Registry

variable {reg other : Registry}

/-- The names that a definition refers to, and those that the definitions of such names refer to. -/
inductive Reaches (reg : Registry) (d : Definition) : String → Prop where
  | here {name : String} (h : name ∈ d.references) : Reaches reg d name
  | further {name next : String} (h : Reaches reg d name) (hnext : reg.Refers name next) :
      Reaches reg d next

lemma Reaches.of_refers {name next : String} {d e : Definition} (hd : reg.find? name = some d)
    (he : name ∈ e.references) (h : reg.Reaches d next) : reg.Reaches e next := by
  induction h with
  | here hnext => exact .further (.here he) ⟨d, hd, hnext⟩
  | further _ hnext ih => exact .further ih hnext

/-- Two registries that agree on a name and on all that can be reached from it write a reference to
it alike, below any stack. The induction is along the inlining over the first registry, and what
can be reached only gets less on the way. -/
theorem reference_congr (stack : List String) (name : String)
    (hname : reg.find? name = other.find? name)
    (hbelow : ∀ d, reg.find? name = some d → ∀ n, reg.Reaches d n → reg.find? n = other.find? n) :
    reg.reference stack name = other.reference stack name := by
  induction stack, name using referenceInduction reg with
  | cycle stack name hs => rw [reference_of_mem hs, reference_of_mem hs]
  | unregistered stack name hs hd =>
    rw [reference_of_unregistered hs hd, reference_of_unregistered hs (hname ▸ hd)]
  | inlined stack name d hs hd ih =>
    rw [reference_of_registered hs hd, reference_of_registered hs (hname ▸ hd)]
    apply Definition.render_congr
    intro next hnext
    have hmem : next ∈ d.references := (Definition.mem_references d next).mpr hnext
    apply ih next
    · exact hbelow d hd next (.here hmem)
    · intro e he n hn
      exact hbelow d hd n (hn.of_refers he hmem)

theorem generate_congr {d : Definition}
    (h : ∀ name, reg.Reaches d name → reg.find? name = other.find? name) :
    reg.generate d = other.generate d := by
  unfold generate
  apply Definition.render_congr
  intro name hname
  have hmem : name ∈ d.references := (Definition.mem_references d name).mpr hname
  apply reference_congr
  · exact h name (.here hmem)
  · intro e he n hn
    exact h n (hn.of_refers he hmem)

lemma find?_eq_of_perm (h : reg.entries.Perm other.entries) (name : String) :
    reg.find? name = other.find? name := by
  apply Option.ext
  intro d
  rw [← mem_entries_iff, ← mem_entries_iff, h.mem_iff]

lemma find?_register_of_ne {name k : String} (d : Definition) (h : k ≠ name) :
    (reg.register name d).find? k = reg.find? k := by
  rw [find?, register, Entries.get?_insert, if_neg h]
  rfl

end Registry

namespace Generator

/-- Generation is local. Registries that resolve every name that can be reached from a definition
to the same result give it the same text and the same deferred references. So the order of the
entries does not matter, nor does a definition that is registered under a name out of reach. -/
theorem generate_eq_of_reaches :
    (∀ (reg other : Registry) (d : Definition),
      (∀ name, reg.Reaches d name → reg.find? name = other.find? name) →
        (generate ⟨reg, [], []⟩ d).1 = (generate ⟨other, [], []⟩ d).1 ∧
          (generate ⟨reg, [], []⟩ d).2.deferred = (generate ⟨other, [], []⟩ d).2.deferred) ∧
      (∀ (reg other : Registry) (d : Definition), reg.entries.Perm other.entries →
        (generate ⟨reg, [], []⟩ d).1 = (generate ⟨other, [], []⟩ d).1 ∧
          (generate ⟨reg, [], []⟩ d).2.deferred = (generate ⟨other, [], []⟩ d).2.deferred) ∧
      ∀ (reg : Registry) (name : String) (e d : Definition), ¬reg.Reaches d name →
        (generate ⟨reg.register name e, [], []⟩ d).1 = (generate ⟨reg, [], []⟩ d).1 ∧
          (generate ⟨reg.register name e, [], []⟩ d).2.deferred =
            (generate ⟨reg, [], []⟩ d).2.deferred := by
  have hlocal : ∀ (reg other : Registry) (d : Definition),
      (∀ name, reg.Reaches d name → reg.find? name = other.find? name) →
        (generate ⟨reg, [], []⟩ d).1 = (generate ⟨other, [], []⟩ d).1 ∧
          (generate ⟨reg, [], []⟩ d).2.deferred = (generate ⟨other, [], []⟩ d).2.deferred := by
    intro reg other d h
    simp only [generate, record, Registry.generate_congr h, and_self]
  refine ⟨hlocal, ?_, ?_⟩
  · intro reg other d hperm
    exact hlocal reg other d fun name _ => Registry.find?_eq_of_perm hperm name
  · intro reg name e d hname
    have hne : ∀ n, reg.Reaches d n → n ≠ name := by
      rintro n hn rfl
      exact hname hn
    have hsame := hlocal reg (reg.register name e) d fun n hn =>
      (Registry.find?_register_of_ne e (hne n hn)).symm
    exact ⟨hsame.1.symm, hsame.2.symm⟩

/-- Two names on a cycle with a name that neither registry defines. The registries differ in their
order and in a definition that refers to the cycle and is out of reach itself. -/
theorem generate_eq_of_reaches_on_cycle :
    let a := Definition.tuple [.ref "b" [], .ref "lost" []] []
    let b := Definition.array (.ref "a" []) {} []
    let reg := Registry.ofList [("a", a), ("b", b)]
    let other := Registry.ofList [("far", .ref "a" []), ("b", b), ("a", a)]
    (∀ name, reg.Reaches (.ref "a" []) name → reg.find? name = other.find? name) ∧
      (generate ⟨reg, [], []⟩ (.ref "a" [])).1 = (generate ⟨other, [], []⟩ (.ref "a" [])).1 ∧
      (generate ⟨reg, [], []⟩ (.ref "a" [])).2.deferred =
        (generate ⟨other, [], []⟩ (.ref "a" [])).2.deferred := by
  intro a b reg other
  have hreach : ∀ name, reg.Reaches (.ref "a" []) name → name ∈ ["a", "b", "lost"] := by
    intro name h
    induction h with
    | here hname =>
      have hnames : (Definition.ref "a" []).references = ["a"] := rfl
      rw [hnames] at hname
      exact List.mem_cons.mpr (Or.inl (List.mem_singleton.mp hname))
    | @further name next _ hnext ih =>
      obtain ⟨d, hd, hmem⟩ := hnext
      have hentry := (Registry.mem_entries_iff name d).mpr hd
      have hentries : reg.entries = [("a", a), ("b", b)] := rfl
      have ha : a.references = ["b", "lost"] := rfl
      have hb : b.references = ["a"] := rfl
      rw [hentries] at hentry
      simp only [List.mem_cons, Prod.mk.injEq, List.not_mem_nil, or_false] at hentry
      rcases hentry with ⟨-, rfl⟩ | ⟨-, rfl⟩
      · rw [ha] at hmem
        exact List.mem_cons_of_mem _ hmem
      · rw [hb] at hmem
        exact List.mem_cons.mpr (Or.inl (List.mem_singleton.mp hmem))
  have hagree : ∀ name, reg.Reaches (.ref "a" []) name → reg.find? name = other.find? name := by
    intro name h
    have hmem := hreach name h
    simp only [List.mem_cons, List.not_mem_nil, or_false] at hmem
    rcases hmem with rfl | rfl | rfl <;> rfl
  exact ⟨hagree, generate_eq_of_reaches.1 reg other _ hagree⟩

end Generator

end SchemaForge
