import Mathlib.Order.Basic
import Mathlib.Tactic.Choose
import SchemaForge.Proofs.Assignments

/-!
# Collected references

A node of a definition has an address, the indices of the parts on the way to it, and pre-order is
the lexicographic order of addresses. The references of a definition are the names of its reference
nodes in this order, and the unresolved names of a registry are those of its references that are
not registered, each with its later repetitions left out.
-/

namespace SchemaForge

namespace Text

/-- The repetitions that are left out are the later ones. -/
theorem distinct_eq_eraseDups {α : Type} [BEq α] [LawfulBEq α] (xs : List α) :
    distinct xs = xs.eraseDups := by
  induction xs using List.reverseRecOn with
  | nil => rfl
  | append_singleton xs x ih =>
    rw [distinct_concat, List.eraseDups_append, ih]
    by_cases hx : x ∈ xs
    · rw [if_pos hx]
      simp [List.removeAll, hx]
    · rw [if_neg hx]
      simp [List.removeAll, hx, List.eraseDups_cons]

end Text

namespace Definition

/-- The node at an address. -/
def at? (d : Definition) : List Nat → Option Definition
  | [] => some d
  | i :: rest => d.parts[i]?.bind fun p => p.at? rest

/-- The addresses and names of all reference nodes of a definition, in pre-order. -/
structure ListsReferences (d : Definition) (occurrences : List (List Nat × String)) : Prop where
  mem_iff : ∀ address name,
    (address, name) ∈ occurrences ↔ ∃ ex, d.at? address = some (.ref name ex)
  increasing : occurrences.Pairwise fun a b => a.1 < b.1

lemma listsReferences_leaf (l : Leaf) (ex : List Json) : ListsReferences (.leaf l ex) [] where
  mem_iff := by
    intro address name
    cases address with
    | nil => simp [at?]
    | cons i rest => simp [at?, parts]
  increasing := List.Pairwise.nil

lemma listsReferences_ref (name : String) (ex : List Json) :
    ListsReferences (.ref name ex) [([], name)] where
  mem_iff := by
    intro address other
    cases address with
    | nil => simp [at?, eq_comm]
    | cons i rest => simp [at?, parts]
  increasing := List.pairwise_singleton _ _

/-- The occurrences in parts, where an address begins with the index of the part. -/
def occurrencesFrom (f : Definition → List (List Nat × String)) (ps : List Definition) :
    List (List Nat × String) :=
  ps.zipIdx.flatMap fun p => (f p.1).map fun o => (p.2 :: o.1, o.2)

lemma mem_occurrencesFrom {f : Definition → List (List Nat × String)} {ps : List Definition}
    {address : List Nat} {name : String} :
    (address, name) ∈ occurrencesFrom f ps ↔
      ∃ i rest p, address = i :: rest ∧ ps[i]? = some p ∧ (rest, name) ∈ f p := by
  simp only [occurrencesFrom, List.mem_flatMap, List.mem_map]
  constructor
  · rintro ⟨⟨p, i⟩, hp, ⟨rest, n⟩, ho, heq⟩
    cases heq
    exact ⟨i, rest, p, rfl, List.mem_zipIdx_iff_getElem?.mp hp, ho⟩
  · rintro ⟨i, rest, p, rfl, hp, ho⟩
    exact ⟨(p, i), List.mem_zipIdx_iff_getElem?.mpr hp, (rest, name), ho, rfl⟩

lemma pairwise_zipIdx {α : Type} (xs : List α) : xs.zipIdx.Pairwise fun a b => a.2 < b.2 := by
  apply List.pairwise_iff_getElem.mpr
  intro i j hi hj hij
  simpa using hij

lemma map_snd_occurrencesFrom (f : Definition → List (List Nat × String)) (ps : List Definition) :
    (occurrencesFrom f ps).map Prod.snd = ps.flatMap fun p => (f p).map Prod.snd := by
  have hparts : ps = ps.zipIdx.map Prod.fst := (List.zipIdx_map_fst 0 ps).symm
  rw [occurrencesFrom, List.map_flatMap]
  conv_rhs => rw [hparts, List.flatMap_map]
  apply List.flatMap_congr
  intro p _
  rw [List.map_map]
  rfl

/-- Pre-order goes through the parts one after the other. Addresses in one part begin alike, and
those in different parts are in the order of the parts. -/
lemma listsReferences_composite {d : Definition} (h : d.isComposite = true)
    {f : Definition → List (List Nat × String)} (hf : ∀ p ∈ d.parts, ListsReferences p (f p)) :
    ListsReferences d (occurrencesFrom f d.parts) where
  mem_iff := by
    intro address name
    rw [mem_occurrencesFrom]
    constructor
    · rintro ⟨i, rest, p, rfl, hp, ho⟩
      obtain ⟨ex, hex⟩ := ((hf p (List.mem_of_getElem? hp)).mem_iff rest name).mp ho
      exact ⟨ex, by rw [at?, hp, Option.bind_some, hex]⟩
    · rintro ⟨ex, hex⟩
      cases address with
      | nil =>
        cases hex
        cases h
      | cons i rest =>
        rw [at?] at hex
        obtain ⟨p, hp, hat⟩ := Option.bind_eq_some_iff.mp hex
        have ho := ((hf p (List.mem_of_getElem? hp)).mem_iff rest name).mpr ⟨ex, hat⟩
        exact ⟨i, rest, p, rfl, hp, ho⟩
  increasing := by
    refine List.pairwise_flatMap.mpr ⟨?_, ?_⟩
    · rintro ⟨p, i⟩ hp
      have hmem : p ∈ d.parts := List.mem_of_getElem? (List.mem_zipIdx_iff_getElem?.mp hp)
      rw [List.pairwise_map]
      refine (hf p hmem).increasing.imp ?_
      intro a b hab
      exact List.cons_lt_cons_iff.mpr (Or.inr ⟨rfl, hab⟩)
    · refine (pairwise_zipIdx d.parts).imp ?_
      intro a b hab x hx y hy
      obtain ⟨o, -, rfl⟩ := List.mem_map.mp hx
      obtain ⟨o', -, rfl⟩ := List.mem_map.mp hy
      exact List.cons_lt_cons_iff.mpr (Or.inl hab)

/-- The walk that collects names meets the reference nodes in pre-order and misses none. -/
theorem exists_listsReferences (d : Definition) :
    ∃ occurrences, ListsReferences d occurrences ∧ occurrences.map Prod.snd = d.refNames := by
  induction d using partsInduction with
  | leaf l ex => exact ⟨[], listsReferences_leaf l ex, by rw [refNames, List.map_nil]⟩
  | composite d h ih =>
    choose! f hf hnames using ih
    refine ⟨occurrencesFrom f d.parts, listsReferences_composite h hf, ?_⟩
    rw [map_snd_occurrencesFrom, refNames_of_isComposite h]
    exact List.flatMap_congr hnames
  | ref name ex => exact ⟨[([], name)], listsReferences_ref name ex, by rw [refNames]; rfl⟩

lemma mem_references_iff_at? (d : Definition) (name : String) :
    name ∈ d.references ↔ ∃ address ex, d.at? address = some (.ref name ex) := by
  obtain ⟨occurrences, hlists, hnames⟩ := exists_listsReferences d
  rw [mem_references, ← hnames, List.mem_map]
  constructor
  · rintro ⟨⟨address, n⟩, ho, rfl⟩
    exact ⟨address, (hlists.mem_iff address n).mp ho⟩
  · rintro ⟨address, hex⟩
    exact ⟨(address, name), (hlists.mem_iff address name).mpr hex, rfl⟩

end Definition

namespace Registry

lemma unresolved_eq_eraseDups (reg : Registry) :
    reg.unresolved =
      ((reg.snapshot.flatMap fun e => e.2.references).filter
        fun name => name ∉ reg.names).eraseDups := by
  have hregistered : ∀ name, (!reg.contains name) = decide (name ∉ reg.names) := by
    intro name
    rw [Bool.eq_iff_iff, decide_eq_true_iff, ← contains_iff_mem_names, Bool.not_eq_true',
      Bool.not_eq_true]
  rw [unresolved_eq_distinct, Text.distinct_eq_eraseDups]
  simp only [hregistered]
  rfl

lemma unresolved_eq_nil_iff (reg : Registry) :
    reg.unresolved = [] ↔
      ∀ name d, reg.find? name = some d →
        ∀ address target ex, d.at? address = some (.ref target ex) → target ∈ reg.names := by
  rw [List.eq_nil_iff_forall_not_mem]
  constructor
  · intro h name d hd address target ex hat
    by_contra hmissing
    have hnone : reg.find? target = none := by
      rw [mem_names_iff] at hmissing
      exact Option.eq_none_iff_forall_ne_some.mpr fun e he => hmissing ⟨e, he⟩
    refine h target ((mem_unresolved_iff target).mpr ⟨hnone, name, d, hd, ?_⟩)
    exact (Definition.mem_references_iff_at? d target).mpr ⟨address, ex, hat⟩
  · intro h target htarget
    obtain ⟨hnone, name, d, hd, href⟩ := (mem_unresolved_iff target).mp htarget
    obtain ⟨address, ex, hat⟩ := (Definition.mem_references_iff_at? d target).mp href
    obtain ⟨e, he⟩ := (mem_names_iff target).mp (h name d hd address target ex hat)
    rw [hnone] at he
    cases he

end Registry

/-- References are collected completely and once, from a definition and from a registry. -/
theorem references_complete_and_once (d : Definition) (reg : Registry) :
    (∃ occurrences, Definition.ListsReferences d occurrences ∧
      d.references = (occurrences.map Prod.snd).eraseDups) ∧
    reg.unresolved =
      ((reg.snapshot.flatMap fun e => e.2.references).filter
        fun name => name ∉ reg.names).eraseDups ∧
    (reg.unresolved = [] ↔
      ∀ name d, reg.find? name = some d →
        ∀ address target ex, d.at? address = some (.ref target ex) → target ∈ reg.names) := by
  obtain ⟨occurrences, hlists, hnames⟩ := Definition.exists_listsReferences d
  refine ⟨⟨occurrences, hlists, ?_⟩, reg.unresolved_eq_eraseDups, reg.unresolved_eq_nil_iff⟩
  rw [hnames, Definition.references_eq_distinct, Text.distinct_eq_eraseDups]

end SchemaForge
