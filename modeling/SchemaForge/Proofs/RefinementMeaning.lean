import SchemaForge.Proofs.NetworkBounds
import SchemaForge.Proofs.PredicateMeaning

/-!
# Subjects of refinements

A refinement tests a subject that it parses out of a value. Every such subject is comparable with the
predicate of the refinement: lists of names are compared with texts, paths with texts, ranges and ports
with numbers that are exact. So the text of the predicate means the same as the predicate.
-/

namespace SchemaForge

open JavaScript

namespace Predicate

variable {s : Operand}

lemma comparable_memberOf {xs : List Operand} (hs : ∀ n ∈ s.numbers, n ≤ 2 ^ 53)
    (hxs : ∀ x ∈ xs, ∀ n ∈ x.numbers, n ≤ 2 ^ 53) : (memberOf xs).Comparable s := by
  have hatoms : (memberOf xs).atoms = [memberOf xs] := by
    unfold memberOf
    split <;> rw [atoms]
  have hnumbers : (memberOf xs).testNumbers = xs.flatMap Operand.numbers := by
    unfold memberOf
    split
    · rw [testNumbers, List.flatMap_singleton]
    · rw [testNumbers]
  refine ⟨hs, ?_, ?_⟩
  · rw [hatoms, List.flatMap_singleton, hnumbers]
    intro n hn
    obtain ⟨x, hx, hn⟩ := List.mem_flatMap.mp hn
    exact hxs x hx n hn
  · -- Membership is neither a range nor a path, so any subject will do.
    rw [hatoms]
    cases s with
    | number n =>
      refine Or.inl ⟨⟨n, rfl⟩, fun path hmem => ?_⟩
      have heq := List.mem_singleton.mp hmem
      unfold memberOf at heq
      split at heq <;> cases heq
    | text t =>
      refine Or.inr ⟨⟨t, rfl⟩, fun first last hmem => ?_⟩
      have heq := List.mem_singleton.mp hmem
      unfold memberOf at heq
      split at heq <;> cases heq

lemma atoms_any_map {α : Type} {test : α → Predicate} (h : ∀ x, (test x).atoms = [test x])
    (xs : List α) : (any (xs.map test)).atoms = xs.map test := by
  rw [atoms]
  induction xs with
  | nil => rfl
  | cons x xs ih =>
    rw [List.map_cons, atomsOfList, ih, h x]
    rfl

lemma comparable_paths (paths : List String) (t : String) :
    (any (paths.map pathPrefix)).Comparable (.text t) := by
  have hatoms := atoms_any_map (fun path => atoms.eq_def (pathPrefix path)) paths
  refine ⟨?_, ?_, Or.inr ⟨⟨t, rfl⟩, ?_⟩⟩
  · intro n hn
    cases hn
  · intro n hn
    rw [hatoms] at hn
    simp [testNumbers] at hn
  · intro first last hmem
    rw [hatoms] at hmem
    simp at hmem

lemma comparable_ranges {ranges : List Ipv4.Range} {n : Nat} (hn : n ≤ 2 ^ 53)
    (h : ∀ r ∈ ranges, r.first ≤ 2 ^ 53 ∧ r.last ≤ 2 ^ 53) :
    (any (ranges.map fun r => inRange r.first r.last)).Comparable (.number n) := by
  have hatoms :=
    atoms_any_map (fun r : Ipv4.Range => atoms.eq_def (inRange r.first r.last)) ranges
  refine ⟨?_, ?_, Or.inl ⟨⟨n, rfl⟩, ?_⟩⟩
  · intro m hm
    rw [List.mem_singleton.mp hm]
    exact hn
  · intro m hm
    rw [hatoms] at hm
    obtain ⟨p, hp, hm⟩ := List.mem_flatMap.mp hm
    obtain ⟨r, hr, rfl⟩ := List.mem_map.mp hp
    have hbounds := h r hr
    rcases List.mem_pair.mp hm with rfl | rfl
    · exact hbounds.1
    · exact hbounds.2
  · intro path hmem
    rw [hatoms] at hmem
    simp at hmem

end Predicate

lemma Subject.exact_of_parse? {readUrl : String → Option Url} {subject : Subject} {value : String}
    {s : Operand} (h : subject.parse? readUrl value = some s) : ∀ n ∈ s.numbers, n ≤ 2 ^ 53 := by
  intro n hn
  cases s with
  | text t => cases hn
  | number m =>
    rw [List.mem_singleton.mp hn]
    cases subject with
    | ipv4Number =>
      obtain ⟨a, ha, heq⟩ := Option.map_eq_some_iff.mp h
      cases heq
      have hlt := Ipv4.addressOfChars?_lt ha
      omega
    | urlPort =>
      obtain ⟨port, -, heq⟩ := Option.map_eq_some_iff.mp h
      cases heq
      have hlt := port.toNat_lt
      omega
    | value => simp [parse?] at h
    | ipv6 => simp [parse?] at h
    | mac => simp [parse?] at h
    | emailDomain => simp [parse?] at h
    | urlProtocol => simp [parse?] at h
    | urlHostname => simp [parse?] at h
    | urlPath => simp [parse?] at h

namespace Refinement

/-- Every subject that the refinement finds in a value is comparable, however URLs are read. -/
def TestsComparable (r : Refinement) : Prop :=
  ∀ readUrl value s, r.subject.parse? readUrl value = some s → r.predicate.Comparable s

section OfFilter

variable {α : Type} {subject : Subject} {message : String} {test : List α → Predicate}
  {f : Filter α} {r : Refinement}

lemma testsComparable_of_forMode? (h : forMode? subject message test f = some r)
    (htest : ∀ readUrl value s, subject.parse? readUrl value = some s →
      (test f.entries).Comparable s) : r.TestsComparable := by
  intro readUrl value s hs
  obtain ⟨p, hp, rfl⟩ := Option.map_eq_some_iff.mp h
  have hcomparable := htest readUrl value s hs
  apply hcomparable.of_subset
  -- A negation has the tests of what it negates.
  cases hmode : f.mode with
  | allow =>
    rw [hmode] at hp
    cases hp
    exact List.Subset.refl _
  | deny =>
    rw [hmode] at hp
    cases hp
    rw [Predicate.atoms]
    exact List.Subset.refl _
  | none =>
    rw [hmode] at hp
    cases hp

lemma testsComparable_of_ofFilter? (h : ofFilter? subject message test f = some r)
    (htest : ∀ readUrl value s, subject.parse? readUrl value = some s →
      (test f.entries).Comparable s) : r.TestsComparable := by
  unfold ofFilter? at h
  split at h
  · cases h
  · exact testsComparable_of_forMode? h htest

lemma exists_forMode?_of_ofPart? {part : Option (Filter α)}
    (h : ofPart? subject message test part = some r) :
    ∃ f, forMode? subject message test f = some r := by
  obtain ⟨f, -, hr⟩ := Option.bind_eq_some_iff.mp h
  exact ⟨f, hr⟩

end OfFilter

variable {readUrl : String → Option Url} {value : String} {s : Operand}

lemma comparable_membership {normalize : String → String} {entries : List String}
    {subject : Subject} (h : subject.parse? readUrl value = some s) :
    (membership normalize entries).Comparable s := by
  apply Predicate.comparable_memberOf (Subject.exact_of_parse? h)
  intro x hx n hn
  obtain ⟨e, -, rfl⟩ := List.mem_map.mp hx
  cases hn

lemma comparable_inRanges {entries : List String}
    (h : Subject.ipv4Number.parse? readUrl value = some s) : (inRanges entries).Comparable s := by
  have hexact := Subject.exact_of_parse? h
  obtain ⟨n, -, rfl⟩ := Option.map_eq_some_iff.mp h
  apply Predicate.comparable_ranges (hexact n List.mem_cons_self)
  intro r hr
  obtain ⟨e, -, hr⟩ := List.mem_filterMap.mp hr
  have hlt := Ipv4.rangeOfChars?_lt hr
  omega

lemma testsComparable_of_mem_ofUrl {rules : UrlRules} {r : Refinement} (h : r ∈ ofUrl rules) :
    r.TestsComparable := by
  simp only [ofUrl, List.mem_append, Option.mem_toList] at h
  rcases h with ((h | h) | h) | h
  · obtain ⟨f, hr⟩ := exists_forMode?_of_ofPart? h
    exact testsComparable_of_forMode? hr fun _ _ _ => comparable_membership
  · obtain ⟨f, hr⟩ := exists_forMode?_of_ofPart? h
    exact testsComparable_of_forMode? hr fun _ _ _ => comparable_membership
  · obtain ⟨f, hr⟩ := exists_forMode?_of_ofPart? h
    apply testsComparable_of_forMode? hr
    intro readUrl value s hs
    apply Predicate.comparable_memberOf (Subject.exact_of_parse? hs)
    intro x hx n hn
    obtain ⟨port, -, rfl⟩ := List.mem_map.mp hx
    have hlt := port.toNat_lt
    rw [List.mem_singleton.mp hn]
    omega
  · obtain ⟨f, hr⟩ := exists_forMode?_of_ofPart? h
    apply testsComparable_of_forMode? hr
    intro readUrl value s hs
    obtain ⟨u, -, rfl⟩ := Option.map_eq_some_iff.mp hs
    have hpaths := Predicate.comparable_paths (f.entries.map Text.trim) u.path
    rwa [List.map_map] at hpaths

lemma testsComparable_of_ofAddress {kind : AddressKind} {range : Filter String} {r : Refinement}
    (h : ofAddress kind range = some r) : r.TestsComparable := by
  cases kind with
  | ipv4 => exact testsComparable_of_ofFilter? h fun _ _ _ => comparable_inRanges
  | ipv6 => exact testsComparable_of_ofFilter? h fun _ _ _ => comparable_membership
  | mac => exact testsComparable_of_ofFilter? h fun _ _ _ => comparable_membership

theorem testsComparable_of_mem_ofLeaf {l : Leaf} {r : Refinement} (h : r ∈ ofLeaf l) :
    r.TestsComparable := by
  unfold ofLeaf at h
  split at h
  · exact testsComparable_of_ofFilter? (Option.mem_toList.mp h) fun _ _ _ => comparable_membership
  · exact testsComparable_of_mem_ofUrl h
  · exact testsComparable_of_ofAddress (Option.mem_toList.mp h)
  · cases h

end Refinement

/-- The text of every predicate is one expression. Wherever the variable holds a comparable subject,
it evaluates to what the predicate says of the subject, and refinements find no other subjects,
however URLs are read. -/
theorem Predicate.toJs_evaluates :
    (∀ p : Predicate, ∃ e, (∀ e', Parses p.toJs e' ↔ e' = e) ∧
      ∀ s scope, p.Comparable s → HoldsSubject scope s →
        e.eval scope = some (.bool (p.eval s))) ∧
    ∀ (readUrl : String → Option Url) (l : Leaf) (r : Refinement) (value : String) (s : Operand),
      r ∈ Refinement.ofLeaf l → r.subject.parse? readUrl value = some s →
        r.predicate.Comparable s := by
  constructor
  · intro p
    obtain ⟨e, hspells, hmeans⟩ := p.exists_means
    refine ⟨e, fun e' => ⟨hspells.parses.unique, ?_⟩, hmeans⟩
    rintro rfl
    exact hspells.parses
  · intro readUrl l r value s hr hs
    exact Refinement.testsComparable_of_mem_ofLeaf hr readUrl value s hs

theorem Predicate.toJs_evaluates_nested :
    let p := not (any [inRange 7 7, all [], oneOf [.text "\"", .number 443],
      all [not (inRange 1 9007199254740992), any []]])
    let r : Refinement := ⟨.ipv4Number, not (any [inRange 167772160 184549375]),
      "IP address is not in the allowed range"⟩
    p.Comparable (.number 443) ∧
      p.toJs = "!((subject === 7 || true || [\"\\\"\", 443].includes(subject) || " ++
        "(!((subject >= 1 && subject <= 9007199254740992)) && false)))" ∧
      (∃ e, Parses p.toJs e ∧ e.eval [⟨false, "subject", .ofNat 443⟩] = some (.bool false)) ∧
      r ∈ Refinement.ofLeaf (.address .ipv4 ⟨.deny, ["10.0.0.0/8", "10.0.0.0/33"]⟩) ∧
      r.subject.parse? Url.parse? "10.1.2.3" = some (.number 167838211) ∧
      r.predicate.Comparable (.number 167838211) := by
  intro p r
  have hp : p.Comparable (.number 443) := by
    refine ⟨by decide, by decide, Or.inl ⟨⟨443, rfl⟩, fun path hmem => ?_⟩⟩
    simp [p, atoms, atomsOfList] at hmem
  obtain ⟨e, hparses, hmeans⟩ := toJs_evaluates.1 p
  have hr : r ∈ Refinement.ofLeaf (.address .ipv4 ⟨.deny, ["10.0.0.0/8", "10.0.0.0/33"]⟩) :=
    List.mem_singleton.mpr rfl
  have hs : r.subject.parse? Url.parse? "10.1.2.3" = some (.number 167838211) := by decide
  refine ⟨hp, by rfl, ⟨e, (hparses e).mpr rfl, hmeans _ _ hp rfl⟩, hr, hs, ?_⟩
  exact toJs_evaluates.2 Url.parse? _ r "10.1.2.3" _ hr hs

end SchemaForge
