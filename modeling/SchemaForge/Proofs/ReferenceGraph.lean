import Mathlib.Data.List.Chain
import SchemaForge.Proofs.DefinitionTree

/-!
# The graph of references

A registered name refers to the names in its definition. `Registry.search` walks through this
graph in depth, and `Registry.findCycle` returns a path exactly when some name reaches itself:
what a search returns is such a path, and the names that it has left behind are closed under
references and on no cycle.
-/

namespace SchemaForge

namespace Entries

variable {α : Type}

lemma get?_of_mem {name : String} {value : α} {xs : Entries α} (hnodup : (keys xs).Nodup)
    (h : (name, value) ∈ xs) : get? name xs = some value := by
  induction xs with
  | nil => cases h
  | cons x xs ih =>
    obtain ⟨key, v⟩ := x
    obtain ⟨hkey, hrest⟩ := List.nodup_cons.mp hnodup
    rcases List.mem_cons.mp h with heq | h
    · cases heq
      simp [get?]
    · have hne : key ≠ name := by
        rintro rfl
        exact hkey (List.mem_map.mpr ⟨_, h, rfl⟩)
      simp only [get?, hne, if_false]
      exact ih hrest h

end Entries

namespace Registry

variable {reg : Registry}

lemma mem_entries_iff (name : String) (d : Definition) :
    (name, d) ∈ reg.entries ↔ reg.find? name = some d :=
  ⟨Entries.get?_of_mem reg.nodup, Entries.mem_of_get?⟩

lemma mem_names_iff (name : String) : name ∈ reg.names ↔ ∃ d, reg.find? name = some d := by
  constructor
  · intro h
    obtain ⟨⟨key, d⟩, hmem, rfl⟩ := List.mem_map.mp h
    exact ⟨d, (mem_entries_iff key d).mp hmem⟩
  · rintro ⟨d, hd⟩
    exact mem_names_of_find? hd

lemma contains_iff_mem_names (name : String) : reg.contains name = true ↔ name ∈ reg.names := by
  rw [mem_names_iff, contains, Option.isSome_iff_exists]

/-- The definition of one name refers to another. -/
def Refers (reg : Registry) (a b : String) : Prop :=
  ∃ d, reg.find? a = some d ∧ b ∈ d.references

lemma refers_iff_of_find? {a : String} {d : Definition} (hd : reg.find? a = some d) (b : String) :
    reg.Refers a b ↔ b ∈ d.references := by
  constructor
  · rintro ⟨d', hd', hb⟩
    rw [hd] at hd'
    cases hd'
    exact hb
  · intro hb
    exact ⟨d, hd, hb⟩

lemma not_refers_of_find? {a : String} (hd : reg.find? a = none) (b : String) :
    ¬reg.Refers a b := by
  rintro ⟨d, hd', -⟩
  rw [hd] at hd'
  cases hd'

lemma contains_of_transGen {a b : String} (h : Relation.TransGen reg.Refers a b) :
    reg.contains a = true := by
  obtain ⟨c, ⟨d, hd, -⟩, -⟩ := Relation.TransGen.head'_iff.mp h
  simp [contains, hd]

lemma unresolved_eq_distinct :
    reg.unresolved =
      Text.distinct
        ((reg.entries.flatMap fun e => e.2.references).filter fun name => !reg.contains name) := by
  rw [unresolved, Text.distinct, List.foldl_filter, List.foldl_flatMap]
  refine List.foldl_ext _ _ _ fun missing e _ => List.foldl_ext _ _ _ fun missing name _ => ?_
  cases reg.contains name <;> cases missing.contains name <;> rfl

/-- The names without a definition that registered definitions refer to. -/
lemma mem_unresolved_iff (name : String) :
    name ∈ reg.unresolved ↔ reg.find? name = none ∧ ∃ a, reg.Refers a name := by
  rw [unresolved_eq_distinct, Text.mem_distinct, List.mem_filter, List.mem_flatMap, contains]
  constructor
  · rintro ⟨⟨⟨a, d⟩, hmem, hname⟩, hnone⟩
    exact ⟨by simpa using hnone, a, d, (mem_entries_iff a d).mp hmem, hname⟩
  · rintro ⟨hnone, a, d, hd, hname⟩
    exact ⟨⟨(a, d), (mem_entries_iff a d).mpr hd, hname⟩, by simp [hnone]⟩

/-- Where there is a way, there is one that visits no name twice. -/
lemma exists_nodup_chain {a b : String} (h : Relation.ReflTransGen reg.Refers a b) :
    ∃ l, (a :: l).Nodup ∧ (a :: l).IsChain reg.Refers ∧ (a :: l).getLast? = some b := by
  induction h using Relation.ReflTransGen.head_induction_on with
  | refl => exact ⟨[], List.nodup_singleton b, List.isChain_singleton b, rfl⟩
  | @head a c hac _ ih =>
    obtain ⟨l, hnodup, hchain, hlast⟩ := ih
    by_cases ha : a ∈ c :: l
    · -- The way comes back to its start, so what lies before can be left out.
      obtain ⟨before, after, hsplit⟩ := List.append_of_mem ha
      rw [hsplit] at hnodup hchain hlast
      refine ⟨after, (List.nodup_append.mp hnodup).2.1, hchain.right_of_append, ?_⟩
      rwa [List.getLast?_append_cons] at hlast
    · refine ⟨c :: l, List.nodup_cons.mpr ⟨ha, hnodup⟩,
        List.isChain_cons_cons.mpr ⟨hac, hchain⟩, ?_⟩
      rwa [List.getLast?_cons_cons]

/-- A path of references from a name back to itself that visits no other name twice. -/
def IsCycle (reg : Registry) (cycle : List String) : Prop :=
  ∃ name inner, cycle = name :: inner ++ [name] ∧ (name :: inner).Nodup ∧
    cycle.IsChain reg.Refers

lemma IsCycle.transGen {cycle : List String} (h : reg.IsCycle cycle) :
    ∃ name, Relation.TransGen reg.Refers name name := by
  obtain ⟨name, inner, rfl, -, hchain⟩ := h
  refine ⟨name, ?_⟩
  cases inner with
  | nil => exact Relation.TransGen.single (List.isChain_pair.mp hchain)
  | cons b inner =>
    have hfirst : reg.Refers name b := (List.isChain_cons_cons.mp hchain).1
    have hrest : (b :: (inner ++ [name])).IsChain reg.Refers := hchain.tail
    exact Relation.TransGen.head' hfirst
      (List.relationReflTransGen_of_exists_isChain_cons (inner ++ [name]) hrest (by simp))

/-! ### Searches that fail -/

section Fold

variable {ε α β : Type} {f : β → α → Except ε β}

lemma exists_of_foldlM_error {xs : List α} {init : β} {e : ε}
    (h : xs.foldlM f init = .error e) : ∃ x ∈ xs, ∃ acc, f acc x = .error e := by
  induction xs generalizing init with
  | nil => cases h
  | cons x xs ih =>
    rw [List.foldlM_cons] at h
    cases hx : f init x with
    | error e' =>
      rw [hx] at h
      cases h
      exact ⟨x, List.mem_cons_self, init, hx⟩
    | ok acc =>
      rw [hx] at h
      obtain ⟨y, hy, acc', hacc⟩ := ih h
      exact ⟨y, List.mem_cons_of_mem x hy, acc', hacc⟩

end Fold

lemma search_of_unregistered {path : List String} {name : String} {visited : List String}
    (hp : name ∉ path) (hv : name ∉ visited) (hd : reg.find? name = none) :
    reg.search path name visited = .ok (name :: visited) := by
  rw [search, dif_neg hp, if_neg hv]
  split
  · rfl
  · rename_i d hd'
    rw [hd] at hd'
    cases hd'

lemma search_of_registered {path : List String} {name : String} {visited : List String}
    {d : Definition} (hp : name ∉ path) (hv : name ∉ visited) (hd : reg.find? name = some d) :
    reg.search path name visited =
      (d.references.foldlM (fun seen next => reg.search (name :: path) next seen) visited).map
        (name :: ·) := by
  rw [search, dif_neg hp, if_neg hv]
  split
  · rename_i hd'
    rw [hd] at hd'
    cases hd'
  · rename_i d' hd'
    rw [hd] at hd'
    cases hd'
    rfl

/-- A name that is met again closes the path from its first visit. -/
lemma isCycle_of_mem_path {path : List String} {name : String} (hnodup : path.Nodup)
    (hchain : (name :: path).IsChain fun a b => reg.Refers b a) (h : name ∈ path) :
    reg.IsCycle (path.reverse.dropWhile (· ≠ name) ++ [name]) := by
  obtain ⟨inner, below, rfl, hinner⟩ := List.eq_append_cons_of_mem h
  have hbelow : name ∉ below := by
    have hnodup' := (List.nodup_append.mp hnodup).2.1
    exact (List.nodup_cons.mp hnodup').1
  have hdrop : (inner ++ name :: below).reverse.dropWhile (· ≠ name) = name :: inner.reverse := by
    rw [List.reverse_append, List.reverse_cons, List.append_assoc,
      List.dropWhile_append_of_pos]
    · simp
    · intro b hb
      have hne : b ≠ name := by
        rintro rfl
        exact hbelow (List.mem_reverse.mp hb)
      simpa using hne
  rw [hdrop]
  refine ⟨name, inner.reverse, rfl, ?_, ?_⟩
  · have hnodup' := (List.nodup_append.mp hnodup).1
    exact List.nodup_cons.mpr ⟨fun h => hinner (List.mem_reverse.mp h), List.nodup_reverse.mpr hnodup'⟩
  · have hturn : name :: inner.reverse ++ [name] = (name :: inner ++ [name]).reverse := by simp
    rw [hturn, List.isChain_reverse]
    apply hchain.prefix
    exact ⟨below, by simp⟩

theorem search_error {path : List String} {name : String} {visited cycle : List String}
    (hnodup : path.Nodup) (hchain : (name :: path).IsChain fun a b => reg.Refers b a)
    (h : reg.search path name visited = .error cycle) : reg.IsCycle cycle := by
  induction path, name, visited using search.induct reg with
  | case1 path name visited hp =>
    rw [search, dif_pos hp] at h
    cases h
    exact isCycle_of_mem_path hnodup hchain hp
  | case2 path name visited hp hv =>
    rw [search, dif_neg hp, if_pos hv] at h
    cases h
  | case3 path name visited hp hv hd =>
    rw [search_of_unregistered hp hv hd] at h
    cases h
  | case4 path name visited hp hv d hd ih =>
    rw [search_of_registered hp hv hd] at h
    cases hfold : d.references.foldlM (fun seen next => reg.search (name :: path) next seen)
        visited with
    | ok seen =>
      rw [hfold] at h
      cases h
    | error found =>
      rw [hfold] at h
      cases h
      obtain ⟨next, hnext, seen, hseen⟩ := exists_of_foldlM_error hfold
      have hrefers : reg.Refers name next := ⟨d, hd, hnext⟩
      exact ih seen next (List.nodup_cons.mpr ⟨hp, hnodup⟩)
        (List.isChain_cons_cons.mpr ⟨hrefers, hchain⟩) hseen

/-! ### Searches that succeed -/

/-- Names that are closed under references and lie on no cycle. -/
structure Settled (reg : Registry) (visited : List String) : Prop where
  closed : ∀ v ∈ visited, ∀ w, reg.Refers v w → w ∈ visited
  acyclic : ∀ v ∈ visited, ¬Relation.TransGen reg.Refers v v

lemma Settled.mem_of_transGen {visited : List String} (h : reg.Settled visited) {v w : String}
    (hv : v ∈ visited) (hvw : Relation.TransGen reg.Refers v w) : w ∈ visited := by
  induction hvw with
  | single hw => exact h.closed v hv _ hw
  | tail _ hw ih => exact h.closed _ ih _ hw

/-- A name whose references are settled is settled. -/
lemma Settled.cons {visited : List String} (h : reg.Settled visited) {name : String}
    (hname : name ∉ visited) (hrefs : ∀ w, reg.Refers name w → w ∈ visited) :
    reg.Settled (name :: visited) where
  closed := by
    intro v hv w hw
    rcases List.mem_cons.mp hv with rfl | hv
    · exact List.mem_cons_of_mem v (hrefs w hw)
    · exact List.mem_cons_of_mem name (h.closed v hv w hw)
  acyclic := by
    intro v hv hcycle
    rcases List.mem_cons.mp hv with rfl | hv
    · obtain ⟨w, hw, hback⟩ := Relation.TransGen.head'_iff.mp hcycle
      rcases Relation.reflTransGen_iff_eq_or_transGen.mp hback with rfl | hback
      · exact hname (hrefs _ hw)
      · exact hname (h.mem_of_transGen (hrefs w hw) hback)
    · exact h.acyclic v hv hcycle

/-- What a search below a path leaves behind: the names visited before and further ones, settled,
and none of those on the path. -/
structure SearchedTo (reg : Registry) (path visited visited' : List String) : Prop where
  settled : reg.Settled visited'
  outside : ∀ p ∈ path, p ∉ visited'
  visited_subset : visited ⊆ visited'

lemma searchedTo_of_foldlM {path : List String} {names : List String}
    (hsearch : ∀ seen next seen', reg.Settled seen → (∀ p ∈ path, p ∉ seen) →
      reg.search path next seen = .ok seen' → reg.SearchedTo path seen seen' ∧ next ∈ seen')
    {visited visited' : List String} (hset : reg.Settled visited)
    (hout : ∀ p ∈ path, p ∉ visited)
    (h : names.foldlM (fun seen next => reg.search path next seen) visited = .ok visited') :
    reg.SearchedTo path visited visited' ∧ ∀ n ∈ names, n ∈ visited' := by
  induction names generalizing visited with
  | nil =>
    cases h
    exact ⟨⟨hset, hout, List.Subset.refl _⟩, fun n hn => absurd hn List.not_mem_nil⟩
  | cons name names ih =>
    rw [List.foldlM_cons] at h
    cases hname : reg.search path name visited with
    | error cycle =>
      rw [hname] at h
      cases h
    | ok seen =>
      rw [hname] at h
      obtain ⟨hseen, hmem⟩ := hsearch visited name seen hset hout hname
      obtain ⟨hrest, hall⟩ := ih hseen.settled hseen.outside h
      refine ⟨⟨hrest.settled, hrest.outside,
        List.Subset.trans hseen.visited_subset hrest.visited_subset⟩, ?_⟩
      intro n hn
      rcases List.mem_cons.mp hn with rfl | hn
      · exact hrest.visited_subset hmem
      · exact hall n hn

theorem search_ok {path : List String} {name : String} {visited visited' : List String}
    (hset : reg.Settled visited) (hout : ∀ p ∈ path, p ∉ visited)
    (h : reg.search path name visited = .ok visited') :
    reg.SearchedTo path visited visited' ∧ name ∈ visited' := by
  induction path, name, visited using search.induct reg generalizing visited' with
  | case1 path name visited hp =>
    rw [search, dif_pos hp] at h
    cases h
  | case2 path name visited hp hv =>
    rw [search, dif_neg hp, if_pos hv] at h
    cases h
    exact ⟨⟨hset, hout, List.Subset.refl _⟩, hv⟩
  | case3 path name visited hp hv hd =>
    rw [search_of_unregistered hp hv hd] at h
    cases h
    refine ⟨⟨hset.cons hv fun w hw => absurd hw (not_refers_of_find? hd w), ?_,
      List.subset_cons_self _ _⟩, List.mem_cons_self⟩
    intro p hpath hmem
    rcases List.mem_cons.mp hmem with rfl | hmem
    · exact hp hpath
    · exact hout p hpath hmem
  | case4 path name visited hp hv d hd ih =>
    rw [search_of_registered hp hv hd] at h
    cases hfold : d.references.foldlM (fun seen next => reg.search (name :: path) next seen)
        visited with
    | error cycle =>
      rw [hfold] at h
      cases h
    | ok seen =>
      rw [hfold] at h
      cases h
      have hout' : ∀ p ∈ name :: path, p ∉ visited := by
        rw [List.forall_mem_cons]
        exact ⟨hv, hout⟩
      obtain ⟨hseen, hrefs⟩ := searchedTo_of_foldlM
        (fun seen next seen' hs ho hsearch => ih seen next hs ho hsearch) hset hout' hfold
      obtain ⟨hnew, hpath⟩ := List.forall_mem_cons.mp hseen.outside
      refine ⟨⟨hseen.settled.cons hnew ?_, ?_, ?_⟩, List.mem_cons_self⟩
      · intro w hw
        exact hrefs w ((refers_iff_of_find? hd w).mp hw)
      · intro p hmem hcons
        rcases List.mem_cons.mp hcons with rfl | hcons
        · exact hp hmem
        · exact hpath p hmem hcons
      · exact List.Subset.trans hseen.visited_subset (List.subset_cons_self _ _)

/-! ### Detection of cycles -/

lemma isCycle_of_findCycle {path : List String} (h : reg.findCycle = some path) :
    reg.IsCycle path := by
  unfold findCycle at h
  cases hfold : reg.names.foldlM (fun seen name => reg.search [] name seen) [] with
  | error cycle =>
    rw [hfold] at h
    cases h
    obtain ⟨name, -, seen, hseen⟩ := exists_of_foldlM_error hfold
    exact search_error List.nodup_nil (List.isChain_singleton name) hseen
  | ok visited =>
    rw [hfold] at h
    cases h

lemma not_transGen_of_findCycle (h : reg.findCycle = none) (name : String) :
    ¬Relation.TransGen reg.Refers name name := by
  unfold findCycle at h
  cases hfold : reg.names.foldlM (fun seen name => reg.search [] name seen) [] with
  | error cycle =>
    rw [hfold] at h
    cases h
  | ok visited =>
    have hnone : reg.Settled [] :=
      ⟨fun v hv => absurd hv List.not_mem_nil, fun v hv => absurd hv List.not_mem_nil⟩
    obtain ⟨hvisited, hall⟩ := searchedTo_of_foldlM
      (fun seen next seen' hs ho h => search_ok hs ho h) hnone
      (fun p hp => absurd hp List.not_mem_nil) hfold
    intro hcycle
    have hname : name ∈ reg.names := by
      obtain ⟨c, ⟨d, hd, -⟩, -⟩ := Relation.TransGen.head'_iff.mp hcycle
      exact mem_names_of_find? hd
    exact hvisited.settled.acyclic name (hall name hname) hcycle

theorem findCycle_isSome_iff :
    reg.findCycle.isSome = true ↔ ∃ name, Relation.TransGen reg.Refers name name := by
  cases h : reg.findCycle with
  | none =>
    have hno := not_transGen_of_findCycle h
    simpa using hno
  | some path =>
    have hyes := (isCycle_of_findCycle h).transGen
    simpa using hyes

/-- Every name on a chain but the last refers to another one. -/
lemma mem_names_of_isChain {names : List String} {last : String}
    (h : (names ++ [last]).IsChain reg.Refers) : ∀ name ∈ names, name ∈ reg.names := by
  induction names with
  | nil => intro name hname; cases hname
  | cons first rest ih =>
    have hrest : (rest ++ [last]).IsChain reg.Refers := h.tail
    intro name hname
    rcases List.mem_cons.mp hname with rfl | hname
    · have hnext : ∃ next, reg.Refers name next := by
        cases rest with
        | nil => exact ⟨last, List.isChain_pair.mp h⟩
        | cons next rest => exact ⟨next, (List.isChain_cons_cons.mp h).1⟩
      obtain ⟨next, d, hd, -⟩ := hnext
      exact mem_names_of_find? hd
    · exact ih hrest name hname

/-- No path is found exactly when no registered name reaches itself. A path that is found leads from
a name back to this name, along references and through registered names, and visits no other name
twice. -/
theorem findCycle_sound_complete (reg : Registry) :
    (reg.findCycle = none ↔ ∀ name ∈ reg.names, ¬Relation.TransGen reg.Refers name name) ∧
      ∀ path, reg.findCycle = some path →
        2 ≤ path.length ∧ path.head? = path.getLast? ∧ path.dropLast.Nodup ∧
          (∀ name ∈ path.dropLast, name ∈ reg.names) ∧ path.IsChain reg.Refers := by
  constructor
  · constructor
    · intro h name _
      exact not_transGen_of_findCycle h name
    · intro hno
      cases h : reg.findCycle with
      | none => rfl
      | some path =>
        obtain ⟨name, hcycle⟩ := (isCycle_of_findCycle h).transGen
        have hname := (contains_iff_mem_names name).mp (contains_of_transGen hcycle)
        exact absurd hcycle (hno name hname)
  · intro path h
    obtain ⟨name, inner, rfl, hnodup, hchain⟩ := isCycle_of_findCycle h
    have hlast : (name :: inner ++ [name]).dropLast = name :: inner := List.dropLast_concat
    rw [hlast]
    refine ⟨by simp, ?_, hnodup, mem_names_of_isChain hchain, hchain⟩
    rw [List.getLast?_concat]
    rfl

/-- Two cycles that share a name, behind a name from which both are reached, and a name without a
definition. -/
theorem findCycle_sound_complete_of_shared_name :
    let reg := Registry.ofList
      [("start", .ref "a" []), ("a", .tuple [.ref "lost" [], .ref "b" []] []),
        ("b", .tuple [.ref "c" [], .ref "a" []] []), ("c", .array (.ref "b" []) {} [])]
    reg.findCycle = some ["b", "c", "b"] ∧ ["b", "c", "b"].dropLast.Nodup ∧
      ["b", "c", "b"].IsChain reg.Refers := by
  intro reg
  have hfound : reg.findCycle = some ["b", "c", "b"] := by decide +kernel
  obtain ⟨-, -, hnodup, -, hchain⟩ := (findCycle_sound_complete reg).2 _ hfound
  exact ⟨hfound, hnodup, hchain⟩

end Registry

end SchemaForge
