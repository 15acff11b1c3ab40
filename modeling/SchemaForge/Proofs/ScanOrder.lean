import Mathlib.Data.List.Sort
import Mathlib.Data.List.Lex
import Mathlib.Data.String.Basic
import SchemaForge.Proofs.AttributeDecoding
import SchemaForge.Proofs.Footprint
import SchemaForge.Proofs.RegistryRuns

/-!
# Scans in any order

A directory lists its files in no particular order. A scan puts them into the order of their path
components, in which no two files are equal, so what it finds and what a build makes of it are the
same for every order in which the files of a tree are listed.
-/

namespace SchemaForge

/-! ### Trees in two orders -/

namespace FileTree

/-- Two trees hold the same nodes, listed in two orders, and no location is listed twice. -/
structure Reordered (t t' : FileTree) : Prop where
  working : t'.working = t.working
  nodes : t'.nodes.Perm t.nodes
  distinct : (t.nodes.map Prod.fst).Nodup

lemma lookup_eq_some_iff_mem {nodes : List (Location × Node)} (h : (nodes.map Prod.fst).Nodup)
    {here : Location} {n : Node} : nodes.lookup here = some n ↔ (here, n) ∈ nodes := by
  induction nodes with
  | nil => simp
  | cons node nodes ih =>
    obtain ⟨l, m⟩ := node
    obtain ⟨hl, hrest⟩ := List.nodup_cons.mp h
    rw [List.lookup_cons, List.mem_cons]
    by_cases hhere : here = l
    · subst hhere
      have hnot : (here, n) ∉ nodes := fun hmem => hl (List.mem_map.mpr ⟨_, hmem, rfl⟩)
      simp [hnot, eq_comm]
    · have hne : (here == l) = false := by simpa using hhere
      simp [hne, hhere, ih hrest]

namespace Reordered

variable {t t' : FileTree}

lemma node?_eq (h : Reordered t t') : t'.node? = t.node? := by
  have hdistinct' : (t'.nodes.map Prod.fst).Nodup := (h.nodes.map Prod.fst).nodup_iff.mpr h.distinct
  funext here
  unfold node?
  congr 1
  ext n
  rw [lookup_eq_some_iff_mem hdistinct', lookup_eq_some_iff_mem h.distinct, h.nodes.mem_iff]

lemma isDirectory_eq (h : Reordered t t') : t'.isDirectory = t.isDirectory := by
  funext here
  rw [isDirectory, isDirectory, h.node?_eq]

lemma follow_eq (h : Reordered t t') (here : Location) (ss : List String) :
    t'.follow here ss = t.follow here ss := by
  induction ss generalizing here with
  | nil => rfl
  | cons s ss ih => simp only [follow, h.isDirectory_eq, h.node?_eq, ih]

lemma locate_eq (h : Reordered t t') : t'.locate = t.locate := by
  funext path
  simp only [locate, start, h.working, h.follow_eq]

lemma filesBelow_perm (h : Reordered t t') (base : Location) :
    (t'.filesBelow base).Perm (t.filesBelow base) := h.nodes.filterMap _

end Reordered

lemma fileBelow?_eq_some {base : Location} {node : Location × Node} {f : Location × Content} :
    fileBelow? base node = some f ↔ node = (base ++ f.1, .file f.2) ∧ f.1 ≠ [] := by
  obtain ⟨l, n⟩ := node
  obtain ⟨names, c⟩ := f
  cases n with
  | directory => simp [fileBelow?]
  | file d =>
    simp only [fileBelow?, Bool.and_eq_true, List.isPrefixOf_iff_prefix, decide_eq_true_eq,
      Prod.mk.injEq, Node.file.injEq]
    constructor
    · intro h
      split_ifs at h with hbelow
      obtain ⟨⟨rest, rfl⟩, hlength⟩ := hbelow
      simp only [List.drop_left, Option.some.injEq, Prod.mk.injEq] at h
      obtain ⟨rfl, rfl⟩ := h
      refine ⟨⟨rfl, rfl⟩, ?_⟩
      rintro rfl
      simp at hlength
    · rintro ⟨⟨rfl, rfl⟩, hne⟩
      have hlength : 0 < names.length := List.length_pos_iff.mpr hne
      simp [hlength]

/-- Different nodes are different files below a location. -/
lemma nodup_filesBelow {t : FileTree} (h : (t.nodes.map Prod.fst).Nodup) (base : Location) :
    ((t.filesBelow base).map Prod.fst).Nodup := by
  refine List.pairwise_map.mpr ((List.pairwise_map.mp h).filterMap (fileBelow? base) ?_)
  intro a b hab f hf g hg heq
  apply hab
  rw [(fileBelow?_eq_some.mp hf).1, (fileBelow?_eq_some.mp hg).1, heq]

end FileTree

/-! ### Walks in two orders -/

section Walks

variable {t t' : FileTree}

lemma Ignore.sameRules_of_reordered (h : t.Reordered t') (repositories : Bool) (dir : Location) :
    SameRules t t' repositories dir := by
  have hfile : ∀ dir name, Source.inDirectory? t' dir name = Source.inDirectory? t dir name := by
    intro dir name
    rw [Source.inDirectory?, Source.inDirectory?, h.node?_eq]
  have hline : ∀ path, firstLineAt t' path = firstLineAt t path := by
    intro path
    rw [firstLineAt, firstLineAt, h.locate_eq, h.node?_eq]
  have hpath : ∀ path, Source.atPath? t' path = Source.atPath? t path := by
    intro path
    rw [Source.atPath?, Source.atPath?, h.locate_eq, h.node?_eq]
  refine ⟨hfile dir _, fun _ => hfile dir _, fun _ => ?_, fun _ => ?_⟩
  · rw [isRepository, isRepository, h.node?_eq]
  · simp only [excludeFile, sharedDirectory, h.node?_eq, hfile, hline, hpath]

lemma Ignore.isIgnoredBelow_of_reordered (h : t.Reordered t') (repositories : Bool) (root : String)
    (base : Location) (names : List String) :
    isIgnoredBelow t' repositories root base names =
      isIgnoredBelow t repositories root base names :=
  isIgnoredBelow_congr (fun dir _ => sameRules_of_reordered h repositories dir) names

namespace Scan

variable {s : Scan}

lemma walk_perm (h : t.Reordered t') (root : Location) :
    (s.walk t' root).Perm (s.walk t root) := by
  unfold walk
  rw [h.node?_eq]
  split
  · exact List.Perm.refl _
  · simp only [Ignore.isIgnoredBelow_of_reordered h]
    exact (h.filesBelow_perm root).filter _

lemma nodup_walk (h : (t.nodes.map Prod.fst).Nodup) (root : Location) :
    ((s.walk t root).map Prod.fst).Nodup := by
  unfold walk
  split
  · exact List.nodup_singleton _
  · exact (FileTree.nodup_filesBelow h root).sublist (List.filter_sublist.map _)

lemma defects_of_reordered (h : t.Reordered t') (root : Location) :
    s.defects t' root = s.defects t root := by
  rw [defects, defects, h.isDirectory_eq,
    Ignore.defectsAbove_congr fun dir _ => Ignore.sameRules_of_reordered h s.gitignore dir]

/-- A node is met on a walk. -/
def meets (s : Scan) (t : FileTree) (root : Location) (node : Location × Node) : Bool :=
  match FileTree.fileBelow? root node with
  | some f => !Ignore.isIgnoredBelow t s.gitignore s.root root f.1
  | none => false

lemma walk_eq_filterMap {root : Location} (hroot : t.file? root = none) :
    s.walk t root = (t.nodes.filter (s.meets t root)).filterMap (FileTree.fileBelow? root) := by
  rw [walk_of_file?_eq_none hroot, FileTree.filesBelow]
  induction t.nodes with
  | nil => rfl
  | cons node nodes ih =>
    cases hnode : FileTree.fileBelow? root node with
    | none => simp [meets, hnode, ih]
    | some f =>
      by_cases hf : Ignore.isIgnoredBelow t s.gitignore s.root root f.1 = true
      · simp [meets, hnode, hf, ih]
      · simp [meets, hnode, hf, ih]

/-- The node of a file below a location. -/
def nodeOf (root : Location) (f : List String × Content) : Location × Node :=
  (root ++ f.1, .file f.2)

lemma map_nodeOf_walk {root : Location} (hroot : t.file? root = none) :
    (s.walk t root).map (nodeOf root) = t.nodes.filter (s.meets t root) := by
  have hnode : ∀ node ∈ t.nodes.filter (s.meets t root),
      (FileTree.fileBelow? root node).map (nodeOf root) = some node := by
    intro node hmem
    have hmeets := (List.mem_filter.mp hmem).2
    cases hfile : FileTree.fileBelow? root node with
    | none => simp [meets, hfile] at hmeets
    | some f => rw [Option.map_some, nodeOf, (FileTree.fileBelow?_eq_some.mp hfile).1]
  rw [walk_eq_filterMap hroot, List.map_filterMap, List.filterMap_congr hnode, List.filterMap_some]

/-- Every order of the files that a walk meets is the order of the walk in some listing of the
tree. -/
theorem exists_walk_eq (h : (t.nodes.map Prod.fst).Nodup) {root : Location}
    {files : List (List String × Content)} (hfiles : files.Perm (s.walk t root)) :
    ∃ t', t.Reordered t' ∧ s.walk t' root = files := by
  cases hroot : t.file? root with
  | some c =>
    rw [walk_of_file (FileTree.file?_eq_some.mp hroot)] at hfiles
    refine ⟨t, ⟨rfl, List.Perm.refl _, h⟩, ?_⟩
    rw [walk_of_file (FileTree.file?_eq_some.mp hroot), List.perm_singleton.mp hfiles]
  | none =>
    -- The files stand first, in the order asked for, and all other nodes follow.
    let t' : FileTree :=
      { t with nodes := files.map (nodeOf root) ++ t.nodes.filter fun n => !s.meets t root n }
    have hnodes : t'.nodes.Perm t.nodes := by
      refine ((hfiles.map (nodeOf root)).append_right _).trans ?_
      rw [map_nodeOf_walk hroot]
      exact List.filter_append_perm _ _
    have hreordered : t.Reordered t' := ⟨rfl, hnodes, h⟩
    have hroot' : t'.file? root = none := by
      rw [FileTree.file?_eq_none_iff, hreordered.node?_eq, ← FileTree.file?_eq_none_iff, hroot]
    have hmeets : s.meets t' root = s.meets t root := by
      funext node
      simp only [meets, Ignore.isIgnoredBelow_of_reordered hreordered]
    have hfile : ∀ f ∈ files, nodeOf root f ∈ t.nodes.filter (s.meets t root) := by
      intro f hf
      rw [← map_nodeOf_walk hroot]
      exact List.mem_map_of_mem (hfiles.mem_iff.mp hf)
    have hbelow : ∀ f ∈ files, FileTree.fileBelow? root (nodeOf root f) = some f := by
      intro f hf
      have hwalk := hfiles.mem_iff.mp hf
      rw [walk_eq_filterMap hroot] at hwalk
      obtain ⟨node, -, hnode⟩ := List.mem_filterMap.mp hwalk
      rw [← hnode, nodeOf, (FileTree.fileBelow?_eq_some.mp hnode).1]
    have hkept : t'.nodes.filter (s.meets t root) = files.map (nodeOf root) := by
      rw [List.filter_append, List.filter_filter, List.filter_eq_self.mpr, List.filter_eq_nil_iff.mpr,
        List.append_nil]
      · intro node _
        simp
      · intro node hnode
        obtain ⟨f, hf, rfl⟩ := List.mem_map.mp hnode
        exact (List.mem_filter.mp (hfile f hf)).2
    refine ⟨t', hreordered, ?_⟩
    have hback : files.filterMap (FileTree.fileBelow? root ∘ nodeOf root) = files.filterMap some :=
      List.filterMap_congr hbelow
    rw [walk_eq_filterMap hroot', hmeets, hkept, List.filterMap_map, hback, List.filterMap_some]

end Scan

end Walks

/-! ### The order of paths -/

namespace Scan

variable {s : Scan} {files : List (List String × Content)}

lemma precedes_iff (a b : List String) : precedes a b = true ↔ a < b ∨ a = b := by
  induction a generalizing b with
  | nil => cases b <;> simp [precedes]
  | cons x a ih =>
    cases b with
    | nil => simp [precedes]
    | cons y b =>
      rw [precedes, List.cons_lt_cons_iff, List.cons.injEq]
      by_cases hxy : x = y
      · subst hxy
        simp [ih]
      · simp [hxy]

/-- A file stands before another one, or both have the same path. -/
def Before (f g : Found) : Prop := precedes f.names g.names = true

instance : DecidableRel Before :=
  fun f g => inferInstanceAs (Decidable (precedes f.names g.names = true))

instance : Std.Total Before where
  total f g := by
    rw [Before, Before, precedes_iff, precedes_iff]
    rcases lt_trichotomy f.names g.names with h | h | h
    · exact Or.inl (Or.inl h)
    · exact Or.inl (Or.inr h)
    · exact Or.inr (Or.inl h)

instance : IsTrans Found Before where
  trans f g k hfg hgk := by
    rw [Before, precedes_iff] at hfg hgk ⊢
    rcases hfg with hfg | hfg
    · rcases hgk with hgk | hgk
      · exact Or.inl (lt_trans hfg hgk)
      · exact Or.inl (hgk ▸ hfg)
    · rwa [hfg]

lemma insertFound_eq_orderedInsert (f : Found) (gs : List Found) :
    insertFound f gs = gs.orderedInsert Before f := by
  induction gs with
  | nil => rfl
  | cons g gs ih =>
    rw [insertFound, List.orderedInsert_cons, ih]
    rfl

lemma sort_eq_insertionSort (found : List Found) : sort found = found.insertionSort Before := by
  have hinsert : insertFound = List.orderedInsert Before := by
    funext f gs
    exact insertFound_eq_orderedInsert f gs
  rw [sort, hinsert]
  rfl

lemma sort_perm (found : List Found) : (sort found).Perm found := by
  rw [sort_eq_insertionSort]
  exact List.perm_insertionSort _ _

variable {found found' : List Found}

/-- Where no two files have the same path, the order is strict. -/
lemma sort_increasing (h : (found.map Found.names).Nodup) :
    (sort found).Pairwise fun f g => f.names < g.names := by
  have hdistinct : (sort found).Pairwise fun f g => f.names ≠ g.names :=
    List.pairwise_map.mp (((sort_perm found).map Found.names).nodup_iff.mpr h)
  have hsorted : (sort found).Pairwise Before := by
    rw [sort_eq_insertionSort]
    exact List.pairwise_insertionSort _ _
  refine (hsorted.and hdistinct).imp ?_
  rintro f g ⟨hbefore, hne⟩
  exact ((precedes_iff f.names g.names).mp hbefore).resolve_right hne

/-- There is one strict order of the same files. -/
theorem sort_eq_of_perm (h : (found.map Found.names).Nodup) (hperm : found'.Perm found) :
    sort found' = sort found := by
  have hdistinct' : (found'.map Found.names).Nodup := (hperm.map Found.names).nodup_iff.mpr h
  refine List.Perm.eq_of_pairwise ?_ (sort_increasing hdistinct') (sort_increasing h) ?_
  · intro f g _ _ hfg hgf
    exact absurd hgf (lt_asymm hfg)
  · exact (sort_perm found').trans (hperm.trans (sort_perm found).symm)

/-! ### What a scan reads -/

/-- A file as a walk meets it. -/
def asMet (f : Found) : List String × Content := (f.names, .text f.content)

/-- What is found of a file that a walk meets, which is nothing unless it is a selected text. -/
def found? (s : Scan) : List String × Content → Option Found
  | (names, .text text) => if s.selects names then some ⟨names, s.pathOf names, text⟩ else none
  | (_, .binary _) => none

lemma found?_eq_some {file : List String × Content} {f : Found} (h : s.found? file = some f) :
    file = asMet f ∧ f.path = s.pathOf f.names := by
  obtain ⟨names, content⟩ := file
  cases content with
  | binary bytes => cases h
  | text text =>
    rw [found?] at h
    split_ifs at h
    cases h
    exact ⟨rfl, rfl⟩

/-- All selected files are texts. -/
def Readable (s : Scan) (files : List (List String × Content)) : Prop :=
  ∀ f ∈ files, s.selects f.1 = true → ∃ text, f.2 = .text text

lemma readable_cons {file : List String × Content} :
    s.Readable (file :: files) ↔
      (s.selects file.1 = true → ∃ text, file.2 = .text text) ∧ s.Readable files :=
  List.forall_mem_cons

lemma found?_of_not_selects {names : List String} (h : s.selects names = false)
    (content : Content) : s.found? (names, content) = none := by
  cases content <;> simp [found?, h]

lemma found?_of_selects {names : List String} (h : s.selects names = true) (text : String) :
    s.found? (names, .text text) = some ⟨names, s.pathOf names, text⟩ := by
  rw [found?, if_pos h]

/-- Reading succeeds exactly if all selected files are texts. -/
lemma collect_eq_ok_iff :
    s.collect files = .ok found ↔ s.Readable files ∧ found = files.filterMap s.found? := by
  induction files generalizing found with
  | nil =>
    constructor
    · intro h
      cases h
      exact ⟨fun f hf => absurd hf List.not_mem_nil, rfl⟩
    · rintro ⟨-, rfl⟩
      rfl
  | cons file files ih =>
    obtain ⟨names, content⟩ := file
    rw [readable_cons]
    cases hselects : s.selects names with
    | false =>
      rw [List.filterMap_cons_none (found?_of_not_selects hselects content)]
      simp [collect, hselects, ih]
    | true =>
      cases content with
      | binary bytes => simp [collect, hselects]
      | text text =>
        rw [List.filterMap_cons_some (found?_of_selects hselects text), collect, if_pos hselects]
        constructor
        · intro h
          obtain ⟨rest, hrest, rfl⟩ := Definition.exists_of_map_eq_ok h
          obtain ⟨hreadable, rfl⟩ := ih.mp hrest
          exact ⟨⟨fun _ => ⟨text, rfl⟩, hreadable⟩, rfl⟩
        · rintro ⟨⟨-, hreadable⟩, rfl⟩
          rw [ih.mpr ⟨hreadable, rfl⟩]
          rfl

lemma map_asMet_filterMap (h : s.Readable files) :
    (files.filterMap s.found?).map asMet = files.filter fun f => s.selects f.1 := by
  induction files with
  | nil => rfl
  | cons file files ih =>
    obtain ⟨names, content⟩ := file
    obtain ⟨hfile, hfiles⟩ := readable_cons.mp h
    cases hselects : s.selects names with
    | false =>
      rw [List.filterMap_cons_none (found?_of_not_selects hselects content), ih hfiles]
      simp [hselects]
    | true =>
      obtain ⟨text, rfl⟩ := hfile hselects
      rw [List.filterMap_cons_some (found?_of_selects hselects text), List.map_cons, ih hfiles]
      simp [hselects, asMet]

/-- Files with different names are found with different names. -/
lemma nodup_names_filterMap (h : (files.map Prod.fst).Nodup) :
    ((files.filterMap s.found?).map Found.names).Nodup := by
  refine List.pairwise_map.mpr ((List.pairwise_map.mp h).filterMap s.found? ?_)
  intro a b hab f hf g hg heq
  apply hab
  rw [(found?_eq_some hf).1, (found?_eq_some hg).1, asMet, asMet, heq]

lemma selects_iff (s : Scan) (names : List String) :
    s.selects names = true ↔
      Path.extension? (s.pathOf names) = some "json" ∧
        ∀ g ∈ s.filter, g.accepts ("/".intercalate names) = true := by
  unfold selects Path.isDefinitionFile
  cases s.filter with
  | none => simp
  | some g => simp

variable {t t' : FileTree}

/-- What a scan has done that succeeds. -/
lemma find_eq_ok_iff :
    s.find t = .ok found ↔ ∃ root, t.locate s.root = .ok root ∧
      (s.isStandardInput = true ∧ found = [] ∨
        s.isStandardInput = false ∧ s.defects t root = [] ∧ s.Readable (s.walk t root) ∧
          found = sort ((s.walk t root).filterMap s.found?)) := by
  unfold find
  constructor
  · intro h
    split at h
    · cases h
    · rename_i root hroot
      refine ⟨root, hroot, ?_⟩
      split at h
      · rename_i hinput
        cases h
        exact Or.inl ⟨hinput, rfl⟩
      · rename_i hinput
        split at h
        · rename_i hdefects
          obtain ⟨fs, hfs, rfl⟩ := Definition.exists_of_map_eq_ok h
          obtain ⟨hreadable, rfl⟩ := collect_eq_ok_iff.mp hfs
          exact Or.inr ⟨Bool.eq_false_iff.mpr hinput, hdefects, hreadable, rfl⟩
        · cases h
  · rintro ⟨root, hroot, ⟨hinput, rfl⟩ | ⟨hinput, hdefects, hreadable, rfl⟩⟩
    · simp [hroot, hinput]
    · simp [hroot, hinput, hdefects, collect_eq_ok_iff.mpr ⟨hreadable, rfl⟩, Except.map]

theorem find_of_reordered (h : t.Reordered t') (hfind : s.find t = .ok found) :
    s.find t' = .ok found := by
  obtain ⟨root, hroot, hfound⟩ := find_eq_ok_iff.mp hfind
  refine find_eq_ok_iff.mpr ⟨root, by rw [h.locate_eq, hroot], ?_⟩
  rcases hfound with hfound | ⟨hinput, hdefects, hreadable, rfl⟩
  · exact Or.inl hfound
  · have hwalk := walk_perm (s := s) h root
    refine Or.inr ⟨hinput, by rw [defects_of_reordered h, hdefects], ?_, ?_⟩
    · intro f hf
      exact hreadable f (hwalk.mem_iff.mp hf)
    · exact (sort_eq_of_perm (nodup_names_filterMap (nodup_walk h.distinct root))
        (hwalk.filterMap _)).symm

lemma run_eq_ok_iff : s.run t = .ok found ↔ s.find t = .ok found ∧ found ≠ [] := by
  unfold run
  cases s.find t with
  | error e => simp [bind, Except.bind]
  | ok found' =>
    cases found' with
    | nil =>
      simp only [bind, Except.bind, List.isEmpty_nil, if_true]
      constructor
      · intro h
        cases h
      · rintro ⟨h, hne⟩
        cases h
        exact absurd rfl hne
    | cons f fs =>
      constructor
      · intro h
        cases h
        exact ⟨rfl, List.cons_ne_nil f fs⟩
      · rintro ⟨h, -⟩
        cases h
        rfl

lemma run_of_reordered (h : t.Reordered t') (hrun : s.run t = .ok found) :
    s.run t' = .ok found := by
  obtain ⟨hfind, hne⟩ := run_eq_ok_iff.mp hrun
  exact run_eq_ok_iff.mpr ⟨find_of_reordered h hfind, hne⟩

/-- A scan that succeeds has read the selected files of a walk, each once and in strict order. -/
lemma exists_of_run (h : (t.nodes.map Prod.fst).Nodup) (hrun : s.run t = .ok found) :
    ∃ root, t.locate s.root = .ok root ∧
      (found.map asMet).Perm ((s.walk t root).filter fun f => s.selects f.1) ∧
      (∀ f ∈ found, f.path = s.pathOf f.names) ∧ found.Pairwise fun f g => f.names < g.names := by
  obtain ⟨hfind, hne⟩ := run_eq_ok_iff.mp hrun
  obtain ⟨root, hroot, hfound⟩ := find_eq_ok_iff.mp hfind
  rcases hfound with ⟨-, rfl⟩ | ⟨-, -, hreadable, rfl⟩
  · exact absurd rfl hne
  · refine ⟨root, hroot, ?_, ?_, ?_⟩
    · rw [← map_asMet_filterMap hreadable]
      exact (sort_perm _).map asMet
    · intro f hf
      obtain ⟨file, -, hfile⟩ := List.mem_filterMap.mp ((sort_perm _).mem_iff.mp hf)
      exact (found?_eq_some hfile).2
    · exact sort_increasing (nodup_names_filterMap (nodup_walk h root))

end Scan

/-! ### Which definition wins -/

namespace SourceFile

/-- The definitions of a file, none if it does not load. -/
def yields (f : SourceFile) : List Loaded := f.load.toOption.getD []

/-- The last definition of a name in a file. -/
def lastNamed? (f : SourceFile) (name : String) : Option Definition :=
  (f.yields.filter fun d => d.name = name).getLast?.map Loaded.definition

lemma loadedOf_concat (fs : List SourceFile) (f : SourceFile) :
    loadedOf (fs ++ [f]) = loadedOf fs ++ f.yields := by
  have hadd : loadAll (fs ++ [f]) = (loadAll fs).add f := by
    rw [loadAll, List.foldl_append]
    rfl
  rw [loadedOf, hadd, Loading.add, yields]
  cases f.load with
  | ok ds => rfl
  | error e => exact (List.append_nil _).symm

/-- The last file that defines a name decides its definition. -/
theorem find?_ofLoaded_loadedOf (fs : List SourceFile) (name : String) :
    (Registry.ofLoaded (loadedOf fs)).find? name = fs.reverse.findSome? fun f => f.lastNamed? name := by
  induction fs using List.reverseRecOn with
  | nil => rfl
  | append_singleton fs f ih =>
    rw [Registry.find?_ofLoaded] at ih ⊢
    rw [loadedOf_concat, List.filter_append, List.getLast?_append, Option.map_or, ih,
      List.reverse_append, List.reverse_singleton, List.singleton_append, List.findSome?_cons]
    rw [← lastNamed?]
    cases f.lastNamed? name <;> rfl

end SourceFile

namespace Build

variable {t t' : FileTree}

lemma scan_of_reordered (h : t.Reordered t') {c : Config} {found : List Found}
    (hscan : scan c t = .ok found) : scan c t' = .ok found := by
  unfold scan at hscan ⊢
  cases hfilter : Scan.parseFilter c.input.pattern with
  | error e =>
    rw [hfilter] at hscan
    cases hscan
  | ok filter =>
    rw [hfilter] at hscan
    exact Scan.find_of_reordered h hscan

end Build

/-- For two orders in which the files of a tree may be listed, which give every order of what a walk
meets, a scan that succeeds finds the same files: those that are selected, each once, strictly
increasing by path components. So the same definition wins for every name, that of the last file that
has one, and a build gives the same module. -/
theorem scan_ignores_order {t t' : FileTree} (h : t.Reordered t') (s : Scan) (c : Config) :
    (∀ root, (s.walk t' root).Perm (s.walk t root) ∧ ((s.walk t root).map Prod.fst).Nodup ∧
      ∀ files, files.Perm (s.walk t root) → ∃ u, t.Reordered u ∧ s.walk u root = files) ∧
    (∀ names, s.selects names = true ↔
      Path.extension? (s.pathOf names) = some "json" ∧
        ∀ g ∈ s.filter, g.accepts ("/".intercalate names) = true) ∧
    (∀ found, s.run t = .ok found →
      s.run t' = .ok found ∧
      (∃ root, t.locate s.root = .ok root ∧
        (found.map fun f => (f.names, Content.text f.content)).Perm
          ((s.walk t root).filter fun f => s.selects f.1)) ∧
      (∀ f ∈ found, f.path = s.pathOf f.names) ∧
      found.Pairwise fun f g => f.names < g.names) ∧
    (∀ found, Build.scan c t = .ok found →
      Build.scan c t' = .ok found ∧
      (∀ name, (Registry.ofLoaded (SourceFile.loadedOf (Build.sources found))).find? name =
        (Build.sources found).reverse.findSome? fun f => f.lastNamed? name) ∧
      Build.run c t' = Build.run c t) := by
  refine ⟨?_, s.selects_iff, ?_, ?_⟩
  · intro root
    exact ⟨Scan.walk_perm h root, Scan.nodup_walk h.distinct root,
      fun files hfiles => Scan.exists_walk_eq h.distinct hfiles⟩
  · intro found hfound
    obtain ⟨root, hroot, hselected, hpaths, hincreasing⟩ := Scan.exists_of_run h.distinct hfound
    exact ⟨Scan.run_of_reordered h hfound, ⟨root, hroot, hselected⟩, hpaths, hincreasing⟩
  · intro found hfound
    have hfound' := Build.scan_of_reordered h hfound
    rw [Build.run, Build.run, hfound, hfound']
    exact ⟨rfl, SourceFile.find?_ofLoaded_loadedOf _, rfl⟩

/-- A file inside a directory comes before one whose name goes on behind that of the directory, and
so it is the other one that decides what a name means that both define. -/
theorem scan_ignores_order_of_nested :
    let inner := "\x7b\"N\": \x7b\"type\": \"string\"\x7d\x7d"
    let outer := "\x7b\"N\": \x7b\"type\": \"null\"\x7d\x7d"
    let files : List (Location × Node) :=
      [(["w", "definitions", "a", "c.json"], .file (.text inner)),
        (["w", "definitions", "a-b.json"], .file (.text outer))]
    let directories : List (Location × Node) :=
      [(["w"], .directory), (["w", "definitions"], .directory),
        (["w", "definitions", "a"], .directory)]
    let t : FileTree := ⟨["w"], directories ++ files⟩
    let t' : FileTree := ⟨["w"], files.reverse ++ directories⟩
    let found : List Found :=
      [⟨["a", "c.json"], "./definitions/a/c.json", inner⟩,
        ⟨["a-b.json"], "./definitions/a-b.json", outer⟩]
    t.Reordered t' ∧ (⟨"./definitions", true, none⟩ : Scan).run t' = .ok found ∧
      Build.scan {} t' = .ok found ∧
      (Registry.ofLoaded (SourceFile.loadedOf (Build.sources found))).find? "N" =
        (Build.sources found).reverse.findSome? fun f => f.lastNamed? "N" := by
  intro inner outer files directories t t' found
  have h : t.Reordered t' := ⟨rfl, by decide +kernel, by decide +kernel⟩
  have hrun : (⟨"./definitions", true, none⟩ : Scan).run t = .ok found := by decide +kernel
  have hscan : Build.scan {} t = .ok found := by decide +kernel
  obtain ⟨-, -, hsame, hbuild⟩ := scan_ignores_order h ⟨"./definitions", true, none⟩ {}
  obtain ⟨hscan', hwins, -⟩ := hbuild found hscan
  exact ⟨h, (hsame found hrun).1, hscan', hwins "N"⟩

end SchemaForge
