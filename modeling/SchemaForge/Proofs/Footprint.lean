import SchemaForge.Command.Run
import SchemaForge.Proofs.TreeGrowth

/-!
# Footprints

What loading a configuration and scanning look at in a file tree: the files that they read, and the
places where they only ask whether there is something. A tree that grows elsewhere gives the same
configuration and the same definition files.
-/

namespace SchemaForge

namespace FileTree

/-- A tree grows apart from what is read and what is probed: the file that may change is not read,
and nothing appears at a place that is probed. -/
structure GrowsApart (target : Location) (reads probes : Location → Prop) (t t' : FileTree) :
    Prop extends Grows target t t' where
  unread : ¬reads target
  unprobed : ∀ l, probes l → (t'.node? l).isSome = (t.node? l).isSome

namespace GrowsApart

variable {target : Location} {reads probes reads' probes' : Location → Prop} {t t' : FileTree}

lemma mono (h : GrowsApart target reads probes t t') (hreads : ∀ l, reads' l → reads l)
    (hprobes : ∀ l, probes' l → probes l) : GrowsApart target reads' probes' t t' where
  toGrows := h.toGrows
  unread := fun hread => h.unread (hreads target hread)
  unprobed := fun l hl => h.unprobed l (hprobes l hl)

lemma file?_of_reads (h : GrowsApart target reads probes t t') {l : Location} (hl : reads l) :
    t'.file? l = t.file? l := by
  apply h.file?_eq
  rintro rfl
  exact h.unread hl

lemma node?_of_reads (h : GrowsApart target reads probes t t') {l : Location} (hl : reads l)
    (hl' : probes l) : t'.node? l = t.node? l := by
  refine h.node?_eq ?_ (h.unprobed l hl')
  rintro rfl
  exact h.unread hl

lemma isDirectory_eq (h : GrowsApart target reads probes t t') {l : Location} (hl : probes l) :
    t'.isDirectory l = t.isDirectory l := by
  by_cases hdir : t.isDirectory l = true
  · rw [hdir, h.isDirectory hdir]
  · have hdir' := h.not_isDirectory hdir (h.unprobed l hl)
    simp only [Bool.not_eq_true] at hdir hdir'
    rw [hdir, hdir']

/-- Where there was no file, none appears. -/
lemma file?_eq_none (h : GrowsApart target reads probes t t') {l : Location} (hl : probes l)
    (hfile : t.file? l = none) : t'.file? l = none := by
  rw [file?_eq_none_iff] at hfile ⊢
  intro c hnode'
  have hsome := h.unprobed l hl
  rw [hnode'] at hsome
  cases hnode : t.node? l with
  | none => simp [hnode] at hsome
  | some n =>
    cases n with
    | file c => exact hfile c hnode
    | directory =>
      have hdir := h.isDirectory (l := l) (by simp [FileTree.isDirectory, hnode])
      simp [FileTree.isDirectory, hnode'] at hdir

end GrowsApart

end FileTree

open FileTree (GrowsApart)

variable {target : Location} {t t' : FileTree}

/-! ### Configurations -/

namespace Config

/-- The place at which the configuration is looked up. -/
def Consults (t : FileTree) (path : Option String) (l : Location) : Prop :=
  t.reached? (path.getD defaultFile) = some l

theorem load_congr {path : Option String}
    (h : GrowsApart target (Consults t path) (Consults t path) t t') :
    load t' path = load t path := by
  have hlocate : t'.locate (path.getD defaultFile) = t.locate (path.getD defaultFile) :=
    FileTree.locate_congr h.toGrows fun l hl => h.unprobed l hl
  have hread : t'.readText (path.getD defaultFile) = t.readText (path.getD defaultFile) := by
    apply FileTree.readText_congr h.toGrows
    intro l hl
    refine ⟨?_, h.unprobed l hl⟩
    rintro rfl
    exact h.unread hl
  unfold load FileTree.pathExists
  dsimp only
  rw [hlocate, hread]

end Config

namespace Ignore

/-! ### Rules of a directory -/

/-- The paths on which a linked repository is asked for the rules that it keeps apart. -/
inductive LinksTo (t : FileTree) (dir : Location) : String → Prop where
  | shared {link : Content} {line linked : String} :
      t.file? (dir ++ [".git"]) = some link → firstLine link = .ok (some line) →
        linkTarget? line = some linked → LinksTo t dir (Path.join linked "commondir")
  | rules {link : Content} {shared : String} :
      t.file? (dir ++ [".git"]) = some link → sharedDirectory t dir link = .ok (some shared) →
        LinksTo t dir (Path.join shared "info/exclude")

/-- The places at which these paths end. -/
def Linked (t : FileTree) (dir l : Location) : Prop :=
  ∃ path, LinksTo t dir path ∧ t.reached? path = some l

/-- The rules of a directory are read from the file at a place, if there is one. -/
def ReadsRules (t : FileTree) (repositories : Bool) (dir l : Location) : Prop :=
  l = dir ++ [".ignore"] ∨
    repositories = true ∧
      (l = dir ++ [".gitignore"] ∨ l = dir ++ [".git"] ∨ l = dir ++ [".git", "info", "exclude"] ∨
        Linked t dir l)

/-- Whether there is something at a place decides which rules a directory has. -/
def ProbesRules (t : FileTree) (repositories : Bool) (dir l : Location) : Prop :=
  repositories = true ∧ (l = dir ++ [".git"] ∨ l = dir ++ [".jj"] ∨ Linked t dir l)

/-- Two trees have the same rules in a directory. -/
structure SameRules (t t' : FileTree) (repositories : Bool) (dir : Location) : Prop where
  ignoreFile : ignoreFile? t' dir = ignoreFile? t dir
  repositoryFile : repositories = true → repositoryFile? t' dir = repositoryFile? t dir
  repository : repositories = true → isRepository t' dir = isRepository t dir
  exclude : repositories = true → excludeFile t' dir = excludeFile t dir

lemma inDirectory?_congr {dir : Location} {name : String}
    (h : t'.file? (dir ++ [name]) = t.file? (dir ++ [name])) :
    Source.inDirectory? t' dir name = Source.inDirectory? t dir name := by
  have hfile : ∀ t : FileTree, Source.inDirectory? t dir name =
      (t.file? (dir ++ [name])).map fun c => ⟨Path.below "/" (dir ++ [name]), c.lines⟩ := by
    intro t
    unfold Source.inDirectory? FileTree.file?
    split <;> simp_all
  rw [hfile, hfile, h]

section Linked

variable {dir : Location} {path : String}

lemma locate_of_linksTo
    (h : GrowsApart target (ReadsRules t true dir) (ProbesRules t true dir) t t')
    (hpath : LinksTo t dir path) :
    t'.locate path = t.locate path ∧
      ∀ here, t.locate path = .ok here → t'.node? here = t.node? here := by
  have hreads : ∀ l, t.reached? path = some l → ReadsRules t true dir l :=
    fun l hl => Or.inr ⟨rfl, Or.inr (Or.inr (Or.inr ⟨path, hpath, hl⟩))⟩
  have hprobes : ∀ l, t.reached? path = some l → ProbesRules t true dir l :=
    fun l hl => ⟨rfl, Or.inr (Or.inr ⟨path, hpath, hl⟩)⟩
  constructor
  · exact FileTree.locate_congr h.toGrows fun l hl => h.unprobed l (hprobes l hl)
  · intro here hlocate
    have hhere := FileTree.reached?_of_locate hlocate
    exact h.node?_of_reads (hreads here hhere) (hprobes here hhere)

lemma firstLineAt_congr
    (h : GrowsApart target (ReadsRules t true dir) (ProbesRules t true dir) t t')
    (hpath : LinksTo t dir path) : firstLineAt t' path = firstLineAt t path := by
  obtain ⟨hlocate, hnode⟩ := locate_of_linksTo h hpath
  unfold firstLineAt
  rw [hlocate]
  cases hhere : t.locate path with
  | error e => rfl
  | ok here => simp only [hnode here hhere]

lemma atPath?_congr
    (h : GrowsApart target (ReadsRules t true dir) (ProbesRules t true dir) t t')
    (hpath : LinksTo t dir path) : Source.atPath? t' path = Source.atPath? t path := by
  obtain ⟨hlocate, hnode⟩ := locate_of_linksTo h hpath
  unfold Source.atPath?
  rw [hlocate]
  cases hhere : t.locate path with
  | error e => rfl
  | ok here => simp only [hnode here hhere]

lemma sharedDirectory_congr
    (h : GrowsApart target (ReadsRules t true dir) (ProbesRules t true dir) t t') {link : Content}
    (hlink : t.file? (dir ++ [".git"]) = some link) :
    sharedDirectory t' dir link = sharedDirectory t dir link := by
  unfold sharedDirectory
  cases hline : firstLine link with
  | error e => rfl
  | ok line? =>
    cases line? with
    | none => rfl
    | some line =>
      cases htarget : linkTarget? line with
      | none => simp only [Except.mapError, bind, Except.bind, Option.bind, htarget]
      | some linked =>
        have hcommon := firstLineAt_congr h (LinksTo.shared hlink hline htarget)
        simp only [Except.mapError, bind, Except.bind, Option.bind, htarget, hcommon]

lemma excludeFile_congr
    (h : GrowsApart target (ReadsRules t true dir) (ProbesRules t true dir) t t') :
    excludeFile t' dir = excludeFile t dir := by
  have hgit : t'.node? (dir ++ [".git"]) = t.node? (dir ++ [".git"]) :=
    h.node?_of_reads (Or.inr ⟨rfl, Or.inr (Or.inl rfl)⟩) ⟨rfl, Or.inl rfl⟩
  have hexclude : Source.inDirectory? t' (dir ++ [".git", "info"]) "exclude" =
      Source.inDirectory? t (dir ++ [".git", "info"]) "exclude" := by
    apply inDirectory?_congr
    apply h.file?_of_reads
    exact Or.inr ⟨rfl, Or.inr (Or.inr (Or.inl (by simp)))⟩
  unfold excludeFile
  rw [hgit]
  cases hnode : t.node? (dir ++ [".git"]) with
  | none => simp only [hexclude]
  | some n =>
    cases n with
    | directory => simp only [hexclude]
    | file link =>
      have hlink : t.file? (dir ++ [".git"]) = some link := by simp [FileTree.file?, hnode]
      simp only [sharedDirectory_congr h hlink]
      cases hshared : sharedDirectory t dir link with
      | error e => rfl
      | ok shared? =>
        cases shared? with
        | none => rfl
        | some shared =>
          simp only [Except.map, Option.bind, atPath?_congr h (LinksTo.rules hlink hshared)]

end Linked

lemma sameRules_of_growsApart {repositories : Bool} {dir : Location}
    (h : GrowsApart target (ReadsRules t repositories dir) (ProbesRules t repositories dir) t t') :
    SameRules t t' repositories dir where
  ignoreFile := inDirectory?_congr (h.file?_of_reads (Or.inl rfl))
  repositoryFile := fun hrep =>
    inDirectory?_congr (h.file?_of_reads (Or.inr ⟨hrep, Or.inl rfl⟩))
  repository := by
    intro hrep
    unfold isRepository
    rw [h.unprobed _ ⟨hrep, Or.inl rfl⟩, h.unprobed _ ⟨hrep, Or.inr (Or.inl rfl)⟩]
  exclude := by
    rintro rfl
    exact excludeFile_congr h

/-! ### Walks -/

lemma defectsIn_congr {repositories : Bool} {dir : Location}
    (h : SameRules t t' repositories dir) :
    defectsIn t' repositories dir = defectsIn t repositories dir := by
  unfold defectsIn
  cases repositories with
  | false => simp [h.ignoreFile]
  | true => simp [h.ignoreFile, h.repositoryFile rfl, h.exclude rfl]

lemma defectsAbove_congr {repositories : Bool} {base : Location}
    (h : ∀ dir ∈ directoriesAbove base, SameRules t t' repositories dir) :
    defectsAbove t' repositories base = defectsAbove t repositories base := by
  unfold defectsAbove
  apply List.flatMap_congr
  intro dir hdir
  exact defectsIn_congr (h dir (List.mem_reverse.mp hdir))

lemma mem_of_mem_upTo {α : Type} {p : α → Bool} {xs : List α} {x : α} (h : x ∈ upTo p xs) :
    x ∈ xs := by
  unfold upTo at h
  split at h
  · rcases List.mem_append.mp h with h | h
    · exact (List.takeWhile_sublist _).subset h
    · exact List.mem_of_find?_eq_some (Option.mem_toList.mp h)
  · cases h

lemma upTo_congr {α : Type} {p q : α → Bool} {xs : List α} (h : ∀ x ∈ xs, p x = q x) :
    upTo p xs = upTo q xs := by
  have hparts : xs.any p = xs.any q ∧ xs.takeWhile (fun x => !p x) = xs.takeWhile (fun x => !q x) ∧
      xs.find? p = xs.find? q := by
    induction xs with
    | nil => exact ⟨rfl, rfl, rfl⟩
    | cons x xs ih =>
      obtain ⟨hx, hxs⟩ := List.forall_mem_cons.mp h
      obtain ⟨hany, htake, hfind⟩ := ih hxs
      simp only [List.any_cons, List.takeWhile_cons, List.find?_cons, hx, hany, htake, hfind,
        and_self]
  unfold upTo
  rw [hparts.1, hparts.2.1, hparts.2.2]

lemma nearest?_congr {rulesIn rulesIn' : Location → List Rule} {isDirectory : Bool}
    {vs : List View} (h : ∀ v ∈ vs, rulesIn' v.dir = rulesIn v.dir) :
    nearest? rulesIn' isDirectory vs = nearest? rulesIn isDirectory vs := by
  unfold nearest?
  induction vs with
  | nil => rfl
  | cons v vs ih =>
    rw [List.forall_mem_cons] at h
    simp only [List.findSome?_cons, h.1, ih h.2]

lemma excludeRules_congr {dir : Location} (h : excludeFile t' dir = excludeFile t dir) :
    excludeRules t' dir = excludeRules t dir := by
  unfold excludeRules
  rw [h]

variable {repositories : Bool} {root : String} {base : Location}

lemma isIgnored_congr {names : List String} (isDirectory : Bool)
    (h : ∀ v ∈ views root base names, SameRules t t' repositories v.dir) :
    isIgnored t' repositories root base names isDirectory =
      isIgnored t repositories root base names isDirectory := by
  unfold isIgnored
  have hignore : nearest? (fun dir => rulesOf (ignoreFile? t' dir)) isDirectory
        (views root base names) =
      nearest? (fun dir => rulesOf (ignoreFile? t dir)) isDirectory (views root base names) :=
    nearest?_congr fun v hv => by rw [(h v hv).ignoreFile]
  cases repositories with
  | false =>
    have hnone (rulesIn : Location → List Rule) : nearest? rulesIn isDirectory [] = none := rfl
    simp only [Bool.false_eq_true, if_false, hignore, hnone]
  | true =>
    have hinside : upTo (fun v => isRepository t' v.dir) (views root base names) =
        upTo (fun v => isRepository t v.dir) (views root base names) :=
      upTo_congr fun v hv => (h v hv).repository rfl
    have hrepository : nearest? (fun dir => rulesOf (repositoryFile? t' dir)) isDirectory
          (upTo (fun v => isRepository t v.dir) (views root base names)) =
        nearest? (fun dir => rulesOf (repositoryFile? t dir)) isDirectory
          (upTo (fun v => isRepository t v.dir) (views root base names)) :=
      nearest?_congr fun v hv => by rw [(h v (mem_of_mem_upTo hv)).repositoryFile rfl]
    have hexclude : nearest? (excludeRules t') isDirectory
          (upTo (fun v => isRepository t v.dir) (views root base names)) =
        nearest? (excludeRules t) isDirectory
          (upTo (fun v => isRepository t v.dir) (views root base names)) :=
      nearest?_congr fun v hv => excludeRules_congr ((h v (mem_of_mem_upTo hv)).exclude rfl)
    simp only [if_true, hignore, hinside, hrepository, hexclude]

lemma dir_of_mem_views {names : List String} {v : View} (h : v ∈ views root base names) :
    v.dir ∈ directoriesAbove base ∨ ∃ i < names.length, v.dir = base ++ names.take i := by
  unfold views at h
  rcases List.mem_append.mp h with h | h
  · right
    obtain ⟨i, hi, rfl⟩ := List.mem_map.mp (List.mem_reverse.mp h)
    exact ⟨i, List.mem_range.mp hi, rfl⟩
  · left
    obtain ⟨dir, hdir, rfl⟩ := List.mem_map.mp h
    exact hdir

/-- A walk enters a directory unless it, or one on the way to it, is ignored. -/
def Enters (t : FileTree) (repositories : Bool) (root : String) (base : Location)
    (names : List String) : Prop :=
  ∀ i < names.length, isIgnored t repositories root base (names.take (i + 1)) true = false

/-- A walk asks for the rules of the directories above its root and of those that it enters. -/
def Asks (t : FileTree) (repositories : Bool) (root : String) (base dir : Location) : Prop :=
  dir ∈ directoriesAbove base ∨ ∃ names, dir = base ++ names ∧ Enters t repositories root base names

lemma any_range_congr {n : Nat} {f g : Nat → Bool}
    (h : ∀ i < n, (∀ j < i, f j = false) → g i = f i) :
    (List.range n).any g = (List.range n).any f := by
  induction n with
  | zero => rfl
  | succ n ih =>
    have hinit := ih fun i hi => h i (by omega)
    rw [List.range_succ, List.any_append, List.any_append, hinit]
    by_cases hany : (List.range n).any f = true
    · simp [hany]
    · have hbefore : ∀ j < n, f j = false := by
        intro j hj
        by_contra hne
        exact hany (List.any_eq_true.mpr ⟨j, List.mem_range.mpr hj, by simpa using hne⟩)
      simp [h n (by omega) hbefore]

/-- What is below an ignored directory is ignored whatever the rules there say, so only the rules
that the walk asks for decide. -/
lemma isIgnoredBelow_congr
    (h : ∀ dir, Asks t repositories root base dir → SameRules t t' repositories dir)
    (names : List String) :
    isIgnoredBelow t' repositories root base names =
      isIgnoredBelow t repositories root base names := by
  unfold isIgnoredBelow
  apply any_range_congr
  intro i hi hbefore
  have henters : ∀ k ≤ i, Enters t repositories root base (names.take k) := by
    intro k hk j hj
    have hlength : j < k := by
      rw [List.length_take] at hj
      omega
    have hnot := hbefore j (by omega)
    rw [decide_eq_true (show j + 1 < names.length by omega)] at hnot
    rwa [List.take_take, Nat.min_eq_left (by omega)]
  apply isIgnored_congr
  intro v hv
  apply h
  rcases dir_of_mem_views hv with habove | ⟨k, hk, hdir⟩
  · exact Or.inl habove
  · right
    rw [List.length_take] at hk
    rw [List.take_take, Nat.min_eq_left (by omega)] at hdir
    exact ⟨_, hdir, henters k (by omega)⟩

end Ignore

/-! ### Scans -/

namespace Scan

variable {s : Scan}

/-- The directories whose rules a scan from a directory asks for. -/
def Asks (s : Scan) (t : FileTree) (root dir : Location) : Prop :=
  t.file? root = none ∧ Ignore.Asks t s.gitignore s.root root dir

/-- A scan reads the file at a place, if there is one: the root itself, the rules of a directory, or
a definition file below the root that is not ignored. -/
def Reads (s : Scan) (t : FileTree) (l : Location) : Prop :=
  s.isStandardInput = false ∧ ∃ root, t.locate s.root = .ok root ∧
    (l = root ∧ s.selects [] = true ∨
      (∃ dir, s.Asks t root dir ∧ Ignore.ReadsRules t s.gitignore dir l) ∨
      ∃ names, names ≠ [] ∧ l = root ++ names ∧ s.selects names = true ∧
        Ignore.isIgnoredBelow t s.gitignore s.root root names = false)

/-- A scan depends on whether there is something at a place. -/
def Probes (s : Scan) (t : FileTree) (l : Location) : Prop :=
  s.isStandardInput = false ∧ ∃ root, t.locate s.root = .ok root ∧
    (l = root ∨ ∃ dir, s.Asks t root dir ∧ Ignore.ProbesRules t s.gitignore dir l)

section Located

variable {root : Location}

lemma sameRules_of_asks (h : GrowsApart target (s.Reads t) (s.Probes t) t t')
    (hinput : s.isStandardInput = false) (hroot : t.locate s.root = .ok root)
    (hfile : t.file? root = none) {dir : Location}
    (hdir : Ignore.Asks t s.gitignore s.root root dir) :
    Ignore.SameRules t t' s.gitignore dir := by
  refine Ignore.sameRules_of_growsApart (h.mono ?_ ?_)
  · intro l hl
    exact ⟨hinput, root, hroot, Or.inr (Or.inl ⟨dir, ⟨hfile, hdir⟩, hl⟩)⟩
  · intro l hl
    exact ⟨hinput, root, hroot, Or.inr ⟨dir, ⟨hfile, hdir⟩, hl⟩⟩

lemma defects_congr (h : GrowsApart target (s.Reads t) (s.Probes t) t t')
    (hinput : s.isStandardInput = false) (hroot : t.locate s.root = .ok root) :
    s.defects t' root = s.defects t root := by
  unfold defects
  rw [h.isDirectory_eq ⟨hinput, root, hroot, Or.inl rfl⟩]
  by_cases hdir : t.isDirectory root = true
  · have hfile : t.file? root = none := by
      simp only [FileTree.isDirectory, decide_eq_true_eq] at hdir
      simp [FileTree.file?, hdir]
    rw [if_pos hdir, if_pos hdir]
    apply Ignore.defectsAbove_congr
    intro dir hmem
    exact sameRules_of_asks h hinput hroot hfile (Or.inl hmem)
  · rw [if_neg hdir, if_neg hdir]

lemma walk_of_file {c : Content} (h : t.node? root = some (.file c)) :
    s.walk t root = [([], c)] := by
  simp only [walk, h]

lemma walk_of_file?_eq_none (h : t.file? root = none) :
    s.walk t root =
      (t.filesBelow root).filter fun f =>
        !Ignore.isIgnoredBelow t s.gitignore s.root root f.1 := by
  unfold walk
  split
  · rename_i c hnode
    exact absurd hnode (FileTree.file?_eq_none_iff.mp h c)
  · rfl

/-- Files that are not selected are passed over. -/
lemma collect_filter (s : Scan) (files : List (List String × Content)) :
    s.collect (files.filter fun f => s.selects f.1) = s.collect files := by
  induction files with
  | nil => rfl
  | cons file files ih =>
    obtain ⟨names, content⟩ := file
    by_cases hselects : s.selects names = true
    · simp [collect, hselects, ih]
    · simp [collect, hselects, ih]

/-- What changed is not selected, or it is ignored. -/
lemma collect_walk_congr (h : GrowsApart target (s.Reads t) (s.Probes t) t t')
    (hinput : s.isStandardInput = false) (hroot : t.locate s.root = .ok root) :
    s.collect (s.walk t' root) = s.collect (s.walk t root) := by
  cases hfile : t.file? root with
  | some c =>
    obtain ⟨c', hfile'⟩ := Option.isSome_iff_exists.mp (h.isSome_file? (l := root) (by simp [hfile]))
    rw [walk_of_file (FileTree.file?_eq_some.mp hfile),
      walk_of_file (FileTree.file?_eq_some.mp hfile')]
    by_cases hselects : s.selects [] = true
    · have hsame := h.file?_of_reads ⟨hinput, root, hroot, Or.inl ⟨rfl, hselects⟩⟩
      rw [hfile, hfile'] at hsame
      rw [Option.some.inj hsame]
    · simp [collect, hselects]
  | none =>
    have hfile' := h.file?_eq_none ⟨hinput, root, hroot, Or.inl rfl⟩ hfile
    have hignored : ∀ names, Ignore.isIgnoredBelow t' s.gitignore s.root root names =
        Ignore.isIgnoredBelow t s.gitignore s.root root names :=
      Ignore.isIgnoredBelow_congr fun dir hdir => sameRules_of_asks h hinput hroot hfile hdir
    have hkeep : ∀ names, names ≠ [] → root ++ names = target →
        (s.selects names && !Ignore.isIgnoredBelow t s.gitignore s.root root names) = false := by
      intro names hne htarget
      by_contra hkept
      simp only [Bool.not_eq_false, Bool.and_eq_true, Bool.not_eq_true'] at hkept
      exact h.unread ⟨hinput, root, hroot, Or.inr (Or.inr ⟨names, hne, htarget.symm, hkept⟩)⟩
    rw [walk_of_file?_eq_none hfile, walk_of_file?_eq_none hfile', ← collect_filter,
      ← collect_filter s (List.filter _ (t.filesBelow root))]
    simp only [hignored, List.filter_filter]
    rw [h.files root _ hkeep]

end Located

lemma find_of_growsApart (h : GrowsApart target (s.Reads t) (s.Probes t) t t')
    {found : List Found} (hfind : s.find t = .ok found) : s.find t' = .ok found := by
  unfold find at hfind ⊢
  cases hroot : t.locate s.root with
  | error e =>
    rw [hroot] at hfind
    cases hfind
  | ok root =>
    rw [hroot] at hfind
    rw [FileTree.locate_of_grows h.toGrows hroot]
    cases hinput : s.isStandardInput with
    | true => simpa [hinput] using hfind
    | false =>
      simp only [hinput, Bool.false_eq_true, if_false] at hfind ⊢
      rw [defects_congr h hinput hroot, collect_walk_congr h hinput hroot]
      exact hfind

end Scan

/-! ### Builds -/

namespace Build

variable {c : Config}

/-- A build reads the file at a place, if there is one. -/
def Reads (c : Config) (t : FileTree) (l : Location) : Prop :=
  ∃ filter, Scan.parseFilter c.input.pattern = .ok filter ∧
    Scan.Reads { root := c.input.dir, gitignore := c.input.gitignore, filter := some filter } t l

/-- A build depends on whether there is something at a place. -/
def Probes (c : Config) (t : FileTree) (l : Location) : Prop :=
  ∃ filter, Scan.parseFilter c.input.pattern = .ok filter ∧
    Scan.Probes { root := c.input.dir, gitignore := c.input.gitignore, filter := some filter } t l

lemma scan_of_growsApart (h : GrowsApart target (Reads c t) (Probes c t) t t')
    {found : List Found} (hscan : scan c t = .ok found) : scan c t' = .ok found := by
  unfold scan at hscan ⊢
  cases hfilter : Scan.parseFilter c.input.pattern with
  | error e =>
    rw [hfilter] at hscan
    cases hscan
  | ok filter =>
    rw [hfilter] at hscan
    refine Scan.find_of_growsApart (h.mono ?_ ?_) hscan
    · intro l hl
      exact ⟨filter, hfilter, hl⟩
    · intro l hl
      exact ⟨filter, hfilter, hl⟩

/-- A build that succeeds gives the same result in a tree that grows apart from what it reads. -/
theorem run_of_growsApart (h : GrowsApart target (Reads c t) (Probes c t) t t') {b : Build}
    (hrun : run c t = .ok b) : run c t' = .ok b ∧ warnings c t' = warnings c t := by
  unfold run at hrun
  cases hscan : scan c t with
  | error e =>
    rw [hscan] at hrun
    cases hrun
  | ok found =>
    have hscan' := scan_of_growsApart h hscan
    rw [hscan] at hrun
    simp only [run, warnings, hscan, hscan', hrun, and_self]

end Build

/-! ### Generations -/

namespace Command

variable {config : Option String} {c : Config}

/-- Loading the configuration or building reads the file at a place, if there is one. -/
def Reads (config : Option String) (c : Config) (t : FileTree) (l : Location) : Prop :=
  Config.Consults t config l ∨ Build.Reads c t l

/-- Loading the configuration or building depends on whether there is something at a place. -/
def Probes (config : Option String) (c : Config) (t : FileTree) (l : Location) : Prop :=
  Config.Consults t config l ∨ Build.Probes c t l

/-- A tree comes from another without a change to what a generation depends on: the module is no
file that is read, and nothing appears at a place that is probed. -/
structure Apart (config : Option String) (c : Config) (t t' : FileTree) : Prop where
  unread : ¬Reads config c t (t.destination c.outputPath)
  unprobed : ∀ l, Probes config c t l → t.node? l = none → t'.node? l = none

lemma Apart.growsApart (h : Apart config c t t')
    (hgrows : FileTree.Grows (t.destination c.outputPath) t t') :
    GrowsApart (t.destination c.outputPath) (Reads config c t) (Probes config c t) t t' where
  toGrows := hgrows
  unread := h.unread
  unprobed := by
    intro l hl
    cases hnode : t.node? l with
    | none => rw [h.unprobed l hl hnode]
    | some n => simpa using hgrows.isSome_node? (l := l) (by simp [hnode])

/-- Loading and building give the same once more. -/
theorem Apart.load_and_build (h : Apart config c t t')
    (hgrows : FileTree.Grows (t.destination c.outputPath) t t') {b : Build}
    (hbuild : Build.run c t = .ok b) :
    Config.load t' config = Config.load t config ∧ Build.run c t' = .ok b := by
  have happart := h.growsApart hgrows
  constructor
  · exact Config.load_congr (happart.mono (fun l hl => Or.inl hl) fun l hl => Or.inl hl)
  · have hbuilds := happart.mono (fun l hl => Or.inr hl) fun l hl => Or.inr hl
    exact (Build.run_of_growsApart hbuilds hbuild).1

end Command

/-! ### Trees without repositories -/

lemma FileTree.node?_eq_none_of_getLast? {name : String}
    (h : ∀ node ∈ t.nodes, node.1.getLast? ≠ some name) (dir : Location) :
    t.node? (dir ++ [name]) = none := by
  unfold node?
  rw [if_neg (by simp), List.lookup_eq_none_iff]
  intro node hnode
  have hne := h node hnode
  rw [bne_iff_ne]
  intro heq
  rw [← heq] at hne
  simp at hne

lemma Ignore.not_linked {dir l : Location} (h : t.node? (dir ++ [".git"]) = none) :
    ¬Linked t dir l := by
  have hfile : t.file? (dir ++ [".git"]) = none := by simp [FileTree.file?, h]
  rintro ⟨path, hlinks, -⟩
  cases hlinks with
  | shared hlink => simp [hfile] at hlink
  | rules hlink => simp [hfile] at hlink

namespace Command

variable {config : Option String} {c : Config} (root : Location)

/-- Without repositories, no file outside of the directory that is scanned is read unless it is
named as rules are. -/
lemma not_reads {l : Location} (hgit : ∀ node ∈ t.nodes, node.1.getLast? ≠ some ".git")
    (hname : l.getLast? ∉ [some ".ignore", some ".gitignore", some ".git", some "exclude"])
    (hconfig : t.reached? (config.getD Config.defaultFile) ≠ some l)
    (hroot : t.locate c.input.dir = .ok root) (houtside : ¬root <+: l) :
    ¬Reads config c t l := by
  rintro (hconsults | ⟨filter, -, -, root', hroot', hreads⟩)
  · exact hconfig hconsults
  · cases hroot.symm.trans hroot'
    rcases hreads with ⟨rfl, -⟩ | ⟨dir, -, hrules⟩ | ⟨names, -, rfl, -⟩
    · exact houtside (List.prefix_refl _)
    · rcases hrules with rfl | ⟨-, rfl | rfl | rfl | hlinked⟩
      · simp at hname
      · simp at hname
      · simp at hname
      · simp at hname
      · exact Ignore.not_linked (FileTree.node?_eq_none_of_getLast? hgit dir) hlinked
    · exact houtside (List.prefix_append _ _)

/-- Without repositories before and after, only the configuration file is probed. -/
lemma unprobed (hgit : ∀ node ∈ t.nodes, node.1.getLast? ≠ some ".git")
    (hgit' : ∀ node ∈ t'.nodes, node.1.getLast? ≠ some ".git")
    (hjj' : ∀ node ∈ t'.nodes, node.1.getLast? ≠ some ".jj")
    (hconfig : ∀ l ∈ t.reached? (config.getD Config.defaultFile), t.node? l = none →
      t'.node? l = none)
    (hroot : t.locate c.input.dir = .ok root) (hnode : (t.node? root).isSome = true) :
    ∀ l, Probes config c t l → t.node? l = none → t'.node? l = none := by
  rintro l (hconsults | ⟨filter, -, -, root', hroot', hprobes⟩) hnone
  · exact hconfig l hconsults hnone
  · cases hroot.symm.trans hroot'
    rcases hprobes with rfl | ⟨dir, -, -, rfl | rfl | hl⟩
    · simp [hnone] at hnode
    · exact FileTree.node?_eq_none_of_getLast? hgit' dir
    · exact FileTree.node?_eq_none_of_getLast? hjj' dir
    · exact absurd hl (Ignore.not_linked (FileTree.node?_eq_none_of_getLast? hgit dir))

end Command

end SchemaForge
