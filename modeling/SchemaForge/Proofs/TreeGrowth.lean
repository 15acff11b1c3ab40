import Mathlib.Data.List.DropRight
import SchemaForge.Write

/-!
# Growth of a file tree

Writing a file creates the directories above it that are missing and puts the file in its place;
everything else stays as it is. A path that leads to a node leads to the same node afterwards, and a
path that leads nowhere does so until something is created where it ends.
-/

namespace SchemaForge.FileTree

variable {t t' t'' : FileTree}

/-- The content of the file at a location. -/
def file? (t : FileTree) (here : Location) : Option Content :=
  match t.node? here with
  | some (.file c) => some c
  | _ => none

lemma file?_eq_some {here : Location} {c : Content} :
    t.file? here = some c ↔ t.node? here = some (.file c) := by
  unfold file?
  split <;> simp_all

lemma file?_eq_none_iff {here : Location} :
    t.file? here = none ↔ ∀ c, t.node? here ≠ some (.file c) := by
  simp only [Option.eq_none_iff_forall_ne_some, ne_eq, file?_eq_some]

lemma lookup_replace (here : Location) (n : Node) (nodes : List (Location × Node)) (l : Location) :
    (nodes.map fun (k, m) => if k = here then (k, n) else (k, m)).lookup l =
      if l = here then (nodes.lookup here).map fun _ => n else nodes.lookup l := by
  induction nodes with
  | nil => simp
  | cons node nodes ih =>
    obtain ⟨k, m⟩ := node
    by_cases hl : l = here
    · subst hl
      by_cases hk : k = l
      · simp [hk]
      · have hne : (l == k) = false := by simpa using Ne.symm hk
        simp only [if_true] at ih
        simp [hk, hne, ih, List.lookup_cons]
    · simp only [hl, if_false] at ih
      by_cases hk : k = here
      · have hne : (l == here) = false := by simpa using hl
        simp [hk, hl, hne, ih, List.lookup_cons]
      · simp [hk, hl, ih, List.lookup_cons]

lemma node?_put {here : Location} (hne : here ≠ []) (n : Node) (l : Location) :
    (t.put here n).node? l = if l = here then some n else t.node? l := by
  unfold put node?
  by_cases hl : l = []
  · simp [hl, Ne.symm hne]
  · cases hlookup : t.nodes.lookup here with
    | some m => simp [hl, lookup_replace, hlookup]
    | none =>
      by_cases hh : l = here
      · simp [hh, hne, hlookup, List.lookup_append]
      · have hlast : (l == here) = false := by simpa using hh
        simp [hh, hl, List.lookup_append, List.lookup_cons, hlast]

/-! ### What stays -/

/-- A tree comes from another by new directories and by a new content of the file at `here`. -/
structure Grows (here : Location) (t t' : FileTree) : Prop where
  working : t'.working = t.working
  kept : ∀ l, l ≠ here → (t.node? l).isSome = true → t'.node? l = t.node? l
  added : ∀ l, l ≠ here → t.node? l = none → t'.node? l = none ∨ t'.node? l = some .directory
  target_directory : t.node? here = some .directory → t'.node? here = some .directory
  target_file : (t.file? here).isSome = true → (t'.file? here).isSome = true
  files : ∀ (base : Location) (keep : List String → Bool),
    (∀ names, names ≠ [] → base ++ names = here → keep names = false) →
      (t'.filesBelow base).filter (fun f => keep f.1) = (t.filesBelow base).filter fun f => keep f.1

namespace Grows

variable {here : Location}

lemma refl (here : Location) (t : FileTree) : Grows here t t :=
  ⟨rfl, fun _ _ _ => rfl, fun _ _ h => Or.inl h, id, id, fun _ _ _ => rfl⟩

lemma trans (h : Grows here t t') (h' : Grows here t' t'') : Grows here t t'' where
  working := h'.working.trans h.working
  kept := by
    intro l hl hsome
    have heq := h.kept l hl hsome
    rw [← heq] at hsome
    exact (h'.kept l hl hsome).trans heq
  added := by
    intro l hl hnone
    rcases h.added l hl hnone with hnone' | hdir
    · exact h'.added l hl hnone'
    · right
      rw [h'.kept l hl (by simp [hdir]), hdir]
  target_directory := h'.target_directory ∘ h.target_directory
  target_file := h'.target_file ∘ h.target_file
  files := by
    intro base keep hkeep
    exact (h'.files base keep hkeep).trans (h.files base keep hkeep)

lemma isDirectory (h : Grows here t t') {l : Location} (hl : t.isDirectory l = true) :
    t'.isDirectory l = true := by
  have hdir : t.node? l = some .directory := by simpa [FileTree.isDirectory] using hl
  have hdir' : t'.node? l = some .directory := by
    by_cases hhere : l = here
    · subst hhere
      exact h.target_directory hdir
    · rw [h.kept l hhere (by simp [hdir]), hdir]
  simpa [FileTree.isDirectory] using hdir'

lemma file?_eq (h : Grows here t t') {l : Location} (hl : l ≠ here) : t'.file? l = t.file? l := by
  unfold file?
  cases hnode : t.node? l with
  | some n => rw [h.kept l hl (by simp [hnode]), hnode]
  | none =>
    rcases h.added l hl hnode with hnone | hdir
    · rw [hnone]
    · rw [hdir]

lemma isSome_file? (h : Grows here t t') {l : Location} (hl : (t.file? l).isSome = true) :
    (t'.file? l).isSome = true := by
  by_cases hhere : l = here
  · subst hhere
    exact h.target_file hl
  · rwa [h.file?_eq hhere]

lemma isSome_node? (h : Grows here t t') {l : Location} (hl : (t.node? l).isSome = true) :
    (t'.node? l).isSome = true := by
  by_cases hhere : l = here
  · subst hhere
    cases hnode : t.node? l with
    | none => simp [hnode] at hl
    | some n =>
      cases n with
      | directory => simp [h.target_directory hnode]
      | file c =>
        have hfile := h.target_file (by simp [file?, hnode])
        cases hnode' : t'.node? l with
        | none => simp [file?, hnode'] at hfile
        | some n' => rfl
  · rw [h.kept l hhere hl]
    exact hl

lemma node?_eq (h : Grows here t t') {l : Location} (hl : l ≠ here)
    (hnode : (t'.node? l).isSome = (t.node? l).isSome) : t'.node? l = t.node? l := by
  cases hn : t.node? l with
  | some n => rw [h.kept l hl (by simp [hn]), hn]
  | none => simpa [hn] using hnode

/-- A directory is new only where there was no node. -/
lemma not_isDirectory (h : Grows here t t') {l : Location} (hl : ¬t.isDirectory l = true)
    (hnode : (t'.node? l).isSome = (t.node? l).isSome) : ¬t'.isDirectory l = true := by
  simp only [FileTree.isDirectory, decide_eq_true_eq] at hl ⊢
  cases hn : t.node? l with
  | none =>
    have hnone : t'.node? l = none := by simpa [hn] using hnode
    simp [hnone]
  | some n =>
    cases n with
    | directory => exact absurd hn hl
    | file c =>
      have hfile := h.isSome_file? (l := l) (by simp [file?, hn])
      intro hdir
      simp [file?, hdir] at hfile

end Grows

/-! ### Steps of growth -/

lemma grows_put_directory (here : Location) {l : Location} (hne : l ≠ [])
    (hl : t.node? l = none) : Grows here t (t.put l .directory) := by
  have hlookup : t.nodes.lookup l = none := by simpa [node?, hne] using hl
  have hnodes : (t.put l .directory).nodes = t.nodes ++ [(l, .directory)] := by
    simp [put, hlookup]
  refine ⟨by simp [put, hlookup], ?_, ?_, ?_, ?_, ?_⟩
  · intro k hk hsome
    have hkl : k ≠ l := by
      rintro rfl
      simp [hl] at hsome
    rw [node?_put hne, if_neg hkl]
  · intro k hk hnone
    by_cases hkl : k = l
    · right
      rw [node?_put hne, if_pos hkl]
    · left
      rw [node?_put hne, if_neg hkl, hnone]
  · intro hdir
    have hkl : here ≠ l := by
      rintro rfl
      simp [hl] at hdir
    rw [node?_put hne, if_neg hkl, hdir]
  · intro hfile
    have hkl : here ≠ l := by
      rintro rfl
      simp [file?, hl] at hfile
    unfold file? at hfile ⊢
    rwa [node?_put hne, if_neg hkl]
  · intro base keep _
    unfold filesBelow
    rw [hnodes, List.filterMap_append]
    simp [fileBelow?]

lemma grows_put_file {here : Location} (hne : here ≠ []) (hdir : t.isDirectory here = false)
    (c : Content) : Grows here t (t.put here (.file c)) := by
  have hnode : t.node? here ≠ some .directory := by simpa [isDirectory] using hdir
  refine ⟨?_, ?_, ?_, fun h => absurd h hnode, ?_, ?_⟩
  · unfold put
    split <;> rfl
  · intro l hl _
    rw [node?_put hne, if_neg hl]
  · intro l hl hnone
    left
    rw [node?_put hne, if_neg hl, hnone]
  · intro _
    unfold file?
    rw [node?_put hne, if_pos rfl]
    rfl
  · intro base keep hkeep
    -- An entry for the file itself is not kept, whatever it holds.
    have hentry : ∀ n, (fileBelow? base (here, n)).filter (fun f => keep f.1) = none := by
      intro n
      cases n with
      | directory => rfl
      | file c =>
        by_cases hprefix : base <+: here
        · obtain ⟨names, rfl⟩ := hprefix
          by_cases hnames : names = []
          · simp [fileBelow?, hnames]
          · simp [fileBelow?, hkeep names hnames rfl]
        · have hprefix' : ¬base.isPrefixOf here = true :=
            fun h => hprefix (List.isPrefixOf_iff_prefix.mp h)
          simp [fileBelow?, hprefix']
    unfold filesBelow
    rw [List.filter_filterMap, List.filter_filterMap]
    unfold put
    split
    · rw [List.filterMap_map]
      apply List.filterMap_congr
      rintro ⟨l, n⟩ -
      by_cases hl : l = here
      · subst hl
        simp [hentry]
      · simp [hl]
    · simp [List.filterMap_append, hentry]

/-! ### Where paths lead -/

/-- Where a segment leads by its text alone. -/
def next (here : Location) (s : String) : Location :=
  if Path.isIdle s then here else if s = ".." then here.dropLast else here ++ [s]

/-- Where a path leads by its text alone. -/
def destination (t : FileTree) (path : String) : Location :=
  (Path.segments path).foldl next (t.start path)

/-- Whether there is a node where a segment leads from a directory. -/
def leads (t : FileTree) (here : Location) (s : String) : Bool :=
  Path.isIdle s || s = ".." || (t.node? (here ++ [s])).isSome

/-- Where following segments ends: the node that they lead to, a file in the way, or the first
location without a node. -/
def reach (t : FileTree) (here : Location) : List String → Location
  | [] => here
  | s :: rest =>
    if t.isDirectory here then
      if t.leads here s then t.reach (next here s) rest else here ++ [s]
    else here

/-- The location that decides whether and where a path leads. Some texts are no paths. -/
def reached? (t : FileTree) (path : String) : Option Location :=
  if hasNul path || path.isEmpty then none
  else some (t.reach (t.start path) (Path.segments path))

lemma follow_cons (t : FileTree) (here : Location) (s : String) (rest : List String) :
    t.follow here (s :: rest) =
      if t.isDirectory here then
        if t.leads here s then t.follow (next here s) rest else .error .notFound
      else .error .notDirectory := by
  simp only [follow, leads, next]
  by_cases hidle : Path.isIdle s = true
  · simp [hidle]
  · by_cases hup : s = ".."
    · subst hup
      simp [hidle]
    · simp [hidle, hup]

/-- A segment that leads to a node is followed from a directory only. -/
lemma exists_of_follow_cons {here there : Location} {s : String} {rest : List String}
    (h : t.follow here (s :: rest) = .ok there) :
    t.isDirectory here = true ∧ t.leads here s = true ∧
      t.follow (next here s) rest = .ok there := by
  rw [follow_cons] at h
  by_cases hdir : t.isDirectory here = true
  · by_cases hleads : t.leads here s = true
    · simp only [hdir, hleads, if_true] at h
      exact ⟨hdir, hleads, h⟩
    · simp [hdir, hleads] at h
  · simp [hdir] at h

lemma follow_append {here there : Location} {ss : List String} (h : t.follow here ss = .ok there)
    (ss' : List String) : t.follow here (ss ++ ss') = t.follow there ss' := by
  induction ss generalizing here with
  | nil =>
    cases h
    rfl
  | cons s ss ih =>
    obtain ⟨hdir, hleads, hrest⟩ := exists_of_follow_cons h
    rw [List.cons_append, follow_cons, if_pos hdir, if_pos hleads]
    exact ih hrest

lemma follow_eq_foldl {here there : Location} {ss : List String}
    (h : t.follow here ss = .ok there) : there = ss.foldl next here := by
  induction ss generalizing here with
  | nil =>
    cases h
    rfl
  | cons s ss ih => exact ih (exists_of_follow_cons h).2.2

section Growth

variable {target : Location}

lemma start_eq (h : Grows target t t') (path : String) : t'.start path = t.start path := by
  unfold start
  rw [h.working]

lemma destination_eq (h : Grows target t t') (path : String) :
    t'.destination path = t.destination path := by
  unfold destination
  rw [start_eq h]

lemma leads_of_grows (h : Grows target t t') {here : Location} {s : String}
    (hs : t.leads here s = true) : t'.leads here s = true := by
  simp only [leads, Bool.or_eq_true] at hs ⊢
  exact hs.imp_right h.isSome_node?

/-- A path that leads to a node still does, and to the same one. -/
lemma follow_of_grows (h : Grows target t t') {here there : Location} {ss : List String}
    (hs : t.follow here ss = .ok there) : t'.follow here ss = .ok there := by
  induction ss generalizing here with
  | nil => exact hs
  | cons s ss ih =>
    obtain ⟨hdir, hleads, hrest⟩ := exists_of_follow_cons hs
    rw [follow_cons, if_pos (h.isDirectory hdir), if_pos (leads_of_grows h hleads)]
    exact ih hrest

/-- A path leads where it did unless something is created where it ended. -/
lemma follow_congr (h : Grows target t t') {here : Location} {ss : List String}
    (hend : (t'.node? (t.reach here ss)).isSome = (t.node? (t.reach here ss)).isSome) :
    t'.follow here ss = t.follow here ss := by
  induction ss generalizing here with
  | nil => rfl
  | cons s ss ih =>
    rw [follow_cons, follow_cons]
    by_cases hdir : t.isDirectory here = true
    · rw [if_pos hdir, if_pos (h.isDirectory hdir)]
      by_cases hleads : t.leads here s = true
      · rw [if_pos hleads, if_pos (leads_of_grows h hleads)]
        rw [reach, if_pos hdir, if_pos hleads] at hend
        exact ih hend
      · rw [reach, if_pos hdir, if_neg hleads] at hend
        have hleads' : t'.leads here s = t.leads here s := by simp only [leads, hend]
        rw [hleads', if_neg hleads, if_neg hleads]
    · rw [reach, if_neg hdir] at hend
      rw [if_neg hdir, if_neg (h.not_isDirectory hdir hend)]

lemma reached?_eq_some {path : String} {there : Location} :
    t.reached? path = some there ↔
      hasNul path = false ∧ path.isEmpty = false ∧
        there = t.reach (t.start path) (Path.segments path) := by
  unfold reached?
  by_cases hnul : hasNul path = true
  · simp [hnul]
  · by_cases hempty : path.isEmpty = true
    · simp [hempty]
    · simp [hnul, hempty, eq_comm]

lemma locate_congr (h : Grows target t t') {path : String}
    (hend : ∀ l, t.reached? path = some l → (t'.node? l).isSome = (t.node? l).isSome) :
    t'.locate path = t.locate path := by
  unfold locate
  rw [start_eq h]
  by_cases hnul : hasNul path = true
  · simp [hnul]
  · by_cases hempty : path.isEmpty = true
    · simp [hempty]
    · rw [follow_congr h]
      exact hend _ (reached?_eq_some.mpr ⟨by simpa using hnul, by simpa using hempty, rfl⟩)

lemma reach_of_follow {here there : Location} {ss : List String}
    (h : t.follow here ss = .ok there) : t.reach here ss = there := by
  induction ss generalizing here with
  | nil =>
    cases h
    rfl
  | cons s ss ih =>
    obtain ⟨hdir, hleads, hrest⟩ := exists_of_follow_cons h
    rw [reach, if_pos hdir, if_pos hleads]
    exact ih hrest

lemma locate_eq_ok {path : String} {there : Location} :
    t.locate path = .ok there ↔
      hasNul path = false ∧ path.isEmpty = false ∧
        t.follow (t.start path) (Path.segments path) = .ok there := by
  unfold locate
  by_cases hnul : hasNul path = true
  · simp [hnul]
  · by_cases hempty : path.isEmpty = true
    · simp [hnul, hempty]
    · simp [hnul, hempty]

lemma locate_of_grows (h : Grows target t t') {path : String} {there : Location}
    (hlocate : t.locate path = .ok there) : t'.locate path = .ok there := by
  obtain ⟨hnul, hempty, hfollow⟩ := locate_eq_ok.mp hlocate
  refine locate_eq_ok.mpr ⟨hnul, hempty, ?_⟩
  rw [start_eq h]
  exact follow_of_grows h hfollow

lemma reached?_of_locate {path : String} {there : Location} (h : t.locate path = .ok there) :
    t.reached? path = some there := by
  obtain ⟨hnul, hempty, hfollow⟩ := locate_eq_ok.mp h
  exact reached?_eq_some.mpr ⟨hnul, hempty, (reach_of_follow hfollow).symm⟩

lemma readText_congr (h : Grows target t t') {path : String}
    (hend : ∀ l, t.reached? path = some l →
      l ≠ target ∧ (t'.node? l).isSome = (t.node? l).isSome) :
    t'.readText path = t.readText path := by
  have hlocate := locate_congr h fun l hl => (hend l hl).2
  unfold readText
  rw [hlocate]
  cases hthere : t.locate path with
  | error e => rfl
  | ok there =>
    obtain ⟨hne, hnode⟩ := hend there (reached?_of_locate hthere)
    simp only [bind, Except.bind, h.node?_eq hne hnode]

end Growth

/-! ### Writing -/

/-- If nothing is dropped at the end of a list, its last member is not to be dropped. -/
lemma eq_concat_of_getLast? {ss : List String} {name : String}
    (hlast : (ss.reverse.dropWhile (· = "")).reverse.getLast? = some name)
    (hlength : ¬(ss.reverse.dropWhile (· = "")).reverse.length < ss.length) :
    ss = (ss.reverse.dropWhile (· = "")).reverse.dropLast ++ [name] ∧ name ≠ "" := by
  change (ss.rdropWhile (· = "")).getLast? = some name at hlast
  change ¬(ss.rdropWhile (· = "")).length < ss.length at hlength
  change ss = (ss.rdropWhile (· = "")).dropLast ++ [name] ∧ name ≠ ""
  have hself : ss.rdropWhile (· = "") = ss :=
    (List.rdropWhile_prefix _ ss).eq_of_length_le (by omega)
  rw [hself] at hlast ⊢
  obtain ⟨front, rfl⟩ := List.getLast?_eq_some_iff.mp hlast
  have hname := List.rdropWhile_eq_self_iff.mp hself (by simp)
  exact ⟨by simp, by simpa using hname⟩

/-- A file is written below a directory, under a name that is not a directory. -/
lemma exists_of_locateNew {path : String} {there : Location} (h : t.locateNew path = .ok there) :
    ∃ front name parent, Path.segments path = front ++ [name] ∧
      hasNul path = false ∧ path.isEmpty = false ∧ next parent name = parent ++ [name] ∧
      t.follow (t.start path) front = .ok parent ∧ t.isDirectory parent = true ∧
      t.isDirectory there = false ∧ there = parent ++ [name] := by
  unfold locateNew at h
  split at h
  · cases h
  rename_i hnul
  split at h
  · cases h
  rename_i hempty
  dsimp only at h
  split at h
  · cases h
  rename_i name hlast
  cases hparent : t.follow (t.start path)
      ((Path.segments path).reverse.dropWhile (· = "")).reverse.dropLast with
  | error e =>
    rw [hparent] at h
    cases h
  | ok parent =>
    rw [hparent] at h
    simp only [bind, Except.bind, throw, throwThe, MonadExceptOf.throw, pure, Except.pure] at h
    split at h
    · cases h
    rename_i hdir
    split at h
    · cases h
    rename_i hbody
    split at h
    · cases h
    rename_i hthere
    simp only [Bool.or_eq_true, decide_eq_true_eq, not_or] at hbody
    obtain ⟨hsegments, hname⟩ := eq_concat_of_getLast? hlast hbody.1.1
    refine ⟨_, name, parent, hsegments, by simpa using hnul, by simpa using hempty, ?_, hparent,
      by simpa using hdir, ?_, (Except.ok.inj h).symm⟩
    · simp [next, Path.isIdle, hname, hbody.1.2, hbody.2]
    · rw [← Except.ok.inj h]
      simpa using hthere

lemma destination_of_locateNew {path : String} {there : Location}
    (h : t.locateNew path = .ok there) : there = t.destination path := by
  obtain ⟨front, name, parent, hsegments, -, -, hnext, hparent, -, -, rfl⟩ := exists_of_locateNew h
  have hfront : parent = front.foldl next (t.start path) := follow_eq_foldl hparent
  unfold destination
  rw [hsegments, List.foldl_append, ← hfront]
  exact hnext.symm

lemma locate_of_locateNew {target : Location} (hgrows : Grows target t t') {path : String}
    {there : Location} (h : t.locateNew path = .ok there)
    (hnode : (t'.node? there).isSome = true) : t'.locate path = .ok there := by
  obtain ⟨front, name, parent, hsegments, hnul, hempty, hnext, hparent, hdir, -, rfl⟩ :=
    exists_of_locateNew h
  have hparent' := follow_of_grows hgrows hparent
  have hleads : t'.leads parent name = true := by simp [leads, hnode]
  refine locate_eq_ok.mpr ⟨hnul, hempty, ?_⟩
  rw [start_eq hgrows, hsegments, follow_append hparent', follow_cons,
    if_pos (hgrows.isDirectory hdir), if_pos hleads, hnext]
  rfl

lemma ne_nil_of_locateNew {path : String} {there : Location} (h : t.locateNew path = .ok there) :
    there ≠ [] := by
  obtain ⟨front, name, parent, -, -, -, -, -, -, -, rfl⟩ := exists_of_locateNew h
  simp

lemma exists_of_writeText {path content : String} (h : t.writeText path content = .ok t') :
    t.locateNew path = .ok (t.destination path) ∧
      t' = t.put (t.destination path) (.file (.text content)) := by
  unfold writeText at h
  cases hnew : t.locateNew path with
  | error e =>
    rw [hnew] at h
    cases h
  | ok there =>
    rw [hnew] at h
    cases h
    rw [← destination_of_locateNew hnew]
    exact ⟨rfl, rfl⟩

lemma grows_writeText {path content : String} (h : t.writeText path content = .ok t') :
    Grows (t.destination path) t t' := by
  obtain ⟨hnew, rfl⟩ := exists_of_writeText h
  obtain ⟨_, _, _, -, -, -, -, -, -, hdir, -⟩ := exists_of_locateNew hnew
  exact grows_put_file (ne_nil_of_locateNew hnew) hdir _

lemma readText_of_writeText {path content : String} (h : t.writeText path content = .ok t') :
    t'.readText path = .ok content := by
  have hgrows := grows_writeText h
  obtain ⟨hnew, rfl⟩ := exists_of_writeText h
  have hnode : (t.put (t.destination path) (.file (.text content))).node? (t.destination path) =
      some (.file (.text content)) := by
    rw [node?_put (ne_nil_of_locateNew hnew), if_pos rfl]
  have hlocate := locate_of_locateNew hgrows hnew (by simp [hnode])
  simp only [readText, hlocate, hnode, bind, Except.bind]
  rfl

lemma grows_makeAlong (target : Location) (t : FileTree) (created : Bool) (here : Location)
    (ss : List String) : Grows target t (t.makeAlong created here ss).1 := by
  induction ss generalizing t created here with
  | nil => exact Grows.refl target t
  | cons s ss ih =>
    unfold makeAlong
    split
    · exact ih t created here
    · split
      · exact ih t created here.dropLast
      · split
        · exact ih t created (here ++ [s])
        · exact Grows.refl target t
        · rename_i hnone
          exact (grows_put_directory target (by simp) hnone).trans (ih _ true (here ++ [s]))

lemma grows_makeParent (target : Location) (t : FileTree) (path : String) :
    Grows target t (t.makeParent path).1 := by
  unfold makeParent
  split
  · exact Grows.refl target t
  · split
    · exact Grows.refl target t
    · dsimp only
      unfold makeDirectories
      split
      · exact Grows.refl target t
      · exact grows_makeAlong target t false _ _

/-- Writing a file creates directories and changes the file that its path names, nothing else. -/
theorem grows_update (t : FileTree) (dryRun : Bool) (path content : String) :
    Grows (t.destination path) t (t.update dryRun path content).1 := by
  unfold update
  split
  · exact Grows.refl _ t
  · split
    · exact Grows.refl _ t
    · have hparent := grows_makeParent (t.destination path) t path
      split
      · rename_i hmake
        rwa [hmake] at hparent
      · rename_i t₁ hmake
        rw [hmake] at hparent
        split
        · exact hparent
        · rename_i hwrite
          have hwrite' := grows_writeText hwrite
          rw [destination_eq hparent] at hwrite'
          exact hparent.trans hwrite'

lemma update_of_readText {path content : String} (h : t.readText path = .ok content) :
    t.update false path content = (t, .ok (.unchanged path)) := by
  simp [update, isUpToDate, h]

/-- After a file was written, or found to hold its content already, it can be read. -/
lemma readText_of_update {path content : String} {outcome : WriteOutcome}
    (h : t.update false path content = (t', .ok outcome)) :
    t'.readText path = .ok content ∧
      (outcome = .unchanged path ∧ t' = t ∨
        outcome = .written path content.utf8ByteSize ∧ t.readText path ≠ .ok content) := by
  unfold update at h
  rw [if_neg (by simp)] at h
  split at h
  · rename_i hsame
    cases h
    unfold isUpToDate at hsame
    split at hsame
    · rename_i s hread
      have hs : s = content := by simpa using hsame
      rw [hread, hs]
      exact ⟨rfl, Or.inl ⟨rfl, rfl⟩⟩
    · cases hsame
  · rename_i hdiffers
    split at h
    · cases h
    · split at h
      · cases h
      · rename_i hwrite
        cases h
        refine ⟨readText_of_writeText hwrite, Or.inr ⟨rfl, ?_⟩⟩
        intro hread
        simp [isUpToDate, hread] at hdiffers

end SchemaForge.FileTree
