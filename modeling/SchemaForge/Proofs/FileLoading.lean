import Mathlib.Data.List.Forall2
import SchemaForge.Build
import SchemaForge.Proofs.TagWalk

/-!
# Loading files

A file holds named values: itself under its own name, or the fields of its top-level object. It loads
if all of them are definitions, and the first one that is none makes it fail as a whole. Files that
fail leave nothing but their error, so a list of files builds the same module without them.
-/

namespace SchemaForge

namespace SourceFile

variable {f : SourceFile} {entries : List (String × Json)}

/-- The named values that a file holds. An object whose tag is a text is one value, named after the
file; any other object holds its fields. -/
inductive Holds (f : SourceFile) : List (String × Json) → Prop
  | single {fields : List (String × Json)} {tag name : String}
      (hread : Json.read f.content = .ok (.obj fields))
      (htag : Entries.get? "type" fields = some (.str tag))
      (hname : Path.stem? f.path = some name) : Holds f [(name, .obj fields)]
  | bundle {fields : List (String × Json)} (hread : Json.read f.content = .ok (.obj fields))
      (htag : ∀ tag, Entries.get? "type" fields ≠ some (.str tag)) : Holds f fields

/-- A named value is loaded from a file as a definition of that name. -/
def LoadsAs (f : SourceFile) (entry : String × Json) (d : Loaded) : Prop :=
  Definition.ofJson entry.2 = .ok d.definition ∧ d.name = entry.1 ∧ d.file = f.path

/-! ### One file -/

section Bundle

variable {name : String} {v : Json}

lemma decodeBundle_cons_of_ok {d : Definition} (h : Definition.ofJson v = .ok d) :
    decodeBundle ((name, v) :: entries) = (decodeBundle entries).map ((name, d) :: ·) := by
  rw [decodeBundle, h]

lemma decodeBundle_cons_of_error {e : DefinitionError} (h : Definition.ofJson v = .error e) :
    decodeBundle ((name, v) :: entries) = .error (.invalid name e) := by
  rw [decodeBundle, h]

lemma decodeBundle_eq_ok_iff {ds : List (String × Definition)} :
    decodeBundle entries = .ok ds ↔
      List.Forall₂ (fun p q => Definition.ofJson p.2 = .ok q.2 ∧ q.1 = p.1) entries ds := by
  induction entries generalizing ds with
  | nil =>
    rw [List.forall₂_nil_left_iff]
    exact ⟨fun h => by cases h; rfl, fun h => by rw [h]; rfl⟩
  | cons p entries ih =>
    obtain ⟨name, v⟩ := p
    rw [List.forall₂_cons_left_iff]
    cases hv : Definition.ofJson v with
    | error e =>
      rw [decodeBundle_cons_of_error hv]
      constructor
      · intro h
        cases h
      · rintro ⟨q, rest, ⟨hq, -⟩, -⟩
        cases hq
    | ok d =>
      rw [decodeBundle_cons_of_ok hv]
      constructor
      · intro h
        obtain ⟨rest, hrest, rfl⟩ := Definition.exists_of_map_eq_ok h
        exact ⟨(name, d), rest, ⟨rfl, rfl⟩, ih.mp hrest, rfl⟩
      · rintro ⟨⟨name', d'⟩, rest, ⟨hq, rfl⟩, hrest, rfl⟩
        cases hq
        rw [ih.mpr hrest]
        rfl

/-- The first value that is no definition decides the fault. -/
lemma decodeBundle_eq_error_iff {fault : LoadFault} :
    decodeBundle entries = .error fault ↔
      ∃ before name v after e, entries = before ++ (name, v) :: after ∧
        (∀ p ∈ before, ∃ d, Definition.ofJson p.2 = .ok d) ∧ Definition.ofJson v = .error e ∧
        fault = .invalid name e := by
  constructor
  · intro h
    induction entries with
    | nil => cases h
    | cons p entries ih =>
      obtain ⟨name, v⟩ := p
      cases hv : Definition.ofJson v with
      | error e =>
        rw [decodeBundle_cons_of_error hv] at h
        cases h
        exact ⟨[], name, v, entries, e, rfl, nofun, hv, rfl⟩
      | ok d =>
        rw [decodeBundle_cons_of_ok hv] at h
        have hrest : decodeBundle entries = .error fault := by
          cases hrest : decodeBundle entries <;> rw [hrest] at h <;> cases h
          rfl
        obtain ⟨before, name', v', after, e, rfl, hbefore, hv', hfault⟩ := ih hrest
        exact ⟨(name, v) :: before, name', v', after, e, rfl,
          List.forall_mem_cons.mpr ⟨⟨d, hv⟩, hbefore⟩, hv', hfault⟩
  · rintro ⟨before, name, v, after, e, rfl, hbefore, hv, rfl⟩
    induction before with
    | nil => exact decodeBundle_cons_of_error hv
    | cons p before ih =>
      obtain ⟨⟨d, hd⟩, hbefore⟩ := List.forall_mem_cons.mp hbefore
      rw [List.cons_append, ← Prod.mk.eta (p := p), decodeBundle_cons_of_ok hd, ih hbefore]
      rfl

end Bundle

/-- The value of a file is the bundle of what it holds. -/
lemma Holds.decode_eq (h : f.Holds entries) : f.decode = decodeBundle entries := by
  cases h with
  | @single fields tag name hread htag hname =>
    simp only [decode, hread, decodeFields, htag, hname]
  | bundle hread htag =>
    simp only [decode, hread, decodeFields]

lemma file_of_loadsAs {ds : List Loaded} (h : List.Forall₂ f.LoadsAs entries ds) :
    ∀ d ∈ ds, d.file = f.path := by
  induction h with
  | nil => exact nofun
  | cons hd _ ih => exact List.forall_mem_cons.mpr ⟨hd.2.2, ih⟩

lemma Holds.load_eq_ok_iff (h : f.Holds entries) {ds : List Loaded} :
    f.load = .ok ds ↔ List.Forall₂ f.LoadsAs entries ds := by
  rw [load, h.decode_eq]
  constructor
  · intro hload
    cases hds : decodeBundle entries with
    | error fault =>
      rw [hds] at hload
      cases hload
    | ok qs =>
      rw [hds] at hload
      cases hload
      apply List.forall₂_map_right_iff.mpr
      apply (decodeBundle_eq_ok_iff.mp hds).imp
      rintro p q ⟨hp, hname⟩
      exact ⟨hp, hname, rfl⟩
  · intro hds
    have hqs : decodeBundle entries = .ok (ds.map fun d => (d.name, d.definition)) := by
      apply decodeBundle_eq_ok_iff.mpr
      apply List.forall₂_map_right_iff.mpr
      apply hds.imp
      rintro p d ⟨hp, hname, -⟩
      exact ⟨hp, hname⟩
    rw [hqs]
    refine congrArg Except.ok ?_
    rw [List.map_map]
    calc ds.map _ = ds.map id := by
          apply List.map_congr_left
          intro d hd
          rw [← file_of_loadsAs hds d hd]
          rfl
      _ = ds := List.map_id ds

/-- A file that holds values fails with the first one that is no definition, and only so. -/
lemma Holds.load_eq_error_iff (h : f.Holds entries) {error : LoadError} :
    f.load = .error error ↔
      ∃ before name v after e, entries = before ++ (name, v) :: after ∧
        (∀ p ∈ before, ∃ d, Definition.ofJson p.2 = .ok d) ∧ Definition.ofJson v = .error e ∧
        error = ⟨f.path, .invalid name e⟩ := by
  have hload : f.load = .error error ↔
      ∃ fault, decodeBundle entries = .error fault ∧ error = ⟨f.path, fault⟩ := by
    rw [load, h.decode_eq]
    cases decodeBundle entries with
    | ok qs => simp
    | error fault => simp [eq_comm]
  rw [hload]
  constructor
  · rintro ⟨fault, hfault, rfl⟩
    obtain ⟨before, name, v, after, e, hentries, hbefore, hv, rfl⟩ :=
      decodeBundle_eq_error_iff.mp hfault
    exact ⟨before, name, v, after, e, hentries, hbefore, hv, rfl⟩
  · rintro ⟨before, name, v, after, e, hentries, hbefore, hv, rfl⟩
    exact ⟨_, decodeBundle_eq_error_iff.mpr ⟨before, name, v, after, e, hentries, hbefore, hv, rfl⟩,
      rfl⟩

lemma file_of_load_eq_error {error : LoadError} (h : f.load = .error error) :
    error.file = f.path := by
  unfold load at h
  split at h
  · cases h
  · cases h
    rfl

/-- A file that holds no values fails: it is not JSON, not an object, or has no name. -/
lemma load_of_not_holds (h : ∀ entries, ¬ f.Holds entries) :
    ∃ fault, f.load = .error ⟨f.path, fault⟩ ∧ ∀ name e, fault ≠ .invalid name e := by
  have hdecode : ∀ fault, f.decode = .error fault → f.load = .error ⟨f.path, fault⟩ := by
    intro fault hfault
    rw [load, hfault]
  cases hread : Json.read f.content with
  | error failure =>
    exact ⟨.notJson failure, hdecode _ (by simp only [decode, hread]), by simp⟩
  | ok v =>
    cases v with
    | obj fields =>
      by_cases htag : ∃ tag, Entries.get? "type" fields = some (.str tag)
      · obtain ⟨tag, htag⟩ := htag
        cases hname : Path.stem? f.path with
        | none =>
          exact ⟨.unnamed, hdecode _ (by simp only [decode, hread, decodeFields, htag, hname]),
            by simp⟩
        | some name => exact absurd (.single hread htag hname) (h _)
      · exact absurd (.bundle hread fun tag ht => htag ⟨tag, ht⟩) (h fields)
    | null | bool _ | int _ | real _ | str _ | arr _ =>
      exact ⟨.notAnObject, hdecode _ (by simp only [decode, hread]), by simp⟩

/-! ### All files -/

def loads (f : SourceFile) : Bool := f.load.isOk

lemma loads_of_ok {ds : List Loaded} (h : f.load = .ok ds) : f.loads = true := by
  rw [loads, h]
  rfl

lemma loads_of_error {e : LoadError} (h : f.load = .error e) : f.loads = false := by
  rw [loads, h]
  rfl

end SourceFile

/-- The definitions and the errors are those of the files, in order. -/
structure Loading.Collects (l : Loading) (fs : List SourceFile) : Prop where
  definitions : ∃ yields : List (List Loaded),
    List.Forall₂ (fun f ds => f.load = .ok ds) (fs.filter fun f => f.loads) yields ∧
      l.definitions = yields.flatten
  errors : List.Forall₂ (fun f e => f.load = .error e) (fs.filter fun f => !f.loads) l.errors

namespace Loading.Collects

variable {fs : List SourceFile} {l : Loading}

lemma add (h : l.Collects fs) (f : SourceFile) : (l.add f).Collects (fs ++ [f]) := by
  obtain ⟨⟨yields, hyields, hdefinitions⟩, herrors⟩ := h
  unfold Loading.add
  cases hload : f.load with
  | ok ds =>
    have hloads := SourceFile.loads_of_ok hload
    refine ⟨⟨yields ++ [ds], ?_, ?_⟩, ?_⟩
    · rw [List.filter_append, List.filter_singleton, hloads]
      exact List.rel_append hyields (.cons hload .nil)
    · rw [List.flatten_concat, hdefinitions]
    · rw [List.filter_append, List.filter_singleton, hloads]
      simpa using herrors
  | error e =>
    have hloads := SourceFile.loads_of_error hload
    refine ⟨⟨yields, ?_, hdefinitions⟩, ?_⟩
    · rw [List.filter_append, List.filter_singleton, hloads]
      simpa using hyields
    · rw [List.filter_append, List.filter_singleton, hloads]
      exact List.rel_append herrors (.cons hload .nil)

lemma foldl (h : l.Collects fs) (gs : List SourceFile) :
    (gs.foldl Loading.add l).Collects (fs ++ gs) := by
  induction gs generalizing fs l with
  | nil => rwa [List.append_nil]
  | cons g gs ih =>
    have hstep := ih (h.add g)
    rwa [List.append_assoc, List.singleton_append] at hstep

/-- The definitions depend on the files that load alone. -/
lemma definitions_eq {gs : List SourceFile} {m : Loading} (h : l.Collects fs) (h' : m.Collects gs)
    (hfiles : (fs.filter fun f => f.loads) = gs.filter fun f => f.loads) :
    l.definitions = m.definitions := by
  obtain ⟨yields, hyields, hdefinitions⟩ := h.definitions
  obtain ⟨yields', hyields', hdefinitions'⟩ := h'.definitions
  have hunique : Relator.RightUnique fun (f : SourceFile) ds => f.load = .ok ds := by
    intro f ds ds' hds hds'
    rw [hds] at hds'
    cases hds'
    rfl
  rw [hfiles] at hyields
  rw [hdefinitions, hdefinitions', List.right_unique_forall₂' hunique hyields hyields']

end Loading.Collects

namespace SourceFile

lemma collects_loadAll (fs : List SourceFile) : (loadAll fs).Collects fs := by
  have hempty : Loading.Collects {} [] := ⟨⟨[], .nil, rfl⟩, .nil⟩
  exact hempty.foldl fs

lemma loadedOf_filter_loads (fs : List SourceFile) :
    loadedOf (fs.filter fun f => f.loads) = loadedOf fs := by
  apply (collects_loadAll _).definitions_eq (collects_loadAll fs)
  rw [List.filter_filter]
  simp

/-- Definitions are those of the files that load, concatenated in order, and every other file has
one error, in order. A file that holds values loads as one definition for each of them, in order, or
fails with the first one that is no definition. Without the files that fail there are the same
definitions, the same registry and the same module. -/
theorem loadAll_all_or_nothing (fs : List SourceFile) :
    (∃ yields : List (List Loaded),
      List.Forall₂ (fun f ds => f.load = .ok ds) (fs.filter fun f => f.loads) yields ∧
        (loadAll fs).definitions = yields.flatten) ∧
    List.Forall₂ (fun f e => f.load = .error e ∧ e.file = f.path) (fs.filter fun f => !f.loads)
      (loadAll fs).errors ∧
    (∀ f ∈ fs,
      (∀ entries, f.Holds entries →
        (∀ ds, f.load = .ok ds ↔ List.Forall₂ f.LoadsAs entries ds) ∧
        ∀ error, f.load = .error error ↔
          ∃ before name v after e, entries = before ++ (name, v) :: after ∧
            (∀ p ∈ before, ∃ d, Definition.ofJson p.2 = .ok d) ∧ Definition.ofJson v = .error e ∧
            error = ⟨f.path, .invalid name e⟩) ∧
      ((∀ entries, ¬ f.Holds entries) →
        ∃ fault, f.load = .error ⟨f.path, fault⟩ ∧ ∀ name e, fault ≠ .invalid name e)) ∧
    (let kept := fs.filter fun f => f.loads;
      (loadAll kept).definitions = (loadAll fs).definitions ∧
        Registry.ofLoaded (loadAll kept).definitions = .ofLoaded (loadAll fs).definitions ∧
        ∀ options, (Build.ofFiles options kept).map Build.output =
          (Build.ofFiles options fs).map Build.output) := by
  have hkept := loadedOf_filter_loads fs
  refine ⟨(collects_loadAll fs).definitions, ?_, ?_, hkept, congrArg Registry.ofLoaded hkept, ?_⟩
  · apply (collects_loadAll fs).errors.imp
    intro f e he
    exact ⟨he, file_of_load_eq_error he⟩
  · intro f _
    refine ⟨?_, load_of_not_holds⟩
    intro entries h
    exact ⟨fun ds => h.load_eq_ok_iff, fun error => h.load_eq_error_iff⟩
  · intro options
    unfold Build.ofFiles
    rw [hkept]
    cases Module.generate options (.ofLoaded (loadedOf fs)) <;> rfl

/-- A bundle with one bad definition and a text that is not JSON, next to a good file. -/
theorem loadAll_all_or_nothing_of_three :
    let good : SourceFile := ⟨"defs/Name.json", "\x7b\"type\": \"string\"\x7d"⟩
    let bundle : SourceFile := ⟨"defs/b.json",
      "\x7b\"Good\": \x7b\"type\": \"null\"\x7d, \"Bad\": \x7b\"type\": \"bigint\"\x7d\x7d"⟩
    let broken : SourceFile := ⟨"defs/c.json", "nope"⟩
    (∃ e, bundle.load = .error ⟨"defs/b.json", .invalid "Bad" e⟩) ∧
      (loadAll [good, bundle, broken]).definitions.map Loaded.name = ["Name"] ∧
      (loadAll [good, bundle, broken]).errors.map LoadError.file = ["defs/b.json", "defs/c.json"] ∧
      Registry.ofLoaded (loadAll [good]).definitions =
        .ofLoaded (loadAll [bundle, good, broken]).definitions := by
  intro good bundle broken
  obtain ⟨-, -, hfile, -⟩ := loadAll_all_or_nothing [good, bundle, broken]
  obtain ⟨-, -, -, -, hregistry, -⟩ := loadAll_all_or_nothing [bundle, good, broken]
  have hkept : [bundle, good, broken].filter (fun f => f.loads) = [good] := by decide +kernel
  rw [hkept] at hregistry
  refine ⟨?_, by decide +kernel, by decide +kernel, hregistry⟩
  have hparts : ((Json.read bundle.content).toOption.map fun v =>
      v.fields.map fun p => (p.1, (Definition.ofJson p.2).isOk)) =
        some [("Good", true), ("Bad", false)] := by decide +kernel
  cases hread : Json.read bundle.content with
  | error failure =>
    rw [hread] at hparts
    cases hparts
  | ok v =>
    rw [hread] at hparts
    cases v with
    | obj fields =>
      have hfields := Option.some.inj hparts
      obtain ⟨⟨name, v⟩, rest, rfl, hp, hrest⟩ := List.map_eq_cons_iff.mp hfields
      obtain ⟨⟨name', v'⟩, rest, rfl, hp', hnil⟩ := List.map_eq_cons_iff.mp hrest
      obtain ⟨rfl, hv⟩ := Prod.mk.inj hp
      obtain ⟨rfl, hv'⟩ := Prod.mk.inj hp'
      obtain rfl := List.map_eq_nil_iff.mp hnil
      have hholds : bundle.Holds [("Good", v), ("Bad", v')] := .bundle hread (by simp [Entries.get?])
      cases hgood : Definition.ofJson v with
      | error e =>
        rw [hgood] at hv
        cases hv
      | ok d =>
        cases hbad : Definition.ofJson v' with
        | ok d' =>
          rw [hbad] at hv'
          cases hv'
        | error e =>
          refine ⟨e, (((hfile bundle (by simp)).1 _ hholds).2 _).mpr
            ⟨[("Good", v)], "Bad", v', [], e, rfl, ?_, hbad, rfl⟩⟩
          exact List.forall_mem_singleton.mpr ⟨d, hgood⟩
    | null | bool _ | int _ | real _ | str _ | arr _ => cases hparts

end SourceFile

end SchemaForge
