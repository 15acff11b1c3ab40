import SchemaForge.Proofs.CommandFrame

/-!
# Validation after a generation

A generation that succeeds brings the module up to date, so a validation right after it succeeds.
A generation that finds no definition files succeeds too but writes nothing, and a validation then
says what it would have said before.
-/

namespace SchemaForge.Command

variable {t : FileTree}

/-- A generation that succeeds has loaded its configuration and has built a module. -/
lemma exists_of_exitCode_generate {config : Option String} {overrides : Overrides} {dryRun : Bool}
    (h : ((generate config overrides dryRun).run t).exitCode = 0) :
    ∃ c b, Config.load t config = .ok c ∧ Build.run (c.override overrides) t = .ok b := by
  rw [Outcome.exitCode_eq_zero_iff] at h
  cases hload : Config.load t config with
  | error e =>
    rw [run_generate_of_load_error hload] at h
    cases h
  | ok c =>
    rw [run_generate_of_load hload] at h
    cases hbuild : Build.run (c.override overrides) t with
    | error e =>
      rw [runGenerate_of_build_error hbuild] at h
      cases h
    | ok b => exact ⟨c, b, rfl, hbuild⟩

/-- A generation that finds no definition files succeeds and writes nothing. -/
lemma run_generate_of_no_files {config : Option String} {overrides : Overrides} {dryRun : Bool}
    {c : Config} {b : Build} (hload : Config.load t config = .ok c)
    (hbuild : Build.run (c.override overrides) t = .ok b) (hfiles : b.files = 0) :
    ((generate config overrides dryRun).run t).exitCode = 0 ∧
      ((generate config overrides dryRun).run t).tree = t := by
  rw [run_generate_of_load hload, runGenerate_of_no_files hbuild hfiles]
  exact ⟨rfl, rfl⟩

/-- Generation brings the module up to date. If it succeeds and all files load, a validation with
the same options succeeds after it, unless the generation found no files and the module was not up
to date already, or the generation has written or created what generations depend on. A generation
that finds no files succeeds and leaves the tree as it was, so the validation after it says what it
would have said before. -/
theorem exitCode_validate_after_generate (t : FileTree) (config input : Option String) :
    let generated := (generate config { input } false).run t
    let validated (tree : FileTree) := (validate none input config).run tree
    (generated.exitCode = 0 →
      ∃ c₀ b, Config.load t config = .ok c₀ ∧
        let c := c₀.override { input }
        Build.run c t = .ok b ∧
          (b.errors = [] → Apart config c t generated.tree →
            ((validated generated.tree).exitCode = 0 ↔
              b.files ≠ 0 ∨ UpToDate c c.outputPath t))) ∧
      ∀ c₀ b, Config.load t config = .ok c₀ → Build.run (c₀.override { input }) t = .ok b →
        b.files = 0 → generated.exitCode = 0 ∧ generated.tree = t ∧
          validated generated.tree = validated t := by
  intro generated validated
  constructor
  · intro hgenerate
    obtain ⟨c₀, b, hload, hbuild⟩ := exists_of_exitCode_generate hgenerate
    refine ⟨c₀, b, hload, hbuild, ?_⟩
    intro herrors hapart
    have hrun : generated = runGenerate (c₀.override { input }) false t :=
      run_generate_of_load hload { input }
    by_cases hfiles : b.files = 0
    · -- Nothing was written, so the validation meets the tree as it was.
      have hsame : generated.tree = t := (run_generate_of_no_files hload hbuild hfiles).2
      have hvalidate : (validated t).exitCode = 0 ↔
          UpToDate (c₀.override { input }) (c₀.override { input }).outputPath t :=
        (exitCode_runValidate_of_load hload none input).2
      rw [hsame, hvalidate]
      simp [hfiles]
    · have hgrows := grows_runGenerate (c₀.override { input }) false t
      rw [hrun] at hgenerate
      have hread := readText_runGenerate hbuild hfiles (Outcome.exitCode_eq_zero_iff.mp hgenerate)
      rw [← hrun] at hgrows hread
      obtain ⟨hload', hbuild'⟩ := hapart.load_and_build hgrows hbuild
      have hvalidate := (exitCode_runValidate_of_load (hload'.trans hload) none input).2
      have hcurrent : UpToDate (c₀.override { input }) (c₀.override { input }).outputPath
          generated.tree := ⟨_, b, hread, hbuild', herrors, rfl⟩
      simp only [ne_eq, hfiles, not_false_eq_true, true_or, iff_true]
      exact hvalidate.mpr hcurrent
  · intro c₀ b hload hbuild hfiles
    obtain ⟨hexit, htree⟩ := run_generate_of_no_files hload hbuild hfiles
    exact ⟨hexit, htree, congrArg validated htree⟩

/-- A module that is out of date is brought up to date, and without definition files nothing is
written. -/
theorem exitCode_validate_after_generate_of_stale_module :
    let t : FileTree :=
      { nodes := [(["defs"], .directory),
          (["defs", "A.json"], .file (.text "\x7b\"type\": \"string\"\x7d")),
          (["generated"], .directory),
          (["generated", "schemas.ts"], .file (.text "stale"))] }
    let t' := ((generate none { input := some "defs" } false).run t).tree
    let empty : FileTree := { nodes := [(["defs"], .directory)] }
    ((validate none (some "defs") none).run t).exitCode = 2 ∧
      ((generate none { input := some "defs" } false).run t).exitCode = 0 ∧
      Apart none (({} : Config).override { input := some "defs" }) t t' ∧
      ((validate none (some "defs") none).run t').exitCode = 0 ∧
      ((generate none { input := some "defs" } false).run empty).exitCode = 0 ∧
      ((generate none { input := some "defs" } false).run empty).tree = empty := by
  intro t t' empty
  have hgenerate : ((generate none { input := some "defs" } false).run t).exitCode = 0 := by
    decide +kernel
  have hload : Config.load t none = .ok {} := by decide +kernel
  have hapart : Apart none (({} : Config).override { input := some "defs" }) t t' := by
    constructor
    · refine not_reads ["defs"] ?_ ?_ ?_ ?_ ?_ <;> decide +kernel
    · refine unprobed ["defs"] ?_ ?_ ?_ ?_ ?_ ?_ <;> decide +kernel
  have hbuilds : ((Build.run (({} : Config).override { input := some "defs" }) t).toOption.any
      fun b => b.errors.isEmpty && b.files != 0) = true := by decide +kernel
  have hnone : ((Build.run (({} : Config).override { input := some "defs" }) empty).toOption.any
      fun b => b.files == 0) = true := by decide +kernel
  obtain ⟨c₀, b, hload', hbuild, hvalidate⟩ :=
    (exitCode_validate_after_generate t none (some "defs")).1 hgenerate
  cases hload.symm.trans hload'
  rw [hbuild] at hbuilds
  simp only [Except.toOption, Option.any_some, Bool.and_eq_true, List.isEmpty_iff,
    bne_iff_ne] at hbuilds
  cases hempty : Build.run (({} : Config).override { input := some "defs" }) empty with
  | error e =>
    rw [hempty] at hnone
    cases hnone
  | ok e =>
    rw [hempty] at hnone
    have hload₀ : Config.load empty none = .ok {} := by decide +kernel
    obtain ⟨hexit, htree, -⟩ :=
      (exitCode_validate_after_generate empty none (some "defs")).2 {} e hload₀ hempty
        (by simpa [Except.toOption] using hnone)
    exact ⟨by decide +kernel, hgenerate, hapart,
      (hvalidate hbuilds.1 hapart).mpr (Or.inl hbuilds.2), hexit, htree⟩

/-- After a generation that finds no definition files the module is still missing, and after one
that puts the module into a new repository the definition files are ignored. Neither module is a
file that is read. -/
theorem exitCode_validate_after_generate_eq_two :
    let Fails (t : FileTree) (c : Config) : Prop :=
      Config.load t none = .ok c ∧ ¬Reads none c t (t.destination c.outputPath) ∧
        ((Build.run c t).toOption.any fun b => b.errors.isEmpty) = true ∧
        ((generate none {} false).run t).exitCode = 0 ∧
        ((validate none none none).run ((generate none {} false).run t).tree).exitCode = 2
    Fails { nodes := [(["definitions"], .directory)] } {} ∧
      Fails
        { nodes := [(["zodgen.toml"], .file (.text "[output]\ndir = \".git\"\n")),
            ([".gitignore"], .file (.text "*.json\n")),
            (["definitions"], .directory),
            (["definitions", "A.json"], .file (.text "\x7b\"type\": \"string\"\x7d"))] }
        { output := { dir := ".git" } } := by
  intro Fails
  constructor
  · refine ⟨?_, not_reads ["definitions"] ?_ ?_ ?_ ?_ ?_, ?_, ?_, ?_⟩ <;> decide +kernel
  · refine ⟨?_, not_reads ["definitions"] ?_ ?_ ?_ ?_ ?_, ?_, ?_, ?_⟩ <;> decide +kernel

end SchemaForge.Command
