import SchemaForge.Proofs.CommandOutcomes
import SchemaForge.Proofs.Footprint

/-!
# What commands touch

A validation, a print and a dry run leave the file tree as it is. A generation touches its module and
creates directories, and once it has written the module, a second generation finds it up to date,
provided that it writes nothing that it depends on. An initialization touches its file.
-/

namespace SchemaForge.Command

variable {t t' : FileTree} {c : Config} {b : Build}

/-! ### Commands that only look -/

lemma tree_runPrint (file : String) (name : Option String) : (runPrint file name t).tree = t := by
  unfold runPrint
  dsimp only
  split
  · rfl
  · split
    · rfl
    · split <;> rfl

lemma tree_compareModule (existing : String) : (compareModule existing c t).tree = t := by
  unfold compareModule
  dsimp only
  split
  · rfl
  · split
    · rfl
    · split <;> rfl

lemma tree_runValidate (path input config : Option String) :
    (runValidate path input config t).tree = t := by
  unfold runValidate
  dsimp only
  split
  · rfl
  · split
    · rfl
    · split
      · rfl
      · exact tree_compareModule _

/-! ### Generation -/

lemma tree_runGenerate (hbuild : Build.run c t = .ok b) (hfiles : b.files ≠ 0) (dryRun : Bool) :
    (runGenerate c dryRun t).tree = (t.update dryRun c.outputPath b.output.content).1 := by
  rcases hupdate : t.update dryRun c.outputPath b.output.content with ⟨t', result⟩
  cases result with
  | error e => rw [runGenerate_of_write_error hbuild hfiles hupdate]
  | ok outcome => rw [runGenerate_of_update hbuild hfiles hupdate]

lemma tree_runGenerate_dryRun : (runGenerate c true t).tree = t := by
  cases hbuild : Build.run c t with
  | error e => rw [runGenerate_of_build_error hbuild]
  | ok b =>
    by_cases hfiles : b.files = 0
    · rw [runGenerate_of_no_files hbuild hfiles]
    · rw [tree_runGenerate hbuild hfiles]
      rfl

lemma grows_runGenerate (c : Config) (dryRun : Bool) (t : FileTree) :
    FileTree.Grows (t.destination c.outputPath) t (runGenerate c dryRun t).tree := by
  cases hbuild : Build.run c t with
  | error e =>
    rw [runGenerate_of_build_error hbuild]
    exact FileTree.Grows.refl _ t
  | ok b =>
    by_cases hfiles : b.files = 0
    · rw [runGenerate_of_no_files hbuild hfiles]
      exact FileTree.Grows.refl _ t
    · rw [tree_runGenerate hbuild hfiles]
      exact FileTree.grows_update t dryRun c.outputPath b.output.content

/-- A generation that succeeds and finds files leaves the module of its build. -/
lemma readText_runGenerate (hbuild : Build.run c t = .ok b) (hfiles : b.files ≠ 0)
    (h : (runGenerate c false t).error = none) :
    (runGenerate c false t).tree.readText c.outputPath = .ok b.output.content := by
  rcases hupdate : t.update false c.outputPath b.output.content with ⟨t', result⟩
  cases result with
  | error e =>
    rw [runGenerate_of_write_error hbuild hfiles hupdate] at h
    cases h
  | ok outcome =>
    rw [tree_runGenerate hbuild hfiles, hupdate]
    exact (FileTree.readText_of_update hupdate).1

/-- Only the lines on what became of the module begin with a mark. -/
lemma not_suffix_of_unmarked {printed : List String} {path : String} {bytes : Nat}
    (h : ∀ line ∈ printed, line.toList.head? ≠ some '✓') :
    ¬writeLines (.written path bytes) <:+ printed := by
  intro hsuffix
  have hmem := hsuffix.subset (List.mem_singleton.mpr rfl)
  exact h _ hmem (by simp)

lemma head?_ne_of_mem_buildLines {line : String} (h : line ∈ buildLines b) :
    line.toList.head? ≠ some '✓' := by
  simp only [buildLines, List.mem_append, List.mem_singleton, List.mem_map] at h
  rcases h with ((rfl | hfailed) | rfl) | ⟨name, -, rfl⟩
  · simp
  · split at hfailed
    · cases hfailed
    · rcases List.mem_cons.mp hfailed with rfl | hfailed
      · simp
      · obtain ⟨e, -, rfl⟩ := List.mem_map.mp hfailed
        simp
  · simp
  · simp

/-- A generation that reports a written module has found files and succeeds. -/
lemma exists_of_written {bytes : Nat}
    (h : writeLines (.written c.outputPath bytes) <:+ (runGenerate c false t).printed) :
    ∃ b, Build.run c t = .ok b ∧ b.files ≠ 0 ∧
      (runGenerate c false t).tree.readText c.outputPath = .ok b.output.content := by
  cases hbuild : Build.run c t with
  | error e =>
    rw [runGenerate_of_build_error hbuild] at h
    exact absurd h (not_suffix_of_unmarked (by simp))
  | ok b =>
    by_cases hfiles : b.files = 0
    · rw [runGenerate_of_no_files hbuild hfiles] at h
      exact absurd h (not_suffix_of_unmarked (by simp))
    · rcases hupdate : t.update false c.outputPath b.output.content with ⟨t', result⟩
      cases result with
      | error e =>
        rw [runGenerate_of_write_error hbuild hfiles hupdate] at h
        refine absurd h (not_suffix_of_unmarked ?_)
        intro line hline
        rcases List.mem_append.mp hline with hstarted | hbuilt
        · simp [List.mem_singleton.mp hstarted]
        · exact head?_ne_of_mem_buildLines hbuilt
      | ok outcome =>
        refine ⟨b, rfl, hfiles, readText_runGenerate hbuild hfiles ?_⟩
        rw [runGenerate_of_update hbuild hfiles hupdate]

/-- A module that is up to date is not written again. -/
lemma runGenerate_of_readText (hbuild : Build.run c t = .ok b) (hfiles : b.files ≠ 0)
    (hread : t.readText c.outputPath = .ok b.output.content) :
    (runGenerate c false t).error = none ∧ (runGenerate c false t).tree = t ∧
      writeLines (.unchanged c.outputPath) <:+ (runGenerate c false t).printed := by
  rw [runGenerate_of_update hbuild hfiles (FileTree.update_of_readText hread)]
  exact ⟨rfl, rfl, List.suffix_append _ _⟩

lemma run_generate_again {config : Option String} (overrides : Overrides)
    (hload : Config.load t config = .ok c)
    (hbuild : Build.run (c.override overrides) t = .ok b) (hfiles : b.files ≠ 0)
    (hgrows : FileTree.Grows (t.destination (c.override overrides).outputPath) t t')
    (hread : t'.readText (c.override overrides).outputPath = .ok b.output.content)
    (hapart : Apart config (c.override overrides) t t') :
    let o := (generate config overrides false).run t'
    o.error = none ∧ o.tree = t' ∧
      writeLines (.unchanged (c.override overrides).outputPath) <:+ o.printed := by
  obtain ⟨hload', hbuild'⟩ := hapart.load_and_build hgrows hbuild
  rw [run_generate_of_load (hload'.trans hload)]
  exact runGenerate_of_readText hbuild' hfiles hread

/-! ### Initialization -/

lemma node?_runInit (output : String) (force : Bool) {l : Location}
    (hl : l ≠ t.destination output) : (runInit output force t).tree.node? l = t.node? l := by
  unfold runInit
  split
  · rfl
  · split
    · rfl
    · rename_i t' hwrite
      obtain ⟨hnew, rfl⟩ := FileTree.exists_of_writeText hwrite
      rw [FileTree.node?_put (FileTree.ne_nil_of_locateNew hnew), if_neg hl]

/-- Without force, a file is written only where there is no node. -/
lemma tree_runInit_of_isSome {output : String}
    (h : (t.node? (t.destination output)).isSome = true) : (runInit output false t).tree = t := by
  unfold runInit
  split
  · rfl
  · rename_i hexists
    split
    · rfl
    · rename_i t' hwrite
      obtain ⟨hnew, -⟩ := FileTree.exists_of_writeText hwrite
      have hgrows := FileTree.Grows.refl (t.destination output) t
      have hlocate := FileTree.locate_of_locateNew hgrows hnew h
      simp [FileTree.pathExists, hlocate, Except.isOk, Except.toBool] at hexists

/-! ### All commands -/

/-- What commands touch. A generation leaves everything as it is if it has no module to write; it
changes nothing but the module and creates directories only; and if it reports that it has written
the module, the module is there, and a second generation reports that it is up to date and changes
nothing, unless the first one has written or created what generations depend on. -/
theorem run_touches_own (t : FileTree) :
    (∀ path input config, ((validate path input config).run t).tree = t) ∧
      (∀ file name, ((print file name).run t).tree = t) ∧
      (∀ config overrides, ((generate config overrides true).run t).tree = t) ∧
      (∀ config overrides,
        let o := (generate config overrides false).run t
        (∀ e, Config.load t config = .error e → o.tree = t) ∧
          ∀ c₀, Config.load t config = .ok c₀ →
            let c := c₀.override overrides
            (∀ e, Build.run c t = .error e → o.tree = t) ∧
              (∀ l, l ≠ t.destination c.outputPath →
                o.tree.node? l = t.node? l ∨
                  t.node? l = none ∧ o.tree.node? l = some .directory) ∧
              ∀ bytes, writeLines (.written c.outputPath bytes) <:+ o.printed →
                ∃ b, Build.run c t = .ok b ∧
                  o.tree.readText c.outputPath = .ok b.output.content ∧
                  (Apart config c t o.tree →
                    let o' := (generate config overrides false).run o.tree
                    o'.error = none ∧ o'.tree = o.tree ∧
                      writeLines (.unchanged c.outputPath) <:+ o'.printed)) ∧
      ∀ output force,
        let o := (init output force).run t
        (∀ l, l ≠ t.destination output → o.tree.node? l = t.node? l) ∧
          (force = false → (t.node? (t.destination output)).isSome = true → o.tree = t) := by
  refine ⟨fun path input config => tree_runValidate path input config,
    fun file name => tree_runPrint file name, ?_, ?_, ?_⟩
  · intro config overrides
    cases hload : Config.load t config with
    | error e => rw [run_generate_of_load_error hload]
    | ok c =>
      rw [run_generate_of_load hload]
      exact tree_runGenerate_dryRun
  · intro config overrides o
    constructor
    · intro e hload
      simp only [o, run_generate_of_load_error hload]
    · intro c₀ hload c
      have ho : o = runGenerate c false t := run_generate_of_load hload overrides
      have hgrows := grows_runGenerate c false t
      rw [← ho] at hgrows
      refine ⟨?_, ?_, ?_⟩
      · intro e hbuild
        rw [ho, runGenerate_of_build_error hbuild]
      · intro l hl
        cases hnode : t.node? l with
        | some n =>
          left
          rw [hgrows.kept l hl (by simp [hnode]), hnode]
        | none => simpa using hgrows.added l hl hnode
      · intro bytes hwritten
        rw [ho] at hwritten
        obtain ⟨b, hbuild, hfiles, hread⟩ := exists_of_written hwritten
        rw [← ho] at hread
        refine ⟨b, hbuild, hread, ?_⟩
        intro hapart
        exact run_generate_again overrides hload hbuild hfiles hgrows hread hapart
  · intro output force o
    constructor
    · intro l hl
      exact node?_runInit output force hl
    · rintro rfl hsome
      exact tree_runInit_of_isSome hsome

/-- A project whose module is written into a directory that is missing. -/
theorem run_touches_own_of_new_directory :
    let t : FileTree :=
      { nodes := [(["definitions"], .directory),
          (["definitions", "A.json"], .file (.text "\x7b\"type\": \"string\"\x7d"))] }
    let o := (generate none {} false).run t
    let o' := (generate none {} false).run o.tree
    writeLines (.written "./generated/schemas.ts" 155) <:+ o.printed ∧
      Apart none {} t o.tree ∧ t.pathExists "generated" = false ∧
      o'.error = none ∧ o'.tree = o.tree ∧
      writeLines (.unchanged "./generated/schemas.ts") <:+ o'.printed := by
  intro t o o'
  have hload : Config.load t none = .ok {} := by decide +kernel
  have hwritten : writeLines (.written "./generated/schemas.ts" 155) <:+ o.printed := by
    decide +kernel
  have hapart : Apart none {} t o.tree := by
    constructor
    · refine not_reads ["definitions"] ?_ ?_ ?_ ?_ ?_ <;> decide +kernel
    · refine unprobed ["definitions"] ?_ ?_ ?_ ?_ ?_ ?_ <;> decide +kernel
  obtain ⟨b, -, -, hagain⟩ :=
    ((run_touches_own t).2.2.2.1 none {}).2 {} hload |>.2.2 155 hwritten
  exact ⟨hwritten, hapart, by decide +kernel, hagain hapart⟩

/-- A module that no generation reads is written into a directory in the place of the configuration
file, and the second generation fails. -/
theorem generate_again_of_config_directory :
    let t : FileTree :=
      { nodes := [(["definitions"], .directory),
          (["definitions", "A.json"], .file (.text "\x7b\"type\": \"string\"\x7d"))] }
    let overrides : Overrides := { output := some "zodgen.toml" }
    let c := ({} : Config).override overrides
    let o := (generate none overrides false).run t
    let o' := (generate none overrides false).run o.tree
    Config.load t none = .ok {} ∧ ¬Reads none c t (t.destination c.outputPath) ∧
      writeLines (.written c.outputPath 155) <:+ o.printed ∧ o'.exitCode = 1 ∧
      ¬writeLines (.unchanged c.outputPath) <:+ o'.printed := by
  intro t overrides c o o'
  refine ⟨?_, not_reads ["definitions"] ?_ ?_ ?_ ?_ ?_, ?_, ?_, ?_⟩ <;> decide +kernel

end SchemaForge.Command
