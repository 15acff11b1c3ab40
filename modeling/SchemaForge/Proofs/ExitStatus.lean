import SchemaForge.Proofs.CommandOutcomes

/-!
# Exit statuses

The status of the program tells a module that is out of date from every other failure of a command.
A command line that is not accepted has the status of a module that is out of date.
-/

namespace SchemaForge

namespace Command

variable {t : FileTree}

lemma exitCode_runGenerate_ne_two (c : Config) (dryRun : Bool) :
    (runGenerate c dryRun t).exitCode ≠ 2 := by
  cases hbuild : Build.run c t with
  | error e =>
    rw [runGenerate_of_build_error hbuild]
    simp [Outcome.exitCode, CommandError.exitCode_ofBuild]
  | ok b =>
    by_cases hfiles : b.files = 0
    · rw [runGenerate_of_no_files hbuild hfiles]
      simp [Outcome.exitCode]
    · rcases hupdate : t.update dryRun c.outputPath b.output.content with ⟨t', result⟩
      cases result with
      | error e =>
        rw [runGenerate_of_write_error hbuild hfiles hupdate]
        simp [Outcome.exitCode, CommandError.exitCode]
      | ok outcome =>
        rw [runGenerate_of_update hbuild hfiles hupdate]
        simp [Outcome.exitCode]

lemma exitCode_runPrint_ne_two (file : String) (name : Option String) :
    (runPrint file name t).exitCode ≠ 2 := by
  unfold runPrint
  dsimp only
  split
  · simp [Outcome.exitCode, CommandError.exitCode]
  · split
    · simp [Outcome.exitCode, CommandError.exitCode]
    · split <;> simp [Outcome.exitCode, CommandError.exitCode]

lemma exitCode_runInit_ne_two (output : String) (force : Bool) :
    (runInit output force t).exitCode ≠ 2 := by
  unfold runInit
  split
  · simp [Outcome.exitCode, CommandError.exitCode]
  · split <;> simp [Outcome.exitCode, CommandError.exitCode]

/-- Only a validation ends with the status two, and only for a module that is out of date. -/
lemma exitCode_run_eq_two_iff (command : Command) :
    (command.run t).exitCode = 2 ↔
      ∃ path input config c, command = .validate path input config ∧
        Config.load t config = .ok c ∧
        OutOfDate (c.override { input }) (path.getD (c.override { input }).outputPath) t := by
  cases command with
  | generate config overrides dryRun =>
    have hne : ((generate config overrides dryRun).run t).exitCode ≠ 2 := by
      cases hload : Config.load t config with
      | error e =>
        rw [run_generate_of_load_error hload]
        simp [Outcome.exitCode, CommandError.exitCode]
      | ok c =>
        rw [run_generate_of_load hload]
        exact exitCode_runGenerate_ne_two _ dryRun
    simp [hne]
  | print file name =>
    have hne := exitCode_runPrint_ne_two (t := t) file name
    simp [run, hne]
  | init output force =>
    have hne := exitCode_runInit_ne_two (t := t) output force
    simp [run, hne]
  | validate path input config =>
    cases hload : Config.load t config with
    | error e =>
      have hone := exitCode_runValidate_of_load_error hload path input
      simp [run, hone, hload]
    | ok c =>
      have htwo := (exitCode_runValidate_of_load hload path input).1
      constructor
      · intro h
        exact ⟨path, input, config, c, rfl, hload, htwo.mp h⟩
      · rintro ⟨_, _, _, c', heq, hload', hout⟩
        cases heq
        rw [hload] at hload'
        cases hload'
        exact htwo.mpr hout

end Command

namespace Ending

/-- The statuses of the program. Two stands for a command line that is not accepted, and for a
validation whose configuration loads and whose module is out of date; one stands for every other
failure of a command, and zero for everything else that ends. -/
theorem status_iff (args : List String) (t : FileTree) :
    let OutOfDate (command : Command) := ∃ path input config c,
      command = .validate path input config ∧ Config.load t config = .ok c ∧
        Command.OutOfDate (c.override { input }) (path.getD (c.override { input }).outputPath) t
    ((ofArguments args t).status? = some 2 ↔
        Request.ofArguments? args = none ∨
          ∃ command, Request.ofArguments? args = some (.command command) ∧ OutOfDate command) ∧
      ((ofArguments args t).status? = some 1 ↔
        ∃ command, Request.ofArguments? args = some (.command command) ∧
          (command.run t).error.isSome = true ∧ ¬OutOfDate command) ∧
      ((ofArguments args t).status? = some 0 ↔
        Request.ofArguments? args = some .help ∨ Request.ofArguments? args = some .version ∨
          ∃ command, Request.ofArguments? args = some (.command command) ∧
            (command.run t).error = none) := by
  intro OutOfDate
  unfold ofArguments
  cases Request.ofArguments? args with
  | none => simp [status?]
  | some request =>
    cases request with
    | command command =>
      have htwo : (command.run t).exitCode = 2 ↔ OutOfDate command :=
        Command.exitCode_run_eq_two_iff command
      have hone := Outcome.exitCode_eq_one_iff (o := command.run t)
      have hzero := Outcome.exitCode_eq_zero_iff (o := command.run t)
      simp [status?, htwo, hone, hzero]
    | watch config overrides dryRun => simp [status?]
    | help => simp [status?]
    | version => simp [status?]

/-- An unknown command is not accepted, and no module is out of date. -/
theorem status_of_unknown_command :
    Request.ofArguments? ["bogus"] = none ∧ (ofArguments ["bogus"] {}).status? = some 2 := by
  decide +kernel

end Ending

end SchemaForge
