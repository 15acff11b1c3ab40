import Mathlib.Tactic.Lemma
import SchemaForge.Command.Run

/-!
# Outcomes of commands

What a generation and a validation end with, by what they meet on their way. A failure has the
status one or two, and only a validation has the status two.
-/

namespace SchemaForge

namespace CommandError

lemma exitCode_eq_one_or_two (e : CommandError) : e.exitCode = 1 ∨ e.exitCode = 2 := by
  cases e <;> simp [exitCode]

lemma exitCode_ofBuild (e : BuildError) : (ofBuild e).exitCode = 1 := by
  cases e <;> rfl

end CommandError

namespace Outcome

variable {o : Outcome}

lemma exitCode_of_error {e : CommandError} (h : o.error = some e) : o.exitCode = e.exitCode := by
  simp [exitCode, h]

lemma exitCode_eq_zero_iff : o.exitCode = 0 ↔ o.error = none := by
  cases h : o.error with
  | none => simp [exitCode, h]
  | some e =>
    have hcode := e.exitCode_eq_one_or_two
    rw [exitCode_of_error h]
    simp only [reduceCtorEq, iff_false]
    omega

lemma exitCode_eq_one_iff : o.exitCode = 1 ↔ o.error.isSome = true ∧ o.exitCode ≠ 2 := by
  cases h : o.error with
  | none => simp [exitCode, h]
  | some e =>
    have hcode := e.exitCode_eq_one_or_two
    rw [exitCode_of_error h]
    simp only [Option.isSome_some, true_and]
    omega

end Outcome

namespace Command

variable {t t' : FileTree} {c : Config} {b : Build} {dryRun : Bool}

/-! ### Generation -/

lemma run_generate_of_load {config : Option String} (hload : Config.load t config = .ok c)
    (overrides : Overrides) :
    (generate config overrides dryRun).run t = runGenerate (c.override overrides) dryRun t := by
  simp only [run, hload]

lemma run_generate_of_load_error {config : Option String} {e : ConfigError}
    (hload : Config.load t config = .error e) (overrides : Overrides) :
    (generate config overrides dryRun).run t = { tree := t, error := some (.config e) } := by
  simp only [run, hload]

lemma runGenerate_of_build_error {e : BuildError} (hbuild : Build.run c t = .error e) :
    runGenerate c dryRun t =
      { tree := t, printed := ["Scanning for definitions in " ++ c.input.dir]
        warnings := Build.warnings c t, error := some (.ofBuild e) } := by
  simp only [runGenerate, hbuild]

lemma runGenerate_of_no_files (hbuild : Build.run c t = .ok b) (hfiles : b.files = 0) :
    runGenerate c dryRun t =
      { tree := t
        printed := ["Scanning for definitions in " ++ c.input.dir, "No definition files found."]
        warnings := Build.warnings c t } := by
  simp only [runGenerate, hbuild, hfiles, if_true, List.cons_append, List.nil_append]

lemma runGenerate_of_write_error (hbuild : Build.run c t = .ok b) (hfiles : b.files ≠ 0)
    {e : WriteError} (hupdate : t.update dryRun c.outputPath b.output.content = (t', .error e)) :
    runGenerate c dryRun t =
      { tree := t', printed := ["Scanning for definitions in " ++ c.input.dir] ++ buildLines b
        warnings := Build.warnings c t, error := some (.write e) } := by
  simp only [runGenerate, hbuild, hfiles, if_false, hupdate]

lemma runGenerate_of_update (hbuild : Build.run c t = .ok b) (hfiles : b.files ≠ 0)
    {outcome : WriteOutcome}
    (hupdate : t.update dryRun c.outputPath b.output.content = (t', .ok outcome)) :
    runGenerate c dryRun t =
      { tree := t'
        printed := ["Scanning for definitions in " ++ c.input.dir] ++ buildLines b ++
          writeLines outcome
        warnings := Build.warnings c t } := by
  simp only [runGenerate, hbuild, hfiles, if_false, hupdate]

/-! ### Validation -/

/-- A module is missing, or it can be read and differs from what a build without failures gives,
apart from blanks at either end. -/
def OutOfDate (c : Config) (path : String) (t : FileTree) : Prop :=
  t.pathExists path = false ∨
    ∃ existing b, t.readText path = .ok existing ∧ Build.run c t = .ok b ∧ b.errors = [] ∧
      Text.trim existing ≠ Text.trim b.output.content

/-- A module can be read and agrees with what a build without failures gives, apart from blanks at
either end. -/
def UpToDate (c : Config) (path : String) (t : FileTree) : Prop :=
  ∃ existing b, t.readText path = .ok existing ∧ Build.run c t = .ok b ∧ b.errors = [] ∧
    Text.trim existing = Text.trim b.output.content

lemma pathExists_of_readText {path existing : String} (h : t.readText path = .ok existing) :
    t.pathExists path = true := by
  unfold FileTree.readText at h
  unfold FileTree.pathExists
  cases hlocate : t.locate path with
  | error e =>
    rw [hlocate] at h
    cases h
  | ok here => rfl

lemma exitCode_compareModule (existing : String) :
    (compareModule existing c t).exitCode =
      match Build.run c t with
      | .error _ => 1
      | .ok b =>
        if b.errors ≠ [] then 1
        else if Text.trim existing = Text.trim b.output.content then 0 else 2 := by
  unfold compareModule
  cases Build.run c t with
  | error e => simp [Outcome.exitCode, CommandError.exitCode_ofBuild]
  | ok b =>
    cases herrors : b.errors with
    | cons e es => simp [herrors, Outcome.exitCode, CommandError.exitCode]
    | nil =>
      by_cases htrim : Text.trim existing = Text.trim b.output.content
      · simp [herrors, htrim, Outcome.exitCode]
      · simp [herrors, htrim, Outcome.exitCode, CommandError.exitCode]

section Validate

variable {config path input : Option String}

lemma exitCode_runValidate_of_missing (hload : Config.load t config = .ok c)
    (hexists : t.pathExists (path.getD (c.override { input }).outputPath) = false) :
    (runValidate path input config t).exitCode = 2 := by
  simp [runValidate, hload, hexists, Outcome.exitCode, CommandError.exitCode]

lemma exitCode_runValidate_of_unreadable (hload : Config.load t config = .ok c)
    (hexists : t.pathExists (path.getD (c.override { input }).outputPath) = true) {e : FileError}
    (hread : t.readText (path.getD (c.override { input }).outputPath) = .error e) :
    (runValidate path input config t).exitCode = 1 := by
  simp [runValidate, hload, hexists, hread, Outcome.exitCode, CommandError.exitCode]

lemma runValidate_of_readText (hload : Config.load t config = .ok c) {existing : String}
    (hread : t.readText (path.getD (c.override { input }).outputPath) = .ok existing) :
    runValidate path input config t = compareModule existing (c.override { input }) t := by
  simp [runValidate, hload, pathExists_of_readText hread, hread]

end Validate

lemma exitCode_runValidate_of_load {config : Option String} (hload : Config.load t config = .ok c)
    (path input : Option String) :
    let c' := c.override { input }
    let path' := path.getD c'.outputPath
    ((runValidate path input config t).exitCode = 2 ↔ OutOfDate c' path' t) ∧
      ((runValidate path input config t).exitCode = 0 ↔ UpToDate c' path' t) := by
  intro c' path'
  unfold OutOfDate UpToDate
  cases hexists : t.pathExists path' with
  | false =>
    have hunread : ∀ existing, t.readText path' ≠ .ok existing := by
      intro existing hread
      rw [pathExists_of_readText hread] at hexists
      cases hexists
    simp [exitCode_runValidate_of_missing hload hexists, hunread]
  | true =>
    cases hread : t.readText path' with
    | error e => simp [exitCode_runValidate_of_unreadable hload hexists hread]
    | ok existing =>
      rw [runValidate_of_readText hload hread, exitCode_compareModule]
      cases hbuild : Build.run c' t with
      | error e => simp
      | ok b =>
        by_cases herrors : b.errors = []
        · by_cases htrim : Text.trim existing = Text.trim b.output.content <;>
            simp [herrors, htrim]
        · simp [herrors]

lemma exitCode_runValidate_of_load_error {config : Option String} {e : ConfigError}
    (hload : Config.load t config = .error e) (path input : Option String) :
    (runValidate path input config t).exitCode = 1 := by
  simp [runValidate, hload, Outcome.exitCode, CommandError.exitCode]

end Command

end SchemaForge
