import SchemaForge.Build
import SchemaForge.Command.Line
import SchemaForge.Write

/-!
# Commands

What a command prints, how it exits and what it leaves in the file tree.
-/

namespace SchemaForge

/-- Why a command fails. -/
inductive CommandError where
  | scan (error : ScanError)
  | load (error : LoadError)
  | config (error : ConfigError)
  | write (error : WriteError)
  | clash (clash : Clash)
  | noDefinition (name path : String)
  | configExists (path : String)
  | moduleMissing (path : String)
  | moduleStale
  | unusable (error : FileError)

namespace CommandError

def message : CommandError → String
  | scan e => "Failed to scan directory: " ++ e.message
  | load e => "Failed to load definitions: " ++ e.message
  | config e => "Failed to load configuration: " ++ e.message
  | write e => "Failed to write output: " ++ e.message
  | clash c => c.message
  | noDefinition name path => "No definition named '" ++ name ++ "' in " ++ path
  | configExists path =>
    "Configuration file already exists: " ++ path ++ " (use --force to overwrite)"
  | moduleMissing path => "Validation failed: Schema file not found: " ++ path
  | moduleStale => "Validation failed: Schemas are out of date"
  | unusable e => "IO error: " ++ e.message

/-- A module that is missing or stale has a status of its own. -/
def exitCode : CommandError → Nat
  | moduleMissing _ | moduleStale => 2
  | _ => 1

def ofBuild : BuildError → CommandError
  | .scan e => scan e
  | .clash c => clash c

end CommandError

/-- What a command did. -/
structure Outcome where
  /-- The file tree afterwards. -/
  tree : FileTree
  /-- The lines that were printed. -/
  printed : List String := []
  warnings : List Warning := []
  error : Option CommandError := none

namespace Outcome

def exitCode (o : Outcome) : Nat := (o.error.map CommandError.exitCode).getD 0

/-- The text on standard output. -/
def output (o : Outcome) : String := String.join (o.printed.map (· ++ "\n"))

end Outcome

namespace Command

def ruler : String := String.ofList (List.replicate 60 '─')

/-- The lines on what became of the module. -/
def writeLines : WriteOutcome → List String
  | .written path bytes => ["✓ Written " ++ bytes.repr ++ " bytes to " ++ path]
  | .unchanged path => ["✓ " ++ path ++ " is up-to-date"]
  | .dryRun path content =>
    ["[dry-run] Would write to " ++ path ++ ":", ruler, content, ruler]

/-- The lines on a build. -/
def buildLines (b : Build) : List String :=
  ["  Found " ++ b.files.repr ++ " definition file(s)"] ++
    (if b.errors.isEmpty then []
      else
        ("Warning: " ++ b.errors.length.repr ++ " file(s) failed to load:") ::
          b.errors.map fun e => "  " ++ e.line) ++
    ["  Generated " ++ b.output.exports.length.repr ++ " schema(s)"] ++
    b.output.unresolved.map fun name => "Warning: '" ++ name ++ "' is referenced but never defined"

/-- Build the module of a configuration and write it. -/
def runGenerate (c : Config) (dryRun : Bool) (t : FileTree) : Outcome :=
  let started := ["Scanning for definitions in " ++ c.input.dir]
  let warnings := Build.warnings c t
  match Build.run c t with
  | .error e => { tree := t, printed := started, warnings, error := some (.ofBuild e) }
  | .ok b =>
    if b.files = 0 then
      { tree := t, printed := started ++ ["No definition files found."], warnings }
    else
      let built := started ++ buildLines b
      match t.update dryRun c.outputPath b.output.content with
      | (t', .error e) =>
        { tree := t', printed := built, warnings, error := some (.write e) }
      | (t', .ok outcome) => { tree := t', printed := built ++ writeLines outcome, warnings }

/-- Print the schemas of one file, or of one name in it. -/
def runPrint (file : String) (name : Option String) (t : FileTree) : Outcome :=
  let failed (e : CommandError) : Outcome := { tree := t, error := some e }
  match t.readText file with
  | .error e => failed (.unusable e)
  | .ok content =>
    match SourceFile.load ⟨file, content⟩ with
    | .error e => failed (.load e)
    | .ok loaded =>
      let reg := Registry.ofLoaded loaded
      let names := (name.map fun n => [n]).getD reg.names
      match names.find? fun n => !reg.contains n with
      | some missing =>
        { failed (.noDefinition missing file) with warnings := duplicateWarnings loaded }
      | none =>
        let rs := names.filterMap fun n => (reg.generateNamed? n).map fun r => (n, r)
        { tree := t
          printed := rs.map fun (n, r) => n ++ ": " ++ r.text
          warnings :=
            duplicateWarnings loaded ++
              (rs.flatMap fun (_, r) => r.skipped).map .skippedRange }

/-- Write a configuration file. -/
def runInit (output : String) (force : Bool) (t : FileTree) : Outcome :=
  if t.pathExists output && !force then { tree := t, error := some (.configExists output) }
  else
    match t.writeText output Config.defaultText with
    | .error e => { tree := t, error := some (.unusable e) }
    | .ok t' => { tree := t', printed := ["✓ Created configuration file: " ++ output] }

/-- Compare a module with what a build gives, up to blanks at either end. -/
def compareModule (existing : String) (c : Config) (t : FileTree) : Outcome :=
  let started := ["Validating schemas..."]
  let warnings := Build.warnings c t
  let failed (e : CommandError) : Outcome :=
    { tree := t, printed := started, warnings, error := some e }
  match Build.run c t with
  | .error e => failed (.ofBuild e)
  | .ok b =>
    match b.errors with
    | e :: _ => failed (.load e)
    | [] =>
      if Text.trim existing = Text.trim b.output.content then
        { tree := t, printed := started ++ ["✓ Schemas are up-to-date"], warnings }
      else
        { failed .moduleStale with
          printed :=
            started ++ ["✗ Schemas are out of date", "  Run 'zodgen generate' to update"] }

/-- Check that a module is up to date. -/
def runValidate (path input config : Option String) (t : FileTree) : Outcome :=
  let failed (e : CommandError) : Outcome :=
    { tree := t, printed := ["Validating schemas..."], error := some e }
  match Config.load t config with
  | .error e => failed (.config e)
  | .ok c =>
    let c := c.override { input }
    let path := path.getD c.outputPath
    if !t.pathExists path then failed (.moduleMissing path)
    else
      match t.readText path with
      | .error e => failed (.unusable e)
      | .ok existing => compareModule existing c t

/-- Run a command. -/
def run (command : Command) (t : FileTree) : Outcome :=
  match command with
  | generate config overrides dryRun =>
    match Config.load t config with
    | .error e => { tree := t, error := some (.config e) }
    | .ok c => runGenerate (c.override overrides) dryRun t
  | print file name => runPrint file name t
  | init output force => runInit output force t
  | validate path input config => runValidate path input config t

end Command

/-- How the program ends on a command line. -/
inductive Ending where
  /-- The command line is not accepted. -/
  | rejected
  /-- Help or the version is shown. -/
  | informed
  | ran (outcome : Outcome)
  /-- A watch goes on until it is stopped. -/
  | watching

namespace Ending

def ofArguments (args : List String) (t : FileTree) : Ending :=
  match Request.ofArguments? args with
  | none => rejected
  | some (.command command) => ran (command.run t)
  | some (.watch _ _ _) => watching
  | some .help | some .version => informed

/-- The status of the program, once it has ended. -/
def status? : Ending → Option Nat
  | rejected => some 2
  | informed => some 0
  | ran outcome => some outcome.exitCode
  | watching => none

end Ending

end SchemaForge
