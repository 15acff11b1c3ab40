import SchemaForge.FileTree
import SchemaForge.Module
import SchemaForge.Toml.Reader

/-!
# Configuration

Where definitions are read from and where the module goes: defaults, a configuration file over
them, and options of the command line over both.
-/

namespace SchemaForge

structure InputConfig where
  dir : String := "./definitions"
  /-- The filter on paths below the directory. -/
  pattern : String := "**/*.json"
  gitignore : Bool := true
  deriving DecidableEq

structure OutputConfig where
  dir : String := "./generated"
  file : String := "schemas.ts"
  types : Bool := true
  header : Bool := true
  deriving DecidableEq

structure Config where
  input : InputConfig := {}
  output : OutputConfig := {}
  deriving DecidableEq

/-- Why no configuration could be loaded. -/
inductive ConfigError where
  | notFound (path : String)
  | invalidToml (path : String)
  | unreadable (path : String) (error : FileError)
  deriving DecidableEq

/-- The message; what is wrong with a document is not part of it. -/
def ConfigError.message : ConfigError → String
  | notFound path => "Configuration file not found: " ++ path
  | invalidToml path => "Invalid TOML in " ++ path
  | unreadable path error => "Failed to read config " ++ path ++ ": " ++ error.message

/-- Options of the command line that override a configuration. -/
structure Overrides where
  input : Option String := none
  filter : Option String := none
  output : Option String := none
  outputFile : Option String := none
  types : Option Bool := none
  deriving DecidableEq

namespace Config

/-- The file that is read if no other is given. -/
def defaultFile : String := "zodgen.toml"

/-- A setting and how its value is taken over; nothing if the value has the wrong type. -/
abbrev Setting (α : Type) := String × (α → Toml → Option α)

def textSetting {α : Type} (name : String) (set : α → String → α) : Setting α :=
  (name, fun a v =>
    match v with
    | .text s => some (set a s)
    | _ => none)

def flagSetting {α : Type} (name : String) (set : α → Bool → α) : Setting α :=
  (name, fun a v =>
    match v with
    | .bool b => some (set a b)
    | _ => none)

/-- Take over the entries of a table; others than the settings are ignored. -/
def applyTable {α : Type} (settings : List (Setting α)) (a : α) :
    List (String × Toml) → Option α
  | [] => some a
  | (name, v) :: rest =>
    match settings.lookup name with
    | none => applyTable settings a rest
    | some set => (set a v).bind fun a => applyTable settings a rest

/-- Take over the items of a list, one for each setting in order. -/
def applyList {α : Type} : List (Setting α) → α → List Toml → Option α
  | (_, set) :: settings, a, v :: rest => (set a v).bind fun a => applyList settings a rest
  | _, a, _ => some a

/-- Take over a section, which is a table or a list of the settings in order. A time is a record
of parts that are no settings. -/
def applySection {α : Type} (settings : List (Setting α)) (a : α) : Toml → Option α
  | .table entries => applyTable settings a entries
  | .list items => applyList settings a items
  | .time => some a
  | _ => none

def inputSettings : List (Setting InputConfig) :=
  [textSetting "dir" fun c s => { c with dir := s },
    textSetting "pattern" fun c s => { c with pattern := s },
    flagSetting "gitignore" fun c b => { c with gitignore := b }]

def outputSettings : List (Setting OutputConfig) :=
  [textSetting "dir" fun c s => { c with dir := s },
    textSetting "file" fun c s => { c with file := s },
    flagSetting "generate_types" fun c b => { c with types := b },
    flagSetting "header" fun c b => { c with header := b }]

def sections : List (Setting Config) :=
  [("input", fun c v => (applySection inputSettings {} v).map fun input => { c with input }),
    ("output", fun c v => (applySection outputSettings {} v).map fun output => { c with output })]

/-- The configuration of a document. -/
def ofText? (text : String) : Option Config :=
  (Toml.read? text).bind fun entries => applyTable sections {} entries

/-- Load the configuration at a path. Without a path the default file is read if it exists. -/
def load (t : FileTree) (path : Option String) : Except ConfigError Config :=
  let file := path.getD defaultFile
  if !t.pathExists file then
    match path with
    | some p => .error (.notFound p)
    | none => .ok {}
  else
    match t.readText file with
    | .error e => .error (.unreadable file e)
    | .ok text =>
      match ofText? text with
      | some c => .ok c
      | none => .error (.invalidToml file)

/-- A configuration with the options that are given. -/
def override (c : Config) (o : Overrides) : Config :=
  { input :=
      { c.input with
        dir := o.input.getD c.input.dir
        pattern := o.filter.getD c.input.pattern }
    output :=
      { c.output with
        dir := o.output.getD c.output.dir
        file := o.outputFile.getD c.output.file
        types := o.types.getD c.output.types } }

/-- The path of the module. -/
def outputPath (c : Config) : String := Path.join c.output.dir c.output.file

def moduleOptions (c : Config) : ModuleOptions := ⟨c.output.header, c.output.types⟩

/-- A configuration file that says what holds without one. -/
def defaultText : String :=
  "\n".intercalate
    ["# zodgen configuration file",
      "",
      "[input]",
      "# Directory containing JSON type definition files",
      "dir = \"./definitions\"",
      "",
      "# Glob pattern (relative to dir) selecting definition files",
      "pattern = \"**/*.json\"",
      "",
      "# Skip files excluded by .gitignore",
      "gitignore = true",
      "",
      "[output]",
      "# Output directory for generated TypeScript files",
      "dir = \"./generated\"",
      "",
      "# Output file name",
      "file = \"schemas.ts\"",
      "",
      "# Whether to generate type inference exports " ++
        "(export type X = z.infer<typeof XSchema>)",
      "generate_types = true",
      "",
      "# Whether to start the generated module with a do-not-edit comment",
      "header = true",
      ""]

end Config

end SchemaForge
