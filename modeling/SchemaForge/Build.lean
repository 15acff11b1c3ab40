import SchemaForge.Config
import SchemaForge.Load
import SchemaForge.Scan

/-!
# Builds

A build scans a directory, loads what it finds and generates the module.
-/

namespace SchemaForge

/-- The result of a build. Files that fail to load are missing from the module. -/
structure Build where
  files : Nat
  errors : List LoadError
  output : Module

/-- Why there is no module. -/
inductive BuildError where
  | scan (error : ScanError)
  | clash (clash : Clash)

namespace Build

/-- The definition files of a configuration. -/
def scan (c : Config) (t : FileTree) : Except ScanError (List Found) := do
  let filter ← Scan.parseFilter c.input.pattern
  ({ root := c.input.dir, gitignore := c.input.gitignore, filter := some filter } : Scan).find t

def sources (found : List Found) : List SourceFile := found.map fun f => ⟨f.path, f.content⟩

/-- The module of files. -/
def ofFiles (options : ModuleOptions) (files : List SourceFile) : Except Clash Build :=
  (Module.generate options (.ofLoaded (SourceFile.loadedOf files))).map fun output =>
    { files := files.length, errors := SourceFile.errorsOf files, output }

/-- What is noticed on the way from files to a module. -/
def warningsOf (options : ModuleOptions) (files : List SourceFile) : List Warning :=
  let loaded := SourceFile.loadedOf files
  (SourceFile.errorsOf files).map LoadError.warning ++ duplicateWarnings loaded ++
    Module.warnings options (.ofLoaded loaded)

/-- Build the module of a configuration. -/
def run (c : Config) (t : FileTree) : Except BuildError Build :=
  match scan c t with
  | .error e => .error (.scan e)
  | .ok found => (ofFiles c.moduleOptions (sources found)).mapError .clash

/-- What is noticed during a build. -/
def warnings (c : Config) (t : FileTree) : List Warning :=
  match scan c t with
  | .error _ => []
  | .ok found => warningsOf c.moduleOptions (sources found)

end Build

end SchemaForge
