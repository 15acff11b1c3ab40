import SchemaForge.FileTree

/-!
# Writing a module

A file is written only if it does not hold the same text already.
-/

namespace SchemaForge

/-- What became of a text that was to be written. -/
inductive WriteOutcome where
  | written (path : String) (bytes : Nat)
  | unchanged (path : String)
  | dryRun (path content : String)
  deriving DecidableEq

/-- Why a text could not be written. -/
inductive WriteError where
  | createDirectory (path : String) (error : FileError)
  | writeFile (path : String) (error : FileError)
  deriving DecidableEq

def WriteError.message : WriteError → String
  | createDirectory path error => "Failed to create directory " ++ path ++ ": " ++ error.message
  | writeFile path error => "Failed to write file " ++ path ++ ": " ++ error.message

namespace WriteOutcome

def path : WriteOutcome → String
  | written p _ | unchanged p | dryRun p _ => p

def wasWritten : WriteOutcome → Bool
  | written _ _ => true
  | _ => false

end WriteOutcome

namespace FileTree

/-- Whether a file holds exactly a text. -/
def isUpToDate (t : FileTree) (path content : String) : Bool :=
  match t.readText path with
  | .ok s => s = content
  | .error _ => false

/-- Make the directory of a file unless it exists. -/
def makeParent (t : FileTree) (path : String) : FileTree × Option WriteError :=
  match Path.parent? path with
  | none => (t, none)
  | some parent =>
    if parent.isEmpty || t.pathExists parent then (t, none)
    else
      let (t', fault) := t.makeDirectories parent
      (t', fault.map (.createDirectory parent))

/-- Write a text with the directories above it. A dry run only says what would be written. What
was created before a fault stays. -/
def update (t : FileTree) (dryRun : Bool) (path content : String) :
    FileTree × Except WriteError WriteOutcome :=
  if dryRun then (t, .ok (.dryRun path content))
  else if t.isUpToDate path content then (t, .ok (.unchanged path))
  else
    match t.makeParent path with
    | (t', some fault) => (t', .error fault)
    | (t', none) =>
      match t'.writeText path content with
      | .error e => (t', .error (.writeFile path e))
      | .ok t'' => (t'', .ok (.written path content.utf8ByteSize))

end FileTree

end SchemaForge
