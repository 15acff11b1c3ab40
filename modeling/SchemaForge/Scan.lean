import SchemaForge.Glob
import SchemaForge.Ignore.Walk

/-!
# Definition files below a directory

The files with the extension of definition files that are not ignored and match a filter, in the
order of their path components.
-/

namespace SchemaForge

/-- A definition file that was found. -/
structure Found where
  /-- The names from the root of the scan. -/
  names : List String
  path : String
  content : String
  deriving DecidableEq

/-- The path from the root of the scan. -/
def Found.relative (f : Found) : String := "/".intercalate f.names

/-- Why a scan fails. -/
inductive ScanError where
  | directoryNotFound (path : String)
  | noDefinitionFiles (path : String)
  | invalidPattern (pattern : String) (failure : Glob.Failure)
  | unreadable (path : String) (error : FileError)
  /-- The ignore files above the root have defects. -/
  | defectiveRules (defects : List Ignore.Defect)
  deriving DecidableEq

def ScanError.message : ScanError → String
  | directoryNotFound path => "Directory not found: " ++ path
  | noDefinitionFiles path => "No definition files found in: " ++ path
  | invalidPattern pattern failure =>
    "Invalid filter pattern '" ++ pattern ++ "': " ++ failure.message
  | unreadable path error => "IO error scanning " ++ path ++ ": " ++ error.message
  | defectiveRules defects => "Walk error: " ++ "\n".intercalate (defects.map Ignore.Defect.message)

/-- What to scan. -/
structure Scan where
  root : String
  /-- Whether the ignore files of repositories count. -/
  gitignore : Bool := true
  filter : Option Glob := none

namespace Scan

/-- The filter of a pattern text. -/
def parseFilter (pattern : String) : Except ScanError Glob :=
  (Glob.parse pattern).mapError (.invalidPattern pattern)

/-- The order of paths: component by component. -/
def precedes : List String → List String → Bool
  | [], _ => true
  | _ :: _, [] => false
  | a :: as, b :: bs => if a = b then precedes as bs else decide (a < b)

/-- The path of a file below the root. -/
def pathOf (s : Scan) (names : List String) : String := Path.below s.root names

/-- Whether a file is a definition file that the filter accepts. -/
def selects (s : Scan) (names : List String) : Bool :=
  Path.isDefinitionFile (s.pathOf names) &&
    match s.filter with
    | some g => g.accepts ("/".intercalate names)
    | none => true

/-- A lone dash stands for standard input and not for a directory. -/
def isStandardInput (s : Scan) : Bool :=
  Path.components s.root = ["-"] && (Path.segments s.root).head? = some "-"

/-- The files that a walk from the root meets, by their names from there. If the root is a file,
it is the only one. -/
def walk (s : Scan) (t : FileTree) (root : Location) : List (List String × Content) :=
  match t.node? root with
  | some (.file c) => [([], c)]
  | _ =>
    (t.filesBelow root).filter fun (names, _) =>
      !Ignore.isIgnoredBelow t s.gitignore s.root root names

/-- Read the selected files one after the other. The first that is no text ends the reading. -/
def collect (s : Scan) : List (List String × Content) → Except ScanError (List Found)
  | [] => .ok []
  | (names, content) :: rest =>
    if s.selects names then
      match content with
      | .binary _ => .error (.unreadable (s.pathOf names) .notText)
      | .text text => (s.collect rest).map (⟨names, s.pathOf names, text⟩ :: ·)
    else s.collect rest

/-- Put a file at its place among files in order. -/
def insertFound (f : Found) : List Found → List Found
  | [] => [f]
  | g :: rest => if precedes f.names g.names then f :: g :: rest else g :: insertFound f rest

/-- Files in the order of their paths. -/
def sort (found : List Found) : List Found := found.foldr insertFound []

/-- What keeps a walk from its start. A root that is a file needs no rules. -/
def defects (s : Scan) (t : FileTree) (root : Location) : List Ignore.Defect :=
  if t.isDirectory root then Ignore.defectsAbove t s.gitignore root else []

/-- The definition files, possibly none. -/
def find (s : Scan) (t : FileTree) : Except ScanError (List Found) :=
  match t.locate s.root with
  | .error _ => .error (.directoryNotFound s.root)
  | .ok root =>
    if s.isStandardInput then .ok []
    else
      match s.defects t root with
      | [] => (s.collect (s.walk t root)).map sort
      | defects => .error (.defectiveRules defects)

/-- The definition files, of which there has to be one. -/
def run (s : Scan) (t : FileTree) : Except ScanError (List Found) := do
  let found ← s.find t
  if found.isEmpty then throw (.noDefinitionFiles s.root)
  return found

end Scan

end SchemaForge
