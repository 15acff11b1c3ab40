import SchemaForge.Definition.Decode
import SchemaForge.Path
import SchemaForge.Registry
import SchemaForge.Warning

/-!
# Definition files

A definition file holds one definition, which is named after the file, or a bundle of named
definitions. A file with a fault contributes nothing.
-/

namespace SchemaForge

/-- A file to load. -/
structure SourceFile where
  path : String
  content : String
  deriving DecidableEq

/-- A definition with its name and the file that it came from. -/
structure Loaded where
  name : String
  definition : Definition
  file : String

/-- Why a file could not be loaded. -/
inductive LoadFault where
  | notJson (failure : Json.Failure)
  | notAnObject
  | invalid (name : String) (error : DefinitionError)
  | unnamed

/-- A fault with its file. -/
structure LoadError where
  file : String
  fault : LoadFault

namespace LoadError

def message (e : LoadError) : String :=
  match e.fault with
  | .notJson failure => "Invalid JSON in " ++ e.file ++ ": " ++ failure.message
  | .notAnObject => "Expected a definition or an object of named definitions in " ++ e.file
  | .invalid name error =>
    "Invalid definition '" ++ name ++ "' in " ++ e.file ++ ": " ++ error.message
  | .unnamed => "Cannot derive a definition name from " ++ e.file

/-- The line of a report, which starts with the place of the fault. -/
def line (e : LoadError) : String :=
  match e.fault with
  | .notJson failure =>
    e.file ++ ":" ++ failure.place.line.repr ++ ":" ++ failure.place.column.repr ++ ": " ++
      failure.message
  | .invalid name error => e.file ++ ": '" ++ name ++ "': " ++ error.message
  | .notAnObject | .unnamed => e.message

def warning (e : LoadError) : Warning := ⟨e.message, [("file", e.file)]⟩

end LoadError

namespace SourceFile

/-- Decode the definitions of a bundle in order; the first fault decides. -/
def decodeBundle : List (String × Json) → Except LoadFault (List (String × Definition))
  | [] => .ok []
  | (name, v) :: rest =>
    match Definition.ofJson v with
    | .error e => .error (.invalid name e)
    | .ok d => (decodeBundle rest).map ((name, d) :: ·)

/-- The definitions of a top-level object. An object with a text as its tag is a definition, and
any other one is a bundle. -/
def decodeFields (path : String) (fields : List (String × Json)) :
    Except LoadFault (List (String × Definition)) :=
  match Entries.get? "type" fields with
  | some (.str _) =>
    match Path.stem? path with
    | none => .error .unnamed
    | some name => decodeBundle [(name, .obj fields)]
  | _ => decodeBundle fields

/-- The named definitions of a file. -/
def decode (f : SourceFile) : Except LoadFault (List (String × Definition)) :=
  match Json.read f.content with
  | .error failure => .error (.notJson failure)
  | .ok (.obj fields) => decodeFields f.path fields
  | .ok _ => .error .notAnObject

/-- The definitions of a file. -/
def load (f : SourceFile) : Except LoadError (List Loaded) :=
  match f.decode with
  | .ok ds => .ok (ds.map fun (name, d) => ⟨name, d, f.path⟩)
  | .error fault => .error ⟨f.path, fault⟩

end SourceFile

/-- What has been loaded, definitions and errors each in the order of the files. -/
structure Loading where
  definitions : List Loaded := []
  errors : List LoadError := []

/-- Load one more file. -/
def Loading.add (l : Loading) (f : SourceFile) : Loading :=
  match f.load with
  | .ok ds => { l with definitions := l.definitions ++ ds }
  | .error e => { l with errors := l.errors ++ [e] }

namespace SourceFile

/-- Load files one after the other. -/
def loadAll (fs : List SourceFile) : Loading := fs.foldl Loading.add {}

/-- The definitions of all files that load. -/
def loadedOf (fs : List SourceFile) : List Loaded := (loadAll fs).definitions

/-- The errors of all files that do not load. -/
def errorsOf (fs : List SourceFile) : List LoadError := (loadAll fs).errors

end SourceFile

namespace Registry

/-- Register definitions in order, so that the later of two with one name wins. -/
def ofLoaded (ds : List Loaded) : Registry := ofList (ds.map fun d => (d.name, d.definition))

end Registry

/-- A warning for each definition that replaces an earlier one, with the file of the one that it
replaces. -/
def duplicateWarnings (ds : List Loaded) : List Warning :=
  collect [] ds
where
  collect (origins : Entries String) : List Loaded → List Warning
    | [] => []
    | d :: rest =>
      let later := collect (origins.insert d.name d.file) rest
      match origins.get? d.name with
      | none => later
      | some first =>
        ⟨"Duplicate definition name, keeping the later one",
          [("name", d.name), ("first", first), ("second", d.file)]⟩ :: later

end SchemaForge
