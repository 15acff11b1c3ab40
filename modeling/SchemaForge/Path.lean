import SchemaForge.Text.Blank

/-!
# Path texts

What a path says by its text alone. A path is a list of components between slashes; empty
components and single dots stand for nothing, except a dot at the very beginning.
-/

namespace SchemaForge.Path

/-- The texts between slashes. -/
def segments (path : String) : List String :=
  (Text.splitOn '/' path.toList).map String.ofList

/-- An empty segment or a single dot, which stays where it is. -/
def isIdle (segment : String) : Bool := segment = "" || segment = "."

/-- The segments that lead somewhere. -/
def components (path : String) : List String :=
  (segments path).filter fun s => !isIdle s

def isAbsolute (path : String) : Bool := path.toList.head? = some '/'

/-- The last component, unless it leads upward. -/
def fileName? (path : String) : Option String :=
  (components path).getLast?.filter (· ≠ "..")

/-- A file name cut at its last dot. A dot at the beginning does not count. -/
def splitName (name : String) : String × Option String :=
  let reversed := name.toList.reverse
  let after := reversed.takeWhile (· ≠ '.')
  let before := (reversed.dropWhile (· ≠ '.')).drop 1
  if before.isEmpty then (name, none)
  else (String.ofList before.reverse, some (String.ofList after.reverse))

/-- The file name up to its last dot. -/
def stem? (path : String) : Option String := (fileName? path).map fun n => (splitName n).1

/-- What follows the last dot of the file name. -/
def extension? (path : String) : Option String :=
  (fileName? path).bind fun n => (splitName n).2

/-- Whether a path has the extension of definition files. -/
def isDefinitionFile (path : String) : Bool := extension? path = some "json"

/-- A path followed by another one. An absolute path stands for itself. -/
def join (base path : String) : String :=
  if isAbsolute path || base.isEmpty then path
  else if base.toList.getLast? = some '/' then base ++ path
  else base ++ "/" ++ path

/-- The path of names below a directory. -/
def below (dir : String) (names : List String) : String := names.foldl join dir

/-- A path without one `./` at its beginning. -/
def dropDotSlash (path : String) : String :=
  match path.toList with
  | '.' :: '/' :: rest => String.ofList rest
  | _ => path

/-- Whether a path is a dot and leads nowhere else. -/
def isDot (path : String) : Bool :=
  match segments path with
  | first :: rest => first = "." && rest.all isIdle
  | [] => false

/-- The text of a path as it is seen from a directory above it, where both are texts from the same
start. One `./` at the beginning of the directory and two at the beginning of the path do not
count. If the path does not begin with the directory then, all of it is seen. -/
def seenFrom (dir path : String) : String :=
  let dir := dropDotSlash dir
  let path := dropDotSlash (dropDotSlash path)
  if isDot dir || !path.toList.contains '/' then path
  else
    match Text.afterFront? dir.toList path.toList with
    | some ('/' :: rest) => String.ofList rest
    | some rest => String.ofList rest
    | none => path

/-- Drop the idle segments at the end. -/
def dropIdleEnd (ss : List String) : List String := (ss.reverse.dropWhile isIdle).reverse

/-- The path without its last component; the empty path and the root have none. -/
def parent? (path : String) : Option String :=
  match segments path with
  | [] => none
  | first :: rest =>
    match dropIdleEnd rest with
    | [] => if first.isEmpty then none else some ""
    | below =>
      let above := dropIdleEnd below.dropLast
      if first.isEmpty && above.isEmpty then some "/"
      else some ("/".intercalate (first :: above))

end SchemaForge.Path
