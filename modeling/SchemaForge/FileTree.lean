import SchemaForge.Path

/-!
# File trees

A tree of files as a value. A location is the list of names from the root. Relative paths start at
a working directory, and every component of a path but the last has to be a directory.
-/

namespace SchemaForge

/-- What a file holds: a text, or bytes that are no text. -/
inductive Content where
  | text (s : String)
  | binary (bytes : List UInt8)
  deriving DecidableEq

namespace Content

/-- The text that bytes encode. -/
def textOf? (bytes : List UInt8) : Option String := String.fromUTF8? ⟨bytes.toArray⟩

def ofBytes (bytes : List UInt8) : Content :=
  match textOf? bytes with
  | some s => text s
  | none => binary bytes

/-- The parts of a list between line feeds. -/
def splitLines : List UInt8 → List (List UInt8)
  | [] => [[]]
  | b :: rest =>
    if b = 10 then [] :: splitLines rest
    else
      match splitLines rest with
      | [] => [[b]]
      | line :: lines => (b :: line) :: lines

/-- A line without the carriage return at its end. -/
def dropReturn (line : String) : String :=
  match line.toList.reverse with
  | '\r' :: rest => String.ofList rest.reverse
  | _ => line

/-- The lines up to the first one that is no text. A line feed ends a line, together with a
carriage return before it, and what follows the last line feed is a line unless it is empty. -/
def lines (c : Content) : List String :=
  let parts :=
    match c with
    | text s => (Text.splitOn '\n' s.toList).map fun part => some (String.ofList part)
    | binary bytes => (splitLines bytes).map textOf?
  let ended := parts.dropLast.map fun part => part.map dropReturn
  let last := parts.getLast?.filter fun part => part ≠ some ""
  ((ended ++ last.toList).takeWhile Option.isSome).filterMap id

end Content

/-- The names from the root. -/
abbrev Location := List String

inductive Node where
  | directory
  | file (content : Content)
  deriving DecidableEq

/-- Why a file operation fails. -/
inductive FileError where
  | notFound
  | notDirectory
  | isDirectory
  | alreadyExists
  | notText
  /-- No name of a file has the character with number zero. -/
  | nulInName
  deriving DecidableEq

def FileError.message : FileError → String
  | notFound => "No such file or directory (os error 2)"
  | notDirectory => "Not a directory (os error 20)"
  | isDirectory => "Is a directory (os error 21)"
  | alreadyExists => "File exists (os error 17)"
  | notText => "stream did not contain valid UTF-8"
  | nulInName => "file name contained an unexpected NUL byte"

/-- Files and directories below the root, which always exists. -/
structure FileTree where
  working : Location := []
  nodes : List (Location × Node) := []
  deriving DecidableEq

namespace FileTree

/-- The node at a location. -/
def node? (t : FileTree) (here : Location) : Option Node :=
  if here = [] then some .directory else t.nodes.lookup here

def isDirectory (t : FileTree) (here : Location) : Bool := t.node? here = some .directory

/-- Put a node at a location, in place of what is there. -/
def put (t : FileTree) (here : Location) (n : Node) : FileTree :=
  if (t.nodes.lookup here).isSome then
    { t with nodes := t.nodes.map fun (l, m) => if l = here then (l, n) else (l, m) }
  else { t with nodes := t.nodes ++ [(here, n)] }

/-- Remove a node and all nodes below it. -/
def remove (t : FileTree) (here : Location) : FileTree :=
  { t with nodes := t.nodes.filter fun (l, _) => !here.isPrefixOf l }

/-- Where a path starts. -/
def start (t : FileTree) (path : String) : Location :=
  if Path.isAbsolute path then [] else t.working

/-- Follow segments from a location to an existing node. -/
def follow (t : FileTree) (here : Location) : List String → Except FileError Location
  | [] => .ok here
  | s :: rest =>
    if t.isDirectory here then
      if Path.isIdle s then t.follow here rest
      else if s = ".." then t.follow here.dropLast rest
      else if (t.node? (here ++ [s])).isSome then t.follow (here ++ [s]) rest
      else .error .notFound
    else .error .notDirectory

/-- Whether a path has the character with number zero. -/
def hasNul (path : String) : Bool := path.toList.contains '\x00'

/-- The location of an existing node. -/
def locate (t : FileTree) (path : String) : Except FileError Location :=
  if hasNul path then .error .nulInName
  else if path.isEmpty then .error .notFound
  else t.follow (t.start path) (Path.segments path)

/-- Whether a path leads to a node. -/
def pathExists (t : FileTree) (path : String) : Bool := (t.locate path).isOk

/-- The text of a file. -/
def readText (t : FileTree) (path : String) : Except FileError String := do
  let here ← t.locate path
  match t.node? here with
  | some (.file (.text s)) => return s
  | some (.file (.binary _)) => throw .notText
  | some .directory => throw .isDirectory
  | none => throw .notFound

/-- Where a file that is to be written would be. A path that ends in a slash or a dot names a
directory. -/
def locateNew (t : FileTree) (path : String) : Except FileError Location :=
  if hasNul path then .error .nulInName
  else if path.isEmpty then .error .notFound
  else
    let ss := Path.segments path
    let body := (ss.reverse.dropWhile (· = "")).reverse
    match body.getLast? with
    | none => .error .isDirectory
    | some name => do
      let parent ← t.follow (t.start path) body.dropLast
      if !t.isDirectory parent then throw .notDirectory
      if body.length < ss.length || name = "." || name = ".." then throw .isDirectory
      if t.isDirectory (parent ++ [name]) then throw .isDirectory
      return parent ++ [name]

/-- Write a text to a file, whose directory has to exist. -/
def writeText (t : FileTree) (path content : String) : Except FileError FileTree :=
  (t.locateNew path).map fun here => t.put here (.file (.text content))

/-- Create the directories along segments that do not exist. A file in the way is one that
already exists if a directory had to be created before it, and no directory otherwise. -/
def makeAlong (t : FileTree) (created : Bool) (here : Location) :
    List String → FileTree × Option FileError
  | [] => (t, none)
  | s :: rest =>
    if Path.isIdle s then t.makeAlong created here rest
    else if s = ".." then t.makeAlong created here.dropLast rest
    else
      match t.node? (here ++ [s]) with
      | some .directory => t.makeAlong created (here ++ [s]) rest
      | some (.file _) => (t, some (if created then .alreadyExists else .notDirectory))
      | none => (t.put (here ++ [s]) .directory).makeAlong true (here ++ [s]) rest

/-- Create a directory and all directories above it. What was created before a fault stays. -/
def makeDirectories (t : FileTree) (path : String) : FileTree × Option FileError :=
  if hasNul path then (t, some .nulInName)
  else t.makeAlong false (t.start path) (Path.segments path)

/-- The names from a location to a file below it. -/
def fileBelow? (base : Location) : Location × Node → Option (Location × Content)
  | (l, .file c) =>
    if base.isPrefixOf l && base.length < l.length then some (l.drop base.length, c) else none
  | (_, .directory) => none

/-- The files below a location, by their names from there. -/
def filesBelow (t : FileTree) (base : Location) : List (Location × Content) :=
  t.nodes.filterMap (fileBelow? base)

/-- Put a file or, for a path that ends in a slash, a directory into the tree, with the
directories above it. -/
def place (t : FileTree) (path : String) (content : Content) : FileTree :=
  let ss := Path.segments path
  let names := ss.filter fun s => !Path.isIdle s
  if ss.getLast? = some "" then (t.makeDirectories path).1
  else
    let t := (t.makeAlong false (t.start path) names.dropLast).1
    t.put (t.start path ++ names) (.file content)

end FileTree

end SchemaForge
