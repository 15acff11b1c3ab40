import SchemaForge.Ignore.Rule

/-!
# Repositories

A directory with an entry `.git` or `.jj` is the top of a repository. A repository may keep rules
apart from its files, in `.git/info/exclude`. If `.git` is a file, it links to a directory whose
file `commondir` leads to the directory with these rules.
-/

namespace SchemaForge.Ignore

/-- Whether a directory is the top of a repository. -/
def isRepository (t : FileTree) (dir : Location) : Bool :=
  (t.node? (dir ++ [".git"])).isSome || (t.node? (dir ++ [".jj"])).isSome

/-- The first line of a file that may be empty. -/
def firstLine (c : Content) : Except FileError (Option String) :=
  match c.lines, c with
  | line :: _, _ => .ok (some line)
  | [], .text _ => .ok none
  | [], .binary _ => .error .notText

/-- The first line of the file at a path that may lead nowhere. -/
def firstLineAt (t : FileTree) (path : String) : Except FileError (Option String) :=
  match t.locate path with
  | .error _ => .ok none
  | .ok here =>
    match t.node? here with
    | some (.file c) => firstLine c
    | _ => .error .isDirectory

/-- The path of the directory that a link names. -/
def linkTarget? (line : String) : Option String :=
  (Text.afterFront? "gitdir: ".toList line.toList).map String.ofList

/-- The path of the directory that a linked one shares; a path that begins with a dot starts at
the linked directory. -/
def sharedFrom (linked line : String) : String :=
  if line.toList.head? = some '.' then Path.join linked line else line

/-- The path of the shared directory of a linked repository, given its link. -/
def sharedDirectory (t : FileTree) (dir : Location) (link : Content) :
    Except Defect (Option String) := do
  let line? ← (firstLine link).mapError (.unreadable (Path.below "/" (dir ++ [".git"])))
  match line?.bind linkTarget? with
  | none => return none
  | some linked =>
    let file := Path.join linked "commondir"
    let shared? ← (firstLineAt t file).mapError (.unreadable file)
    return shared?.map (sharedFrom linked)

/-- The file with the rules that a repository keeps apart. -/
def excludeFile (t : FileTree) (dir : Location) : Except Defect (Option Source) :=
  match t.node? (dir ++ [".git"]) with
  | some (.file link) =>
    (sharedDirectory t dir link).map fun shared? =>
      shared?.bind fun shared => Source.atPath? t (Path.join shared "info/exclude")
  | _ => .ok (Source.inDirectory? t (dir ++ [".git", "info"]) "exclude")

end SchemaForge.Ignore
