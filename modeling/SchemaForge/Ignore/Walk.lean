import SchemaForge.Ignore.Repository

/-!
# Ignore files around a walk

The ignore files of a directory and of all directories above it decide whether a walk meets what is
in it. A file `.ignore` always counts. The files `.gitignore` and `.git/info/exclude` count inside
a repository only, that is, up to the nearest directory that is the top of one. In the directories
above its root a walk allows no defects.
-/

namespace SchemaForge.Ignore

/-! ### Files of a directory -/

/-- The rules of a file, if it is there. -/
def rulesOf (source? : Option Source) : List Rule := (source?.map Source.rules).getD []

def ignoreFile? (t : FileTree) (dir : Location) : Option Source :=
  Source.inDirectory? t dir ".ignore"

def repositoryFile? (t : FileTree) (dir : Location) : Option Source :=
  Source.inDirectory? t dir ".gitignore"

/-- The rules that a repository keeps apart; a defect on the way to them leaves none. -/
def excludeRules (t : FileTree) (dir : Location) : List Rule :=
  match excludeFile t dir with
  | .ok source? => rulesOf source?
  | .error _ => []

/-- The defects of the ignore files of a directory; `repositories` says whether the files of
repositories count. -/
def defectsIn (t : FileTree) (repositories : Bool) (dir : Location) : List Defect :=
  let defectsOf (source? : Option Source) := (source?.map Source.defects).getD []
  defectsOf (ignoreFile? t dir) ++
    if repositories then
      defectsOf (repositoryFile? t dir) ++
        match excludeFile t dir with
        | .ok source? => defectsOf source?
        | .error defect => [defect]
    else []

/-! ### Walking -/

/-- The directories above a location, from the nearest to the root. -/
def directoriesAbove (here : Location) : List Location :=
  ((List.range here.length).map here.take).reverse

/-- A directory whose rules are asked about a path, and the path as these rules see it. -/
structure View where
  dir : Location
  path : String

/-- The views on a path below the root of a walk, from the nearest directory to the root of the
tree. The directories of the walk see texts that begin as the root was given, and those above the
root see names. -/
def views (root : String) (base : Location) (names : List String) : List View :=
  let walked :=
    (List.range names.length).map fun i =>
      let dir := Path.below root (names.take i)
      ⟨base ++ names.take i, Path.seenFrom dir (Path.below root names)⟩
  let above :=
    (directoriesAbove base).map fun dir =>
      ⟨dir, "/".intercalate ((base ++ names).drop dir.length)⟩
  walked.reverse ++ above

/-- The beginning of a list up to and with the first member of a class; nothing if there is no
such member. -/
def upTo {α : Type} (p : α → Bool) (xs : List α) : List α :=
  if xs.any p then xs.takeWhile (fun x => !p x) ++ (xs.find? p).toList else []

/-- What the nearest rules of a kind say. -/
def nearest? (rulesIn : Location → List Rule) (isDirectory : Bool) (vs : List View) :
    Option Verdict :=
  vs.findSome? fun v => verdict? (rulesIn v.dir) v.path isDirectory

/-- Whether a node below the root of a walk is ignored by itself; `repositories` says whether the
files of repositories count. -/
def isIgnored (t : FileTree) (repositories : Bool) (root : String) (base : Location)
    (names : List String) (isDirectory : Bool) : Bool :=
  let everywhere := views root base names
  let inside := if repositories then upTo (fun v => isRepository t v.dir) everywhere else []
  let found :=
    (nearest? (fun dir => rulesOf (ignoreFile? t dir)) isDirectory everywhere).or
      ((nearest? (fun dir => rulesOf (repositoryFile? t dir)) isDirectory inside).or
        (nearest? (excludeRules t) isDirectory inside))
  found = some .ignored

/-- Whether a file below the root of a walk is ignored, by itself or because of a directory
between. -/
def isIgnoredBelow (t : FileTree) (repositories : Bool) (root : String) (base : Location)
    (names : List String) : Bool :=
  (List.range names.length).any fun i =>
    isIgnored t repositories root base (names.take (i + 1)) (i + 1 < names.length)

/-- The defects above a walk, from the root of the tree down. Those of a file `.gitignore` count
outside of repositories too. -/
def defectsAbove (t : FileTree) (repositories : Bool) (base : Location) : List Defect :=
  (directoriesAbove base).reverse.flatMap (defectsIn t repositories)

end SchemaForge.Ignore
