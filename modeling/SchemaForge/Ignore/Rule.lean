import SchemaForge.FileTree
import SchemaForge.Ignore.Pattern

/-!
# Rules of ignore files

Every line of an ignore file is a rule about the paths below a directory, and the last rule that
matches decides. Empty lines and comments do not count. A line whose pattern has a fault is no
rule, and the file has a defect there.
-/

namespace SchemaForge.Ignore

/-- What a rule says about a path. -/
inductive Verdict where
  | ignored
  | kept
  deriving DecidableEq

/-- What a line of an ignore file says about the paths that match its pattern. -/
structure Rule where
  verdict : Verdict
  directoryOnly : Bool
  tokens : List Token

/-- Two stars that fill the first component. -/
def startsDeep (cs : List Char) : Bool := "**/".toList.isPrefixOf cs || cs = "**".toList

/-- A pattern without a slash matches at every depth, and one that ends in two stars matches what
is inside a directory and not the directory itself. -/
def fullPattern (anchored : Bool) (cs : List Char) : List Char :=
  let cs := if anchored || cs.contains '/' || startsDeep cs then cs else "**/".toList ++ cs
  if "/**".toList.isSuffixOf cs then cs ++ "/*".toList else cs

/-- The marks at the beginning of a line: an exclamation mark keeps what matches, a slash ties the
pattern to the directory, and a backslash in front of a mark makes it a plain character. -/
def splitMarks (cs : List Char) : Verdict × Bool × List Char :=
  match cs with
  | '\\' :: '!' :: rest => (.ignored, false, '!' :: rest)
  | '\\' :: '#' :: rest => (.ignored, false, '#' :: rest)
  | _ =>
    let (verdict, cs) :=
      match cs with
      | '!' :: rest => (Verdict.kept, rest)
      | _ => (Verdict.ignored, cs)
    match cs with
    | '/' :: rest => (verdict, true, rest)
    | _ => (verdict, false, cs)

/-- A slash at the end restricts a rule to directories. -/
def splitEnd (cs : List Char) : Bool × List Char :=
  match cs.reverse with
  | '/' :: '\\' :: rest => (true, rest.reverse)
  | '/' :: rest => (true, rest.reverse)
  | _ => (false, cs)

/-- The text of a line that counts. Blanks at the end do not belong to it unless the last is
escaped. -/
def lineText? (line : String) : Option String :=
  let cs := line.toList
  if cs.head? = some '#' then none
  else
    let cs := if ['\\', ' '].isSuffixOf cs then cs else Text.dropEndWhile Text.isBlank cs
    if cs.isEmpty then none else some (String.ofList cs)

/-- The rule of the text of a line. -/
def Rule.parse (text : String) : Except Fault Rule :=
  let (verdict, anchored, cs) := splitMarks text.toList
  let (directoryOnly, cs) := splitEnd cs
  (readTokens (fullPattern anchored cs)).map fun tokens => { verdict, directoryOnly, tokens }

/-- What rules say about a path. -/
def verdict? (rules : List Rule) (path : String) (isDirectory : Bool) : Option Verdict :=
  (rules.reverse.find? fun r =>
    (!r.directoryOnly || isDirectory) && accepts r.tokens path).map Rule.verdict

/-! ### Files -/

/-- What is wrong with an ignore file, or with a file on the way to one. -/
inductive Defect where
  | line (file : String) (number : Nat) (text : String) (fault : Fault)
  | unreadable (file : String) (error : FileError)
  deriving DecidableEq

def Defect.message : Defect → String
  | line file number text fault =>
    file ++ ": line " ++ toString number ++ ": error parsing glob '" ++ text ++ "': " ++
      fault.message
  | unreadable file error => file ++ ": " ++ error.message

/-- An ignore file: its path and its lines. -/
structure Source where
  path : String
  lines : List String

namespace Source

/-- The texts of the lines that count, each with its number. Byte order marks at the beginning of
the file do not belong to its first line. -/
def texts (s : Source) : List (Nat × String) :=
  let lines :=
    match s.lines with
    | [] => []
    | first :: rest => String.ofList (first.toList.dropWhile (· = '\ufeff')) :: rest
  lines.zipIdx.filterMap fun (line, i) => (lineText? line).map fun text => (i + 1, text)

def rules (s : Source) : List Rule :=
  s.texts.filterMap fun (_, text) => (Rule.parse text).toOption

def defects (s : Source) : List Defect :=
  s.texts.filterMap fun (number, text) =>
    match Rule.parse text with
    | .ok _ => none
    | .error fault => some (.line s.path number text fault)

/-- The file with a name in a directory, if it is there. -/
def inDirectory? (t : FileTree) (dir : Location) (name : String) : Option Source :=
  match t.node? (dir ++ [name]) with
  | some (.file c) => some ⟨Path.below "/" (dir ++ [name]), c.lines⟩
  | _ => none

/-- The file at a path, if it is there. -/
def atPath? (t : FileTree) (path : String) : Option Source :=
  match t.locate path with
  | .ok here =>
    match t.node? here with
    | some (.file c) => some ⟨path, c.lines⟩
    | _ => none
  | .error _ => none

end Source

end SchemaForge.Ignore
