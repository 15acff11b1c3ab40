import SchemaForge.Toml.Scalar

/-!
# Reading TOML

A document is a sequence of lines, each with a header, an assignment or nothing, and possibly a
comment.
-/

namespace SchemaForge.Toml

def dropSpaces (cs : List Char) : List Char := cs.dropWhile isSpace

/-- What follows blanks, line ends and comments; a comment must not hold control characters. -/
def dropFiller (inComment : Bool) : List Char → Option (List Char)
  | [] => some []
  | '\r' :: '\n' :: rest => dropFiller false rest
  | c :: rest =>
    if c = '\n' then dropFiller false rest
    else if inComment then if isPrintable c then dropFiller true rest else none
    else if isSpace c then dropFiller false rest
    else if c = '#' then dropFiller true rest
    else some (c :: rest)

/-- What follows the rest of a line, which may hold a comment and nothing else. -/
def endLine (inComment : Bool) : List Char → Option (List Char)
  | [] => some []
  | '\r' :: '\n' :: rest => some rest
  | c :: rest =>
    if c = '\n' then some rest
    else if inComment then if isPrintable c then endLine true rest else none
    else if isSpace c then endLine false rest
    else if c = '#' then endLine true rest
    else none

def isKeyChar (c : Char) : Bool :=
  ('0' ≤ c && c ≤ '9') || ('a' ≤ c && c ≤ 'z') || ('A' ≤ c && c ≤ 'Z') || c = '-' || c = '_'

/-- One part of a key. -/
def keyPart (cs : List Char) : Option (String × List Char) :=
  match cs with
  | '"' :: rest => (basicText rest).map fun (s, rest) => (String.ofList s, rest)
  | '\'' :: rest => (literalText rest).map fun (s, rest) => (String.ofList s, rest)
  | _ =>
    let part := cs.takeWhile isKeyChar
    if part.isEmpty then none else some (String.ofList part, cs.drop part.length)

/-- How many parts a key may have, and how deep lists and tables may nest in a value. -/
def depthLimit : Nat := 80

/-- A key of at most `room` parts with dots between them, and what follows it and the spaces
after it. -/
def keyWithin (room : Nat) (cs : List Char) : Option (List String × List Char) :=
  match room with
  | 0 => none
  | room + 1 => do
    let (part, rest) ← keyPart (dropSpaces cs)
    match dropSpaces rest with
    | '.' :: rest =>
      let (parts, rest) ← keyWithin room rest
      return (part :: parts, rest)
    | rest => return ([part], rest)

/-- A key and what follows it and the spaces after it. -/
def key (cs : List Char) : Option (List String × List Char) := keyWithin depthLimit cs

/-- What follows a character that has to come next. -/
def expect (c : Char) (cs : List Char) : Option (List Char) :=
  match cs with
  | d :: rest => if c = d then some rest else none
  | [] => none

mutual

/-- A value in which lists and tables nest at most `room` levels deep, and what follows it. -/
def value (fuel room : Nat) (cs : List Char) : Option (Toml × List Char) :=
  match fuel with
  | 0 => none
  | fuel + 1 =>
    match cs with
    | '[' :: rest =>
      match room with
      | 0 => none
      | room + 1 => (items fuel room rest).map fun (vs, rest) => (.list vs, rest)
    | '\x7b' :: rest =>
      match room with
      | 0 => none
      | room + 1 => do
        let (ss, rest) ← fields fuel room rest
        let entries ← ofStatements ss
        return (.table entries, rest)
    | c :: _ =>
      if c = '"' || c = '\'' then
        (quotedText cs).map fun (s, rest) => (.text (String.ofList s), rest)
      else
        let bare := bareText cs
        (bareValue? bare).map fun v => (v, cs.drop bare.length)
    | [] => none

/-- The items of a list up to its bracket. -/
def items (fuel room : Nat) (cs : List Char) : Option (List Toml × List Char) :=
  match fuel with
  | 0 => none
  | fuel + 1 => do
    let cs ← dropFiller false cs
    match cs with
    | ']' :: rest => return ([], rest)
    | _ =>
      let (v, rest) ← value fuel room cs
      let rest ← dropFiller false rest
      match rest with
      | ',' :: rest =>
        let (vs, rest) ← items fuel room rest
        return (v :: vs, rest)
      | ']' :: rest => return ([v], rest)
      | _ => none

/-- The fields of a table in line up to its brace. Line ends and comments may stand around keys,
values and the marks between them, and a comma may follow the last field. -/
def fields (fuel room : Nat) (cs : List Char) : Option (List Statement × List Char) :=
  match fuel with
  | 0 => none
  | fuel + 1 => do
    let cs ← dropFiller false cs
    match cs with
    | '\x7d' :: rest => return ([], rest)
    | _ =>
      let (path, rest) ← key cs
      let rest ← dropFiller false rest
      let rest ← expect '=' rest
      let rest ← dropFiller false rest
      let (v, rest) ← value fuel room rest
      let rest ← dropFiller false rest
      match rest with
      | ',' :: rest =>
        let (ss, rest) ← fields fuel room rest
        return (.assign path v :: ss, rest)
      | '\x7d' :: rest => return ([.assign path v], rest)
      | _ => none

end

/-- The statement of a line, and what follows the line. -/
def statement (fuel : Nat) (cs : List Char) : Option (Statement × List Char) :=
  match cs with
  | '[' :: '[' :: rest => do
    let (path, rest) ← key rest
    let rest ← expect ']' rest
    let rest ← expect ']' rest
    return (.elementHeader path, ← endLine false rest)
  | '[' :: rest => do
    let (path, rest) ← key rest
    let rest ← expect ']' rest
    return (.header path, ← endLine false rest)
  | _ => do
    let (path, rest) ← key cs
    let rest ← expect '=' rest
    let (v, rest) ← value fuel depthLimit (dropSpaces rest)
    return (.assign path v, ← endLine false rest)

def statements (fuel : Nat) (cs : List Char) : Option (List Statement) :=
  match fuel with
  | 0 => none
  | fuel + 1 => do
    let cs ← dropFiller false cs
    if cs.isEmpty then return []
    let (s, rest) ← statement fuel cs
    let ss ← statements fuel rest
    return s :: ss

/-- The table of a document. Every step of the reader uses up a character or goes from a list to
its item, so twice the length bounds their number. -/
def read? (text : String) : Option (List (String × Toml)) := do
  let cs :=
    match text.toList with
    | '\ufeff' :: rest => rest
    | cs => cs
  let ss ← statements (2 * cs.length + 4) cs
  ofStatements ss

end SchemaForge.Toml
