import SchemaForge.Text.Blank

/-!
# Patterns of ignore files

Patterns match the bytes of a path. A star and a question mark stop at slashes, and two stars that
fill a component stand for any number of components. Braces hold alternatives.
-/

namespace SchemaForge.Ignore

/-- A piece of a pattern. -/
inductive Token where
  | char (c : Char)
  /-- A byte other than a slash. -/
  | any
  /-- Any number of bytes other than slashes. -/
  | run
  /-- Any number of components before the rest. -/
  | anyAbove
  /-- A slash and anything after it. -/
  | anyBelow
  /-- A slash, or two slashes with anything between them. -/
  | anyBetween
  | oneOf (negated : Bool) (ranges : List (Char × Char))
  | alternatives (branches : List (List Token))

/-- Why a text is no pattern. -/
inductive Fault where
  /-- A range of a class ends before its start. -/
  | emptyRange (start stop : Char)
  | unopenedGroup
  | unclosedGroup
  /-- A backslash with nothing after it. -/
  | danglingEscape
  deriving DecidableEq

def Fault.message : Fault → String
  | emptyRange start stop =>
    "invalid range; '" ++ String.singleton start ++ "' > '" ++ String.singleton stop ++ "'"
  | unopenedGroup =>
    "unopened alternate group; missing '\x7b' (maybe escape '\x7d' with '[\x7d]'?)"
  | unclosedGroup =>
    "unclosed alternate group; missing '\x7d' (maybe escape '\x7b' with '[\x7b]'?)"
  | danglingEscape => "dangling '\\'"

/-! ### Reading -/

/-- The ranges of a class after its first character, where `awaits` says that a dash waits for
the end of its range. -/
def classRest (ranges : List (Char × Char)) (last : Char × Char) (awaits : Bool) :
    List Char → Except Fault (List (Char × Char))
  | [] => .ok (ranges ++ [last] ++ if awaits then [('-', '-')] else [])
  | c :: rest =>
    if awaits then
      if c < last.1 then .error (.emptyRange last.1 c)
      else classRest ranges (last.1, c) false rest
    else if c = '-' then classRest ranges last true rest
    else classRest (ranges ++ [last]) (c, c) false rest

/-- The ranges of the body of a class. -/
def classRanges : List Char → Except Fault (List (Char × Char))
  | [] => .ok []
  | c :: rest => classRest [] (c, c) false rest

/-- The class that starts behind a bracket: whether it is negated, its body, and whether it is
closed. Its first character never closes it. -/
def splitClass (cs : List Char) : Bool × List Char × Bool :=
  let (negated, cs) :=
    match cs with
    | c :: rest => if c = '!' || c = '^' then (true, rest) else (false, cs)
    | [] => (false, [])
  match cs with
  | [] => (negated, [], false)
  | c :: rest => (negated, c :: rest.takeWhile (· ≠ ']'), rest.contains ']')

/-- An open brace: the tokens in front of it and the alternatives that are complete, both with the
last one first. -/
structure Group where
  front : List Token
  branches : List (List Token)

/-- What has been read and has no token yet. -/
inductive Pending where
  | nothing
  /-- One star after a character. -/
  | star (before : Option Char)
  /-- Two stars after a character. -/
  | stars (before : Option Char)
  | escape
  /-- Characters of a class that already has its token. -/
  | skip (count : Nat)

/-- A reader between two characters. The tokens have the last one first. -/
structure Reading where
  groups : List Group := []
  tokens : List Token := []
  previous : Option Char := none
  pending : Pending := .nothing
  /-- Whether a bracket opens a class. After a bracket that is never closed it does not. -/
  classes : Bool := true

namespace Reading

def push (r : Reading) (t : Token) : Reading := { r with tokens := t :: r.tokens }

/-- Two stars that do not fill a component are two single ones. -/
def pushRuns (r : Reading) : Reading := (r.push .run).push .run

/-- Replace the slash before two stars by the token for them. -/
def absorb (r : Reading) (t : Token) : Reading :=
  match r.tokens with
  | .anyAbove :: _ => r
  | .anyBelow :: _ => r
  | _ :: rest => { r with tokens := t :: rest }
  | [] => { r with tokens := [t] }

/-- Two stars, given the characters around them, and whether the slash after them is used up. -/
def endStars (r : Reading) (before next : Option Char) : Reading × Bool :=
  if r.tokens.isEmpty then
    if next = none || next = some '/' then (r.push .anyAbove, next = some '/')
    else (r.pushRuns, false)
  else if before ≠ some '/' &&
      (r.groups.isEmpty || (before ≠ some ',' && before ≠ some '\x7b')) then
    (r.pushRuns, false)
  else if next = some '/' then (r.absorb .anyBetween, true)
  else if next = none ||
      (!r.groups.isEmpty && (next = some ',' || next = some '\x7d')) then
    (r.absorb .anyBelow, false)
  else (r.pushRuns, false)

/-- Close the innermost brace. -/
def closeGroup (r : Reading) : Except Fault Reading :=
  match r.groups with
  | [] => .error .unopenedGroup
  | g :: outer =>
    .ok { r with
      groups := outer
      tokens := .alternatives (r.tokens.reverse :: g.branches).reverse :: g.front }

/-- A bracket; `rest` is what follows it. One that is never closed is a plain character, but the
ranges behind it have to be in order. -/
def openClass (r : Reading) (rest : List Char) : Except Fault Reading := do
  let (negated, body, closed) := splitClass rest
  let ranges ← classRanges body
  if closed then
    let length := body.length + 1 + if negated then 1 else 0
    return { r.push (.oneOf negated ranges) with pending := .skip length }
  return { r.push (.char '[') with classes := false }

/-- A character between tokens; `rest` is what follows it. -/
def plain (r : Reading) (c : Char) (rest : List Char) : Except Fault Reading :=
  let before := r.previous
  let r := { r with previous := some c, pending := .nothing }
  if c = '?' then .ok (r.push .any)
  else if c = '*' then .ok { r with pending := .star before }
  else if c = '\\' then .ok { r with pending := .escape }
  else if c = '[' && r.classes then r.openClass rest
  else if c = '\x7b' then
    .ok { r with groups := ⟨r.tokens, []⟩ :: r.groups, tokens := [] }
  else if c = '\x7d' then r.closeGroup
  else if c = ',' then
    match r.groups with
    | [] => .ok (r.push (.char c))
    | g :: outer =>
      .ok { r with groups := ⟨g.front, r.tokens.reverse :: g.branches⟩ :: outer, tokens := [] }
  else .ok (r.push (.char c))

def step (r : Reading) (c : Char) (rest : List Char) : Except Fault Reading :=
  match r.pending with
  | .nothing => r.plain c rest
  | .star before =>
    if c = '*' then .ok { r with previous := some c, pending := .stars before }
    else (r.push .run).plain c rest
  | .stars before =>
    let (r, used) := r.endStars before (some c)
    if used then .ok { r with previous := some c, pending := .nothing } else r.plain c rest
  | .escape => .ok { r.push (.char c) with previous := some c, pending := .nothing }
  | .skip count =>
    .ok { r with
      previous := some c
      pending := if count ≤ 1 then .nothing else .skip (count - 1) }

/-- The tokens at the end. A lone backslash and an open brace are faults. -/
def finish (r : Reading) : Except Fault (List Token) := do
  let r ←
    match r.pending with
    | .nothing | .skip _ => .ok r
    | .star _ => .ok (r.push .run)
    | .stars before => .ok (r.endStars before none).1
    | .escape => .error .danglingEscape
  if r.groups.isEmpty then return r.tokens.reverse
  throw .unclosedGroup

def readAll (r : Reading) : List Char → Except Fault (List Token)
  | [] => r.finish
  | c :: rest =>
    match r.step c rest with
    | .ok r' => r'.readAll rest
    | .error fault => .error fault

end Reading

/-- The tokens of a pattern. -/
def readTokens (pattern : List Char) : Except Fault (List Token) := Reading.readAll {} pattern

/-! ### Matching -/

def slash : UInt8 := 47

def charBytes (c : Char) : List UInt8 := (String.singleton c).toUTF8.toList

/-- What follows a beginning. -/
def stripFront : List UInt8 → List UInt8 → List (List UInt8)
  | [], bs => [bs]
  | _ :: _, [] => []
  | a :: as, b :: bs => if a = b then stripFront as bs else []

/-- What follows a number of bytes other than slashes. -/
def afterRun : List UInt8 → List (List UInt8)
  | [] => [[]]
  | b :: bs => (b :: bs) :: if b = slash then [] else afterRun bs

/-- What follows a slash. -/
def afterSlashes : List UInt8 → List (List UInt8)
  | [] => []
  | b :: bs => if b = slash then bs :: afterSlashes bs else afterSlashes bs

def suffixes : List UInt8 → List (List UInt8)
  | [] => [[]]
  | b :: bs => (b :: bs) :: suffixes bs

/-- What follows a slash at the beginning. -/
def afterSlash : List UInt8 → List (List UInt8)
  | [] => []
  | b :: bs => if b = slash then [bs] else []

/-- A range of characters as ranges of bytes: the last byte of its first character to the first
byte of its last one, and the other bytes alone. -/
def byteRanges (r : Char × Char) : List (UInt8 × UInt8) :=
  let first := charBytes r.1
  let alone (bs : List UInt8) := bs.map fun b => (b, b)
  if r.1 = r.2 then alone first
  else
    match first.getLast?, charBytes r.2 with
    | some a, b :: rest => alone first.dropLast ++ [(a, b)] ++ alone rest
    | _, _ => []

def inRanges (ranges : List (Char × Char)) (b : UInt8) : Bool :=
  (ranges.flatMap byteRanges).any fun (first, last) => first ≤ b && b ≤ last

mutual

/-- Whether a token has no text of its own. -/
def Token.isVoid : Token → Bool
  | .alternatives branches => areVoid branches
  | _ => false

def isVoidList : List Token → Bool
  | [] => true
  | t :: ts => t.isVoid && isVoidList ts

def areVoid : List (List Token) → Bool
  | [] => true
  | b :: bs => isVoidList b && areVoid bs

end

mutual

/-- What may be left of a path after a token. Empty alternatives do not count unless there are no
others. -/
def Token.rests : Token → List UInt8 → List (List UInt8)
  | .char c, bs => stripFront (charBytes c) bs
  | .any, bs =>
    match bs with
    | [] => []
    | b :: rest => if b = slash then [] else [rest]
  | .run, bs => afterRun bs
  | .anyAbove, bs => bs :: afterSlashes bs
  | .anyBelow, bs => (afterSlash bs).flatMap suffixes
  | .anyBetween, bs => (afterSlash bs).flatMap fun rest => rest :: afterSlashes rest
  | .oneOf negated ranges, bs =>
    match bs with
    | [] => []
    | b :: rest => if inRanges ranges b = negated then [] else [rest]
  | .alternatives branches, bs => if areVoid branches then [bs] else restsOfAny branches bs

def restsOfList : List Token → List UInt8 → List (List UInt8)
  | [], bs => [bs]
  | t :: ts, bs => ((t.rests bs).flatMap fun rest => restsOfList ts rest).eraseDups

def restsOfAny : List (List Token) → List UInt8 → List (List UInt8)
  | [], _ => []
  | b :: branches, bs =>
    (if isVoidList b then [] else restsOfList b bs) ++ restsOfAny branches bs

end

/-- Whether a path matches as a whole. Two stars alone match every path. -/
def accepts (ts : List Token) (path : String) : Bool :=
  match ts with
  | [.anyAbove] => true
  | ts => (restsOfList ts path.toUTF8.toList).contains []

end SchemaForge.Ignore
