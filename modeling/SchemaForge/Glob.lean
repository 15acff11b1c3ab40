/-!
# Filter patterns

Patterns over a whole relative path. A star matches any characters, slashes included; two stars
stand for any number of whole components.
-/

namespace SchemaForge

namespace Glob

/-- A member of a character class. -/
inductive ClassItem where
  | single (c : Char)
  | range (first last : Char)
  deriving DecidableEq

def ClassItem.accepts : ClassItem → Char → Bool
  | single c, d => c = d
  | range first last, d => first ≤ d && d ≤ last

/-- The members of a class. A dash between two characters makes a range. -/
def classItems : List Char → List ClassItem
  | a :: '-' :: b :: rest => .range a b :: classItems rest
  | a :: rest => .single a :: classItems rest
  | [] => []

/-- A piece of a pattern. -/
inductive Token where
  | char (c : Char)
  | anyChar
  | anyText
  /-- Any number of whole components. -/
  | anyComponents
  | oneOf (items : List ClassItem)
  | noneOf (items : List ClassItem)
  deriving DecidableEq

/-- Why a text is no pattern. -/
inductive Cause where
  | manyStars
  | starsInComponent
  | badClass
  deriving DecidableEq

structure Failure where
  cause : Cause
  position : Nat
  deriving DecidableEq

def Failure.message (f : Failure) : String :=
  "Pattern syntax error near position " ++ f.position.repr ++ ": " ++
    match f.cause with
    | .manyStars => "wildcards are either regular `*` or recursive `**`"
    | .starsInComponent => "recursive wildcards must form a single path component"
    | .badClass => "invalid range pattern"

/-- Where a reader stands: between tokens after a character, in a run of stars that started at a
position after a character, or in a class that started at a position. -/
inductive Mode where
  | plain (previous : Option Char)
  | stars (start count : Nat) (before : Option Char)
  | inClass (start : Nat) (negated : Bool) (body : List Char)
  deriving DecidableEq

/-- Begin a token with a character. -/
def beginToken (position : Nat) (previous : Option Char) (c : Char) : List Token × Mode :=
  if c = '?' then ([.anyChar], .plain (some c))
  else if c = '*' then ([], .stars position 1 previous)
  else if c = '[' then ([], .inClass position false [])
  else ([.char c], .plain (some c))

/-- The token of a run of stars, given what follows it. Two stars have to be a whole component,
and the slash after them belongs to them. -/
def endStars (start count : Nat) (before after : Option Char) : Except Failure (Token × Bool) :=
  if 2 < count then .error ⟨.manyStars, start + 2⟩
  else if count = 2 then
    if before ≠ none && before ≠ some '/' then .error ⟨.starsInComponent, start - 1⟩
    else if after = none then .ok (.anyComponents, false)
    else if after = some '/' then .ok (.anyComponents, true)
    else .error ⟨.starsInComponent, start + 2⟩
  else .ok (.anyText, false)

/-- Read one character. -/
def step (position : Nat) (mode : Mode) (c : Char) : Except Failure (List Token × Mode) :=
  match mode with
  | .plain previous => .ok (beginToken position previous c)
  | .stars start count before =>
    if c = '*' then .ok ([], .stars start (count + 1) before)
    else do
      let (token, taken) ← endStars start count before (some c)
      if taken then return ([token], .plain (some c))
      let (tokens, next) := beginToken position (some '*') c
      return (token :: tokens, next)
  | .inClass start negated body =>
    if body.isEmpty then
      if c = '!' && !negated then .ok ([], .inClass start true [])
      else .ok ([], .inClass start negated [c])
    else if c = ']' then
      let items := classItems body
      .ok ([if negated then .noneOf items else .oneOf items], .plain (some c))
    else .ok ([], .inClass start negated (body ++ [c]))

/-- The end of the pattern. -/
def finish : Mode → Except Failure (List Token)
  | .plain _ => .ok []
  | .stars start count before => (endStars start count before none).map fun (token, _) => [token]
  | .inClass start _ _ => .error ⟨.badClass, start⟩

def readFrom (position : Nat) (mode : Mode) : List Char → Except Failure (List Token)
  | [] => finish mode
  | c :: rest => do
    let (tokens, next) ← step position mode c
    let others ← readFrom (position + 1) next rest
    return tokens ++ others

/-- The ends of a list, from the whole to the empty one. -/
def suffixes : List Char → List (List Char)
  | [] => [[]]
  | c :: rest => (c :: rest) :: suffixes rest

/-- The ends of a list that follow a slash. -/
def afterSlashes : List Char → List (List Char)
  | [] => []
  | c :: rest => if c = '/' then rest :: afterSlashes rest else afterSlashes rest

/-- What may be left of a text after a single character of a class. -/
def afterOne (accepts : Char → Bool) : List Char → List (List Char)
  | [] => []
  | c :: rest => if accepts c then [rest] else []

/-- What may be left of a text after a token. -/
def Token.rests (t : Token) (text : List Char) : List (List Char) :=
  match t with
  | char c => afterOne (· = c) text
  | anyChar => afterOne (fun _ => true) text
  | anyText => suffixes text
  | anyComponents => text :: afterSlashes text ++ [[]]
  | oneOf items => afterOne (fun c => items.any (·.accepts c)) text
  | noneOf items => afterOne (fun c => !items.any (·.accepts c)) text

end Glob

/-- A pattern that was read. -/
structure Glob where
  tokens : List Glob.Token
  deriving DecidableEq

namespace Glob

/-- Read a pattern. -/
def parse (pattern : String) : Except Failure Glob :=
  (readFrom 0 (.plain none) pattern.toList).map Glob.mk

/-- Whether a text matches as a whole. -/
def accepts (g : Glob) (text : String) : Bool :=
  (g.tokens.foldl (fun rests t => (rests.flatMap t.rests).eraseDups) [text.toList]).contains []

end Glob

end SchemaForge
