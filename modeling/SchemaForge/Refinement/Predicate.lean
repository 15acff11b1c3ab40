import SchemaForge.Definition.Filter
import SchemaForge.Text.Blank
import SchemaForge.Text.Quoted

/-!
# Predicates

A predicate tests the part of a value that a filter looks at. It has a meaning here, `eval`, and a
JavaScript expression over the variable `subject` with the same meaning, `toJs`.
-/

namespace SchemaForge

/-- What a predicate compares: a text or a number, which never are equal to each other. -/
inductive Operand where
  | text (s : String)
  | number (n : Nat)
  deriving DecidableEq

/-- The JavaScript literal of an operand. -/
def Operand.toJs : Operand → String
  | text s => Text.quote s
  | number n => n.repr

/-- A test of a subject. -/
inductive Predicate where
  | equals (x : Operand)
  | oneOf (xs : List Operand)
  /-- A number between two inclusive bounds. -/
  | inRange (first last : Nat)
  /-- A path or anything below it. -/
  | pathPrefix (path : String)
  | any (ps : List Predicate)
  | all (ps : List Predicate)
  | not (p : Predicate)

namespace Predicate

/-- Membership in a list; a single member is compared directly. -/
def memberOf : List Operand → Predicate
  | [x] => equals x
  | xs => oneOf xs

/-- The predicate that a filter asks for: itself to allow, its negation to deny. -/
def forMode (p : Predicate) : FilterMode → Option Predicate
  | .allow => some p
  | .deny => some (not p)
  | .none => none

/-- A path entry without the slashes at its end. -/
def pathBase (path : String) : List Char := Text.dropEndWhile (· == '/') path.toList

/-- Whether a path is the base or continues it after a slash. -/
def isBelow (base path : List Char) : Bool :=
  path == base || (base ++ ['/']).isPrefixOf path

mutual

/-- Whether a subject passes. -/
def eval (subject : Operand) : Predicate → Bool
  | equals x => subject == x
  | oneOf xs => xs.contains subject
  | inRange first last =>
    match subject with
    | .number n => first ≤ n && n ≤ last
    | .text _ => false
  | pathPrefix path =>
    match subject with
    | .text s => isBelow (pathBase path) s.toList
    | .number _ => false
  | any ps => evalAny subject ps
  | all ps => evalAll subject ps
  | not p => !eval subject p

def evalAny (subject : Operand) : List Predicate → Bool
  | [] => false
  | p :: ps => eval subject p || evalAny subject ps

def evalAll (subject : Operand) : List Predicate → Bool
  | [] => true
  | p :: ps => eval subject p && evalAll subject ps

end

mutual

/-- The JavaScript expression over `subject`. -/
def toJs : Predicate → String
  | equals x => "subject === " ++ x.toJs
  | oneOf xs => "[" ++ ", ".intercalate (xs.map Operand.toJs) ++ "].includes(subject)"
  | inRange first last =>
    if first = last then "subject === " ++ first.repr
    else "(subject >= " ++ first.repr ++ " && subject <= " ++ last.repr ++ ")"
  | pathPrefix path =>
    let base := String.ofList (pathBase path)
    "(subject === " ++ Text.quote base ++ " || subject.startsWith(" ++ Text.quote (base ++ "/") ++
      "))"
  | any [] => "false"
  | any [p] => toJs p
  | any (p :: q :: ps) => "(" ++ joinJs " || " (p :: q :: ps) ++ ")"
  | all [] => "true"
  | all [p] => toJs p
  | all (p :: q :: ps) => "(" ++ joinJs " && " (p :: q :: ps) ++ ")"
  | not p => "!(" ++ toJs p ++ ")"

/-- Expressions with an operator between them. -/
def joinJs (operator : String) : List Predicate → String
  | [] => ""
  | [p] => toJs p
  | p :: q :: ps => toJs p ++ operator ++ joinJs operator (q :: ps)

end

end Predicate

end SchemaForge
