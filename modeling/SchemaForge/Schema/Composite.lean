import SchemaForge.Schema.Literal

/-!
# Expressions of composite nodes

The expression of a node from the expressions of its parts.
-/

namespace SchemaForge.Schema

def array (item : String) (size : Bounds) : String :=
  "z.array(" ++ item ++ ")" ++ boundCalls size

/-- One property of an object. -/
structure Field where
  name : String
  schema : String
  required : Bool
  deriving DecidableEq

def Field.text (f : Field) : String :=
  "  " ++ Text.quote f.name ++ ": " ++ f.schema ++ if f.required then "" else ".optional()"

/-- Properties stand one on a line. Whether further keys pass depends on the last argument; when
it is absent they are dropped. -/
def object (fields : List Field) (additional : Option Bool) : String :=
  let base :=
    if fields.isEmpty then "z.object(\x7b\x7d)"
    else "z.object(\x7b\n" ++ ",\n".intercalate (fields.map Field.text) ++ "\n\x7d)"
  base ++
    match additional with
    | some true => ".passthrough()"
    | some false => ".strict()"
    | none => ""

def tuple (items : List String) : String := "z.tuple(" ++ list items ++ ")"

/-- A union. No member matches nothing, and a single one stands alone. -/
def union : List String → String
  | [] => never
  | [s] => s
  | members => "z.union(" ++ list members ++ ")"

/-- Intersections, from the left. No member matches nothing. -/
def intersection : List String → String
  | [] => never
  | s :: rest => rest.foldl (fun acc t => acc ++ call "and" t) s

/-- An exclusive choice has no counterpart and is a union as well. -/
def group : Grouping → List String → String
  | .anyOf, members => union members
  | .allOf, members => intersection members
  | .oneOf, members => union members

end SchemaForge.Schema
