/-!
# Identifiers

The names of the constants that a module exports.
-/

namespace SchemaForge.Schema

/-- Letters and digits of ASCII, the underscore and the dollar sign. -/
def isIdentifierChar (c : Char) : Bool :=
  ('a' ≤ c && c ≤ 'z') || ('A' ≤ c && c ≤ 'Z') || ('0' ≤ c && c ≤ '9') || c = '_' || c = '$'

/-- A name in which every other character is replaced by an underscore. -/
def sanitize (name : String) : String :=
  String.ofList (name.toList.map fun c => if isIdentifierChar c then c else '_')

/-- The constant that holds the schema of a name. -/
def identifier (name : String) : String := sanitize name ++ "Schema"

/-- A schema that is looked up when it is used. -/
def lazyHandle (name : String) : String := "z.lazy(() => " ++ identifier name ++ ")"

end SchemaForge.Schema
