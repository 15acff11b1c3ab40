import SchemaForge.Json.Printer
import SchemaForge.Json.Reader
import SchemaForge.Kind
import SchemaForge.Text.Shown

/-!
# Why a value is no definition
-/

namespace SchemaForge

/-- What an attribute was expected to be. -/
inductive Expected where
  | text
  | flag
  | size
  | port
  | precision
  | real
  | list
  | map
  | filter
  /-- A name out of a closed set, or a map with that name as its key. -/
  | variant
  | unit
  deriving DecidableEq

def Expected.name : Expected → String
  | text => "a string"
  | flag => "a boolean"
  | size => "u64"
  | port => "u16"
  | precision => "i32"
  | real => "f64"
  | list => "a sequence"
  | map => "a map"
  | filter => "struct Filter"
  | variant => "string or map"
  | unit => "unit"

/-- A fault of one attribute. -/
inductive Fault where
  /-- A value of another type. -/
  | wrongType (got : Json) (expected : Expected)
  /-- An integer outside the range of its attribute. -/
  | outOfRange (n : Int) (expected : Expected)
  | missing (field : String)
  /-- A name outside a closed set. -/
  | unknownName (name : String) (known : List String)
  /-- A list or an object in place of a primitive value. -/
  | noLiteral
  /-- A map that stands for a name and has not exactly one key. -/
  | severalKeys
  /-- A filter written as a list with too many elements. -/
  | tooLong (length : Nat)

/-- How a value is called in a message. -/
def Json.describe : Json → String
  | .null => "null"
  | .bool b => "boolean `" ++ (if b then "true" else "false") ++ "`"
  | .int n => "integer `" ++ n.repr ++ "`"
  | .real x => "floating point `" ++ Json.numberText x ++ "`"
  | .str s => "string " ++ Text.shown s
  | .arr _ => "sequence"
  | .obj _ => "map"

def Fault.message : Fault → String
  | wrongType got expected =>
    "invalid type: " ++ got.describe ++ ", expected " ++ expected.name
  | outOfRange n expected =>
    "invalid value: integer `" ++ n.repr ++ "`, expected " ++ expected.name
  | missing field => "missing field `" ++ field ++ "`"
  | unknownName name known =>
    "unknown variant `" ++ name ++ "`, expected one of " ++
      ", ".intercalate (known.map fun k => "`" ++ k ++ "`")
  | noLiteral => "data did not match any variant of untagged enum LiteralValue"
  | severalKeys => "invalid value: map, expected map with a single key"
  | tooLong length =>
    "invalid length " ++ length.repr ++ ", expected 2 elements in sequence"

/-- A step from a definition to one of its parts. -/
inductive Step where
  | item
  | property (name : String)
  /-- The element at a position of the list in a field. -/
  | element (field : String) (index : Nat)
  deriving DecidableEq

def Step.text : Step → String
  | item => "/itemType"
  | property name => "/properties/" ++ name
  | element field index => "/" ++ field ++ "/" ++ index.repr

/-- The text of a path from the root of a definition. -/
def pathText (path : List Step) : String := String.join (path.map Step.text)

/-- Why a value or a text is no definition. -/
inductive DefinitionError where
  /-- A node has a tag outside the set of kinds. -/
  | unknownKind (tag : String)
  /-- The node at a path has no tag. -/
  | missingKind (path : List Step)
  /-- An attribute anywhere below a root of the given kind has a fault. -/
  | malformed (root : Kind) (fault : Fault)
  | notJson (failure : Json.Failure)

def DefinitionError.message : DefinitionError → String
  | unknownKind tag => "Unknown type kind: " ++ tag
  | missingKind path =>
    let place := pathText path
    "Type definition is missing its 'type' tag" ++ if place.isEmpty then "" else " at " ++ place
  | malformed root fault => "Malformed '" ++ root.tag ++ "' definition: " ++ fault.message
  | notJson failure => "Invalid JSON: " ++ failure.message

end SchemaForge
