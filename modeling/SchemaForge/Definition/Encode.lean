import SchemaForge.Definition.Basic

/-!
# Definitions as JSON

The tag comes first, then the attributes in a fixed order, then the examples. Absent attributes
and empty examples are left out; lists, modes and property maps are always written.
-/

namespace SchemaForge

/-- A number; infinities and what is no number have no JSON form and are written as `null`. -/
def numberJson (x : Binary64) : Json := if x.isFinite then .real x else .null

def Literal.toJson : Literal → Json
  | null => .null
  | bool b => .bool b
  | number x => numberJson x
  | text s => .str s

namespace Definition

/-- The field of a present attribute. -/
def optionalField {α : Type} (name : String) (f : α → Json) : Option α → List (String × Json)
  | some a => [(name, f a)]
  | none => []

def sizeJson (n : UInt64) : Json := .int n.toNat

def textsJson (xs : List String) : Json := .arr (xs.map .str)

def boundsFields (least greatest : String) (b : Bounds) : List (String × Json) :=
  optionalField least sizeJson b.least ++ optionalField greatest sizeJson b.greatest

/-- A filter whose two parts stand in the node itself, the entries under `name`. -/
def inlineFilterFields {α : Type} (name : String) (f : α → Json) (x : Filter α) :
    List (String × Json) :=
  [("mode", .str x.mode.name), (name, .arr (x.entries.map f))]

/-- A filter as a value of its own. -/
def filterJson {α : Type} (f : α → Json) (x : Filter α) : Json :=
  .obj (inlineFilterFields "value" f x)

def examplesFields (examples : List Json) : List (String × Json) :=
  if examples.isEmpty then [] else [("examples", .arr examples)]

/-- The attributes of a leaf in their order. -/
def leafFields : Leaf → List (String × Json)
  | .plain _ => []
  | .string pattern length =>
    optionalField "pattern" .str pattern ++ boundsFields "minLength" "maxLength" length
  | .number rules =>
    optionalField "minimum" numberJson rules.minimum ++
      optionalField "maximum" numberJson rules.maximum ++
      optionalField "exclusiveMinimum" .bool rules.exclusiveMinimum ++
      optionalField "exclusiveMaximum" .bool rules.exclusiveMaximum ++
      optionalField "multipleOf" numberJson rules.multipleOf
  | .literal value => [("value", value.toJson)]
  | .enumeration values => [("values", .arr (values.map Literal.toJson))]
  | .email domain => inlineFilterFields "domain" .str domain
  | .nanoid length alphabet =>
    optionalField "length" sizeJson length ++ optionalField "alphabet" .str alphabet
  | .url rules =>
    optionalField "protocol" (filterJson .str) rules.protocol ++
      optionalField "domain" (filterJson .str) rules.domain ++
      optionalField "port" (filterJson fun p => .int p.toNat) rules.port ++
      optionalField "path" (filterJson .str) rules.path
  | .color format => inlineFilterFields "format" (fun c => .str c.name) format
  | .binary _ bytes => boundsFields "minLength" "maxLength" bytes
  | .hash algorithm => [("algorithm", .str algorithm)]
  | .address _ range => inlineFilterFields "range" .str range
  | .time precision => optionalField "precision" (fun p => .int p.toInt) precision
  | .datetime offset zoneless precision =>
    optionalField "offset" .bool offset ++ optionalField "local" .bool zoneless ++
      optionalField "precision" (fun p => .int p.toInt) precision

/-- The field that holds the tag. -/
def tagField (k : Kind) : String × Json := ("type", .str k.tag)

mutual

/-- The JSON value of a definition. -/
def toJson : Definition → Json
  | leaf l examples => .obj (tagField l.kind :: (leafFields l ++ examplesFields examples))
  | array item size examples =>
    .obj (tagField .array :: ("itemType", toJson item) ::
      (boundsFields "minItems" "maxItems" size ++ examplesFields examples))
  | object properties required additional examples =>
    .obj (tagField .object :: ("properties", .obj (propertiesToJson properties)) ::
      ("required", textsJson required) ::
      (optionalField "additionalProperties" .bool additional ++ examplesFields examples))
  | tuple items examples =>
    .obj (tagField .tuple :: ("items", .arr (listToJson items)) :: examplesFields examples)
  | group g members examples =>
    .obj (tagField g.kind :: ("types", .arr (listToJson members)) :: examplesFields examples)
  | ref name examples =>
    .obj (tagField .ref :: ("ref", .str name) :: examplesFields examples)

def listToJson : List Definition → List Json
  | [] => []
  | d :: rest => toJson d :: listToJson rest

def propertiesToJson : List (String × Definition) → List (String × Json)
  | [] => []
  | (k, d) :: rest => (k, toJson d) :: propertiesToJson rest

end

end Definition

end SchemaForge
