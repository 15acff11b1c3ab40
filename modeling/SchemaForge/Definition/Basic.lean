import SchemaForge.Definition.Filter
import SchemaForge.Json.Basic
import SchemaForge.Kind
import SchemaForge.Text.Blank

/-!
# Definitions

A definition is a tree of composite nodes over leaves and references. Attributes that a definition
leaves out are absent and constrain nothing. Every node may carry examples, which have no effect
on generated code.
-/

namespace SchemaForge

/-- A primitive value of a literal or an enumeration. -/
inductive Literal where
  | null
  | bool (b : Bool)
  | number (x : Binary64)
  | text (s : String)
  deriving DecidableEq, Inhabited

def Literal.isText : Literal → Bool
  | text _ => true
  | _ => false

/-- Inclusive bounds on a count. -/
structure Bounds where
  least : Option UInt64 := none
  greatest : Option UInt64 := none
  deriving DecidableEq, Inhabited

/-- Bounds on a number. The exclusive flags make the matching bound strict. -/
structure NumberRules where
  minimum : Option Binary64 := none
  maximum : Option Binary64 := none
  exclusiveMinimum : Option Bool := none
  exclusiveMaximum : Option Bool := none
  multipleOf : Option Binary64 := none
  deriving DecidableEq, Inhabited

/-- Filters on the parts of a URL. -/
structure UrlRules where
  protocol : Option (Filter String) := none
  domain : Option (Filter String) := none
  port : Option (Filter UInt16) := none
  path : Option (Filter String) := none
  deriving DecidableEq, Inhabited

/-- A colour notation. -/
inductive ColorFormat where
  | hex
  | hexa
  | rgb
  | rgba
  | hsl
  | hsla
  deriving DecidableEq

namespace ColorFormat

/-- Every notation, in the order in which alternatives are written. -/
def all : List ColorFormat := [hex, hexa, rgb, rgba, hsl, hsla]

def name : ColorFormat → String
  | hex => "hex"
  | hexa => "hexa"
  | rgb => "rgb"
  | rgba => "rgba"
  | hsl => "hsl"
  | hsla => "hsla"

end ColorFormat

/-- Leaves without attributes. -/
inductive Plain where
  | boolean
  | null
  | any
  | uuid
  | cuid
  | guid
  | ulid
  | timezone
  | cidrv4
  | cidrv6
  | date
  | duration
  deriving DecidableEq

/-- Text encodings of bytes. -/
inductive Encoding where
  | base32
  | base36
  | base64
  | base64url
  | hex
  deriving DecidableEq

/-- Addresses with a range filter. -/
inductive AddressKind where
  | ipv4
  | ipv6
  | mac
  deriving DecidableEq

/-- A definition without parts. -/
inductive Leaf where
  | plain (p : Plain)
  | string (pattern : Option String) (length : Bounds)
  | number (rules : NumberRules)
  | literal (value : Literal)
  | enumeration (values : List Literal)
  | email (domain : Filter String)
  | nanoid (length : Option UInt64) (alphabet : Option String)
  | url (rules : UrlRules)
  | color (format : Filter ColorFormat)
  /-- Bounds count bytes, not characters. -/
  | binary (encoding : Encoding) (bytes : Bounds)
  | hash (algorithm : String)
  | address (kind : AddressKind) (range : Filter String)
  | time (precision : Option Int32)
  | datetime (offset : Option Bool) (zoneless : Option Bool) (precision : Option Int32)
  deriving DecidableEq

/-- How the members of a group constrain a value together. -/
inductive Grouping where
  | anyOf
  | allOf
  | oneOf
  deriving DecidableEq

/-- A definition. Names in `required` that no property has are ignored. -/
inductive Definition where
  | leaf (leaf : Leaf) (examples : List Json)
  | array (item : Definition) (size : Bounds) (examples : List Json)
  | object (properties : List (String × Definition)) (required : List String)
      (additional : Option Bool) (examples : List Json)
  | tuple (items : List Definition) (examples : List Json)
  | group (grouping : Grouping) (members : List Definition) (examples : List Json)
  | ref (name : String) (examples : List Json)

def Plain.kind : Plain → Kind
  | boolean => .boolean
  | null => .null
  | any => .any
  | uuid => .uuid
  | cuid => .cuid
  | guid => .guid
  | ulid => .ulid
  | timezone => .timezone
  | cidrv4 => .cidrv4
  | cidrv6 => .cidrv6
  | date => .date
  | duration => .duration

def Encoding.kind : Encoding → Kind
  | base32 => .base32
  | base36 => .base36
  | base64 => .base64
  | base64url => .base64url
  | hex => .hex

def AddressKind.kind : AddressKind → Kind
  | ipv4 => .ipv4
  | ipv6 => .ipv6
  | mac => .mac

def Leaf.kind : Leaf → Kind
  | plain p => p.kind
  | string _ _ => .string
  | number _ => .number
  | literal _ => .literal
  | enumeration _ => .enum
  | email _ => .email
  | nanoid _ _ => .nanoid
  | url _ => .url
  | color _ => .color
  | binary encoding _ => encoding.kind
  | hash _ => .hash
  | address kind _ => kind.kind
  | time _ => .time
  | datetime _ _ _ => .datetime

def Grouping.kind : Grouping → Kind
  | anyOf => .anyOf
  | allOf => .allOf
  | oneOf => .oneOf

namespace Definition

/-- The tag of the root node. -/
def kind : Definition → Kind
  | leaf l _ => l.kind
  | array _ _ _ => .array
  | object _ _ _ _ => .object
  | tuple _ _ => .tuple
  | group g _ _ => g.kind
  | ref _ _ => .ref

mutual

/-- Collect the names of the reference nodes in pre-order, behind those that were collected
before. -/
def collectReferences (names : List String) : Definition → List String
  | leaf _ _ => names
  | array item _ _ => collectReferences names item
  | object properties _ _ _ => collectFromProperties names properties
  | tuple items _ => collectFromList names items
  | group _ members _ => collectFromList names members
  | ref name _ => if names.contains name then names else names ++ [name]

def collectFromList (names : List String) : List Definition → List String
  | [] => names
  | d :: rest => collectFromList (collectReferences names d) rest

def collectFromProperties (names : List String) : List (String × Definition) → List String
  | [] => names
  | (_, d) :: rest => collectFromProperties (collectReferences names d) rest

end

/-- The names that a definition refers to, each once, in the order in which they appear. -/
def references (d : Definition) : List String := collectReferences [] d

end Definition

end SchemaForge
