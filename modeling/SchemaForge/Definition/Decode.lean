import SchemaForge.Definition.Basic
import SchemaForge.Definition.Error

/-!
# Definitions from JSON

Decoding has two passes. The first checks the tag of every node in pre-order. The second decodes
the attributes that the kind of a node declares, in the order in which the fields stand, and
ignores all other fields; the first fault decides. An absent attribute that has no default is
reported after the faults of all present ones.
-/

namespace SchemaForge

namespace Definition

/-! ## Tags -/

/-- The kind of a node, which must have a text as its tag. -/
def readKind (path : List Step) (v : Json) : Except DefinitionError Kind :=
  match (v.field? "type").bind Json.text? with
  | none => .error (.missingKind path)
  | some tag =>
    match Kind.ofTag? tag with
    | none => .error (.unknownKind tag)
    | some kind => .ok kind

/-- Where a kind keeps its parts. -/
inductive Parts where
  | none
  | item (field : String)
  | properties (field : String)
  | elements (field : String)

/-- The field of a kind that holds definitions. -/
def partsOf : Kind → Parts
  | .array => .item "itemType"
  | .object => .properties "properties"
  | .tuple => .elements "items"
  | .anyOf | .allOf | .oneOf => .elements "types"
  | _ => .none

mutual

/-- Check the tags of a node and of all nodes below it, in pre-order. -/
def checkTags (path : List Step) : Json → Except DefinitionError Kind
  | .obj fields => do
    let kind ← readKind path (.obj fields)
    checkFields path (partsOf kind) fields
    return kind
  | v => readKind path v

/-- Check the parts of a node, which are in one of its fields. -/
def checkFields (path : List Step) (parts : Parts) :
    List (String × Json) → Except DefinitionError Unit
  | [] => .ok ()
  | (name, value) :: rest =>
    match parts with
    | .none => .ok ()
    | .item field =>
      if name = field then do
        let _ ← checkTags (path ++ [.item]) value
        return ()
      else checkFields path parts rest
    | .properties field =>
      if name = field then
        match value with
        | .obj properties => checkProperties path properties
        | _ => .ok ()
      else checkFields path parts rest
    | .elements field =>
      if name = field then
        match value with
        | .arr elements => checkElements path field 0 elements
        | _ => .ok ()
      else checkFields path parts rest

def checkProperties (path : List Step) : List (String × Json) → Except DefinitionError Unit
  | [] => .ok ()
  | (name, value) :: rest => do
    let _ ← checkTags (path ++ [.property name]) value
    checkProperties path rest

def checkElements (path : List Step) (field : String) (index : Nat) :
    List Json → Except DefinitionError Unit
  | [] => .ok ()
  | value :: rest => do
    let _ ← checkTags (path ++ [.element field index]) value
    checkElements path field (index + 1) rest

end

/-! ## Attributes -/

/-- What an attribute holds. A trailing question mark in the comments below stands for an
attribute that may be `null`, which is the same as leaving it out. -/
inductive Shape where
  /-- text -/
  | text
  /-- text? -/
  | optionalText
  /-- count? -/
  | size
  /-- number? -/
  | real
  /-- flag? -/
  | flag
  /-- digits after the point? -/
  | precision
  /-- primitive value -/
  | literal
  /-- primitive values -/
  | literals
  /-- texts -/
  | texts
  /-- mode of an allow or deny list -/
  | mode
  /-- colour notations -/
  | formats
  /-- list of texts with its mode? -/
  | textFilter
  /-- list of ports with its mode? -/
  | portFilter
  /-- definition -/
  | definition
  /-- definitions -/
  | definitions
  /-- named definitions -/
  | properties
  /-- arbitrary values -/
  | examples
  deriving DecidableEq

/-- A decoded attribute. -/
inductive Attribute where
  | absent
  | text (s : String)
  | size (n : UInt64)
  | real (x : Binary64)
  | flag (b : Bool)
  | precision (p : Int32)
  | literal (l : Literal)
  | literals (ls : List Literal)
  | texts (ss : List String)
  | mode (m : FilterMode)
  | formats (fs : List ColorFormat)
  | textFilter (f : Filter String)
  | portFilter (f : Filter UInt16)
  | definition (d : Definition)
  | definitions (ds : List Definition)
  | properties (ps : List (String × Definition))
  | examples (vs : List Json)

/-- The attributes that a kind declares, all of which may have examples. -/
def declared (k : Kind) : List (String × Shape) :=
  own k ++ [("examples", .examples)]
where
  /-- The attributes other than the examples. -/
  own : Kind → List (String × Shape)
  | .string => [("pattern", .optionalText), ("minLength", .size), ("maxLength", .size)]
  | .number =>
    [("minimum", .real), ("maximum", .real), ("exclusiveMinimum", .flag),
      ("exclusiveMaximum", .flag), ("multipleOf", .real)]
  | .literal => [("value", .literal)]
  | .enum => [("values", .literals)]
  | .array => [("itemType", .definition), ("minItems", .size), ("maxItems", .size)]
  | .object =>
    [("properties", .properties), ("required", .texts), ("additionalProperties", .flag)]
  | .tuple => [("items", .definitions)]
  | .anyOf | .allOf | .oneOf => [("types", .definitions)]
  | .email => [("mode", .mode), ("domain", .texts)]
  | .nanoid => [("length", .size), ("alphabet", .optionalText)]
  | .url =>
    [("protocol", .textFilter), ("domain", .textFilter), ("port", .portFilter),
      ("path", .textFilter)]
  | .color => [("mode", .mode), ("format", .formats)]
  | .base32 | .base36 | .base64 | .base64url | .hex =>
    [("minLength", .size), ("maxLength", .size)]
  | .hash => [("algorithm", .text)]
  | .ipv4 | .ipv6 | .mac => [("mode", .mode), ("range", .texts)]
  | .time => [("precision", .precision)]
  | .datetime => [("offset", .flag), ("local", .flag), ("precision", .precision)]
  | .ref => [("ref", .text)]
  | _ => []

def decodeText : Json → Except Fault String
  | .str s => .ok s
  | v => .error (.wrongType v .text)

def decodeFlag : Json → Except Fault Bool
  | .bool b => .ok b
  | v => .error (.wrongType v .flag)

/-- A number, integers included. -/
def decodeReal : Json → Except Fault Binary64
  | .int n => .ok (.ofInt n)
  | .real x => .ok x
  | v => .error (.wrongType v .real)

/-- An integer from `low` to `high`; a floating-point number is none. -/
def decodeInt (expected : Expected) (low high : Int) : Json → Except Fault Int
  | .int n => if low ≤ n ∧ n ≤ high then .ok n else .error (.outOfRange n expected)
  | v => .error (.wrongType v expected)

def decodeSize (v : Json) : Except Fault UInt64 :=
  (decodeInt .size 0 18446744073709551615 v).map fun n => UInt64.ofNat n.toNat

def decodePort (v : Json) : Except Fault UInt16 :=
  (decodeInt .port 0 65535 v).map fun n => UInt16.ofNat n.toNat

def decodePrecision (v : Json) : Except Fault Int32 :=
  (decodeInt .precision (-2147483648) 2147483647 v).map Int32.ofInt

def decodeLiteral : Json → Except Fault Literal
  | .null => .ok .null
  | .bool b => .ok (.bool b)
  | .int n => .ok (.number (.ofInt n))
  | .real x => .ok (.number x)
  | .str s => .ok (.text s)
  | .arr _ | .obj _ => .error .noLiteral

/-- A list, element by element. -/
def decodeList {α : Type} (f : Json → Except Fault α) : Json → Except Fault (List α)
  | .arr items => items.mapM f
  | v => .error (.wrongType v .list)

/-- A name out of a closed set. A map whose only key is the name, with nothing as its value,
stands for the name. -/
def decodeName {α : Type} (names : List (String × α)) (v : Json) : Except Fault α :=
  let find (name : String) : Except Fault α :=
    match names.lookup name with
    | some a => .ok a
    | none => .error (.unknownName name (names.map Prod.fst))
  match v with
  | .str name => find name
  | .obj [(name, value)] => do
    let a ← find name
    match value with
    | .null | .obj [] => return a
    | other => throw (.wrongType other .unit)
  | .obj _ => .error .severalKeys
  | other => .error (.wrongType other .variant)

def decodeMode : Json → Except Fault FilterMode :=
  decodeName FilterMode.spellings

def decodeFormat : Json → Except Fault ColorFormat :=
  decodeName (ColorFormat.all.map fun f => (f.name, f))

/-- The fields of a filter in the order in which they stand. -/
def decodeFilterFields {α : Type} (f : Json → Except Fault α) :
    List (String × Json) → Filter α → Except Fault (Filter α)
  | [], acc => .ok acc
  | (name, v) :: rest, acc => do
    if name = "mode" then
      let mode ← decodeMode v
      decodeFilterFields f rest { acc with mode }
    else if name = "value" then
      let entries ← decodeList f v
      decodeFilterFields f rest { acc with entries }
    else decodeFilterFields f rest acc

/-- A filter, as a map or as the list of its mode and its entries. -/
def decodeFilter {α : Type} (f : Json → Except Fault α) : Json → Except Fault (Filter α)
  | .obj fields => decodeFilterFields f fields {}
  | .arr [] => .ok {}
  | .arr (m :: rest) => do
    let mode ← decodeMode m
    match rest with
    | [] => return { mode }
    | v :: more => do
      let entries ← decodeList f v
      if more.isEmpty then return { mode, entries } else throw (.tooLong (more.length + 2))
  | v => .error (.wrongType v .filter)

/-- An attribute that `null` leaves out. -/
def decodeOptional {α : Type} (f : Json → Except Fault α) (wrap : α → Attribute) :
    Json → Except Fault Attribute
  | .null => .ok .absent
  | v => (f v).map wrap

/-- The shape of a declared field. -/
def shapeOf (k : Kind) (field : String) : Option Shape := (declared k).lookup field

/-- Decode an attribute that holds no definitions. -/
def decodePlain (shape : Shape) (v : Json) : Except Fault Attribute :=
  match shape with
  | .text => (decodeText v).map .text
  | .optionalText => decodeOptional decodeText .text v
  | .size => decodeOptional decodeSize .size v
  | .real => decodeOptional decodeReal .real v
  | .flag => decodeOptional decodeFlag .flag v
  | .precision => decodeOptional decodePrecision .precision v
  | .literal => (decodeLiteral v).map .literal
  | .literals => (decodeList decodeLiteral v).map .literals
  | .texts => (decodeList decodeText v).map .texts
  | .mode => (decodeMode v).map .mode
  | .formats => (decodeList decodeFormat v).map .formats
  | .textFilter => decodeOptional (decodeFilter decodeText) .textFilter v
  | .portFilter => decodeOptional (decodeFilter decodePort) .portFilter v
  | .examples => (decodeList .ok v).map .examples
  | .definitions => .error (.wrongType v .list)
  | .definition | .properties => .error (.wrongType v .map)

/-! ## Nodes -/

/-- Decoded attributes by name. -/
abbrev Attributes := List (String × Attribute)

namespace Attributes

variable (as : Attributes) (name : String)

def text? : Option String :=
  match as.lookup name with
  | some (.text s) => some s
  | _ => none

def size? : Option UInt64 :=
  match as.lookup name with
  | some (.size n) => some n
  | _ => none

def real? : Option Binary64 :=
  match as.lookup name with
  | some (.real x) => some x
  | _ => none

def flag? : Option Bool :=
  match as.lookup name with
  | some (.flag b) => some b
  | _ => none

def precision? : Option Int32 :=
  match as.lookup name with
  | some (.precision p) => some p
  | _ => none

def literal? : Option Literal :=
  match as.lookup name with
  | some (.literal l) => some l
  | _ => none

def literals : List Literal :=
  match as.lookup name with
  | some (.literals ls) => ls
  | _ => []

def texts : List String :=
  match as.lookup name with
  | some (.texts ss) => ss
  | _ => []

def mode : FilterMode :=
  match as.lookup "mode" with
  | some (.mode m) => m
  | _ => .none

def formats : List ColorFormat :=
  match as.lookup name with
  | some (.formats fs) => fs
  | _ => []

def textFilter? : Option (Filter String) :=
  match as.lookup name with
  | some (.textFilter f) => some f
  | _ => none

def portFilter? : Option (Filter UInt16) :=
  match as.lookup name with
  | some (.portFilter f) => some f
  | _ => none

def definition? : Option Definition :=
  match as.lookup name with
  | some (.definition d) => some d
  | _ => none

def definitions : List Definition :=
  match as.lookup name with
  | some (.definitions ds) => ds
  | _ => []

def properties : List (String × Definition) :=
  match as.lookup name with
  | some (.properties ps) => ps
  | _ => []

def examples : List Json :=
  match as.lookup "examples" with
  | some (.examples vs) => vs
  | _ => []

/-- Bounds under two names. -/
def bounds (least greatest : String) : Bounds := ⟨as.size? least, as.size? greatest⟩

/-- The value of an attribute without a default. -/
def required {α : Type} (value : Option α) : Except Fault α :=
  match value with
  | some a => .ok a
  | none => .error (.missing name)

end Attributes

/-- The leaf of a kind; composite kinds have none. -/
def assembleLeaf (as : Attributes) : Kind → Except Fault Leaf
  | .string => .ok (.string (as.text? "pattern") (as.bounds "minLength" "maxLength"))
  | .number =>
    .ok (.number
      { minimum := as.real? "minimum"
        maximum := as.real? "maximum"
        exclusiveMinimum := as.flag? "exclusiveMinimum"
        exclusiveMaximum := as.flag? "exclusiveMaximum"
        multipleOf := as.real? "multipleOf" })
  | .boolean => .ok (.plain .boolean)
  | .literal => (Attributes.required "value" (as.literal? "value")).map .literal
  | .enum => .ok (.enumeration (as.literals "values"))
  | .null => .ok (.plain .null)
  | .any => .ok (.plain .any)
  | .email => .ok (.email ⟨as.mode, as.texts "domain"⟩)
  | .uuid => .ok (.plain .uuid)
  | .cuid => .ok (.plain .cuid)
  | .guid => .ok (.plain .guid)
  | .ulid => .ok (.plain .ulid)
  | .nanoid => .ok (.nanoid (as.size? "length") (as.text? "alphabet"))
  | .url =>
    .ok (.url
      { protocol := as.textFilter? "protocol"
        domain := as.textFilter? "domain"
        port := as.portFilter? "port"
        path := as.textFilter? "path" })
  | .color => .ok (.color ⟨as.mode, as.formats "format"⟩)
  | .timezone => .ok (.plain .timezone)
  | .base32 => .ok (.binary .base32 (as.bounds "minLength" "maxLength"))
  | .base36 => .ok (.binary .base36 (as.bounds "minLength" "maxLength"))
  | .base64 => .ok (.binary .base64 (as.bounds "minLength" "maxLength"))
  | .base64url => .ok (.binary .base64url (as.bounds "minLength" "maxLength"))
  | .hex => .ok (.binary .hex (as.bounds "minLength" "maxLength"))
  | .hash => (Attributes.required "algorithm" (as.text? "algorithm")).map .hash
  | .ipv4 => .ok (.address .ipv4 ⟨as.mode, as.texts "range"⟩)
  | .ipv6 => .ok (.address .ipv6 ⟨as.mode, as.texts "range"⟩)
  | .cidrv4 => .ok (.plain .cidrv4)
  | .cidrv6 => .ok (.plain .cidrv6)
  | .mac => .ok (.address .mac ⟨as.mode, as.texts "range"⟩)
  | .date => .ok (.plain .date)
  | .time => .ok (.time (as.precision? "precision"))
  | .datetime =>
    .ok (.datetime (as.flag? "offset") (as.flag? "local") (as.precision? "precision"))
  | .duration => .ok (.plain .duration)
  | .array | .object | .tuple | .anyOf | .allOf | .oneOf | .ref => .error (.missing "type")

/-- Build a node from its decoded attributes. -/
def assemble (kind : Kind) (as : Attributes) : Except Fault Definition :=
  match kind with
  | .array => do
    let item ← Attributes.required "itemType" (as.definition? "itemType")
    return .array item (as.bounds "minItems" "maxItems") as.examples
  | .object =>
    .ok (.object (as.properties "properties") (as.texts "required")
      (as.flag? "additionalProperties") as.examples)
  | .tuple => .ok (.tuple (as.definitions "items") as.examples)
  | .anyOf => .ok (.group .anyOf (as.definitions "types") as.examples)
  | .allOf => .ok (.group .allOf (as.definitions "types") as.examples)
  | .oneOf => .ok (.group .oneOf (as.definitions "types") as.examples)
  | .ref => do
    let name ← Attributes.required "ref" (as.text? "ref")
    return .ref name as.examples
  | kind => do
    let leaf ← assembleLeaf as kind
    return .leaf leaf as.examples

/-- The kind of a node, if it has one. -/
def kindOf? (fields : List (String × Json)) : Option Kind :=
  ((Entries.get? "type" fields).bind Json.text?).bind Kind.ofTag?

mutual

/-- Decode a node. Nodes without a known tag have been refused before. -/
def decode : Json → Except Fault Definition
  | .obj fields =>
    match kindOf? fields with
    | none => .error (.missing "type")
    | some kind => do
      let attributes ← decodeFields kind fields
      assemble kind attributes
  | _ => .error (.missing "type")

/-- Decode the declared fields of a node in the order in which they stand. -/
def decodeFields (kind : Kind) : List (String × Json) → Except Fault Attributes
  | [] => .ok []
  | (name, value) :: rest =>
    match shapeOf kind name with
    | none => decodeFields kind rest
    | some shape => do
      let a ←
        match shape, value with
        | .definition, v => (decode v).map Attribute.definition
        | .definitions, .arr items => (decodeItems items).map Attribute.definitions
        | .properties, .obj fields => (decodeProperties fields).map Attribute.properties
        | _, v => decodePlain shape v
      let others ← decodeFields kind rest
      return (name, a) :: others

def decodeItems : List Json → Except Fault (List Definition)
  | [] => .ok []
  | v :: rest => do
    let d ← decode v
    let ds ← decodeItems rest
    return d :: ds

def decodeProperties : List (String × Json) → Except Fault (List (String × Definition))
  | [] => .ok []
  | (name, v) :: rest => do
    let d ← decode v
    let ds ← decodeProperties rest
    return (name, d) :: ds

end

/-- The definition that a JSON value describes. -/
def ofJson (v : Json) : Except DefinitionError Definition := do
  let root ← checkTags [] v
  match decode v with
  | .ok d => return d
  | .error fault => throw (.malformed root fault)

/-- The definition that a JSON text describes. -/
def ofText (text : String) : Except DefinitionError Definition :=
  match Json.read text with
  | .ok v => ofJson v
  | .error failure => .error (.notJson failure)

end Definition

end SchemaForge
