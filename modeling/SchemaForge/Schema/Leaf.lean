import SchemaForge.Refinement.Basic
import SchemaForge.Schema.Binary
import SchemaForge.Schema.Literal

/-!
# Expressions of leaves

Each leaf is a constructor call followed by one call for every attribute that is present, in a
fixed order.
-/

namespace SchemaForge

namespace Schema

def plain : Plain → String
  | .boolean => "z.boolean()"
  | .null => "z.null()"
  | .any => "z.any()"
  | .uuid => "z.string().uuid()"
  | .cuid => "z.string().cuid()"
  | .guid => "z.string().uuid()"
  | .ulid => "z.string().ulid()"
  | .timezone => "z.string()"
  | .cidrv4 => "z.string().cidr(\x7b version: \"v4\" \x7d)"
  | .cidrv6 => "z.string().cidr(\x7b version: \"v6\" \x7d)"
  | .date => "z.iso.date()"
  | .duration => "z.iso.duration()"

/-- The pattern comes before the bounds. -/
def string (pattern : Option String) (length : Bounds) : String :=
  "z.string()" ++ callWith "regex" (fun p => "new RegExp(" ++ Text.quote p ++ ")") pattern ++
    boundCalls length

/-- The lower bound, the upper bound, then the step. -/
def numberRules (r : NumberRules) : String :=
  "z.number()" ++
    callWith (if r.exclusiveMinimum.getD false then "gt" else "gte") number r.minimum ++
    callWith (if r.exclusiveMaximum.getD false then "lt" else "lte") number r.maximum ++
    callWith "multipleOf" number r.multipleOf

def literalOf (l : Literal) : String := "z.literal(" ++ literal l ++ ")"

/-- Only texts make an enumeration; other members make a union of literals. No member matches
nothing, and a single one is a literal. -/
def enumeration : List Literal → String
  | [] => never
  | [l] => literalOf l
  | ls =>
    if ls.all Literal.isText then "z.enum(" ++ list (ls.map literal) ++ ")"
    else "z.union(" ++ list (ls.map literalOf) ++ ")"

/-- Characters that need a backslash inside a character class. -/
def isSpecialInClass (c : Char) : Bool :=
  c = '\\' || c = ']' || c = '[' || c = '^' || c = '-' || c = '/'

/-- The body of the character class of an alphabet. -/
def classBody (alphabet : List Char) : List Char :=
  alphabet.flatMap fun c => if isSpecialInClass c then ['\\', c] else [c]

/-- An alphabet of its own becomes a character class; an empty one is ignored. -/
def nanoid (length : Option UInt64) (alphabet : Option String) : String :=
  let base :=
    match alphabet with
    | some a =>
      if a.isEmpty then "z.string().nanoid()"
      else "z.string().regex(/^[" ++ String.ofList (classBody a.toList) ++ "]+$/)"
    | none => "z.string().nanoid()"
  base ++ callWith "length" (fun n => n.toNat.repr) length

/-- The regular expression of a colour notation, not anchored. -/
def colorPattern : ColorFormat → String
  | .hex => "#[A-Fa-f0-9]\x7b6\x7d|#[A-Fa-f0-9]\x7b3\x7d"
  | .hexa => "#[A-Fa-f0-9]\x7b8\x7d|#[A-Fa-f0-9]\x7b4\x7d"
  | .rgb =>
    "rgb\\(\\s*\\d\x7b1,3\x7d\\s*,\\s*\\d\x7b1,3\x7d\\s*,\\s*\\d\x7b1,3\x7d\\s*\\)"
  | .rgba =>
    "rgba\\(\\s*\\d\x7b1,3\x7d\\s*,\\s*\\d\x7b1,3\x7d\\s*,\\s*\\d\x7b1,3\x7d\\s*," ++
      "\\s*(?:0|1|0?\\.\\d+)\\s*\\)"
  | .hsl =>
    "hsl\\(\\s*\\d\x7b1,3\x7d\\s*,\\s*\\d\x7b1,3\x7d%\\s*,\\s*\\d\x7b1,3\x7d%\\s*\\)"
  | .hsla =>
    "hsla\\(\\s*\\d\x7b1,3\x7d\\s*,\\s*\\d\x7b1,3\x7d%\\s*,\\s*\\d\x7b1,3\x7d%\\s*," ++
      "\\s*(?:0|1|0?\\.\\d+)\\s*\\)"

/-- The notations that a filter accepts, in their own order; none if it constrains nothing. -/
def acceptedFormats (f : Filter ColorFormat) : Option (List ColorFormat) :=
  if f.entries.isEmpty then none
  else
    match f.mode with
    | .allow => some (ColorFormat.all.filter f.entries.contains)
    | .deny => some (ColorFormat.all.filter fun c => !f.entries.contains c)
    | .none => none

/-- Without a filter the four hexadecimal forms are accepted. -/
def color (f : Filter ColorFormat) : String :=
  match acceptedFormats f with
  | none =>
    "z.string().regex(/^#([A-Fa-f0-9]\x7b6\x7d|[A-Fa-f0-9]\x7b3\x7d|[A-Fa-f0-9]\x7b8\x7d|" ++
      "[A-Fa-f0-9]\x7b4\x7d)$/)"
  | some [] => never
  | some formats =>
    "z.string().regex(/^(?:" ++ "|".intercalate (formats.map colorPattern) ++ ")$/)"

def encodingBase : Encoding → String
  | .base32 => "z.string().regex(/^[A-Z2-7]+=*$/)"
  | .base36 => "z.string().regex(/^[0-9A-Z]+$/i)"
  | .base64 => "z.string().base64()"
  | .base64url => "z.string().base64url()"
  | .hex => "z.string().regex(/^[0-9A-Fa-f]+$/)"

/-- Bounds in bytes become bounds in characters. -/
def binary (e : Encoding) (bytes : Bounds) : String :=
  encodingBase e ++ callWith "min" (fun n => (e.encodedLength n).repr) bytes.least ++
    callWith "max" (fun n => (e.encodedLength n).repr) bytes.greatest

def hash (algorithm : String) : String :=
  "z.string().regex(/^[0-9A-Fa-f]\x7b" ++
    ((digestLength? algorithm).getD defaultDigestLength).repr ++ "\x7d$/)"

def addressBase : AddressKind → String
  | .ipv4 => "z.string().ip(\x7b version: \"v4\" \x7d)"
  | .ipv6 => "z.string().ip(\x7b version: \"v6\" \x7d)"
  | .mac => "z.string().regex(/^([0-9A-Fa-f]\x7b2\x7d[:-])\x7b5\x7d([0-9A-Fa-f]\x7b2\x7d)$/)"

/-- A constructor of an ISO 8601 format with the options that are present. -/
def iso (format : String) (options : List String) : String :=
  "z.iso." ++ format ++
    if options.isEmpty then "()" else "(\x7b " ++ ", ".intercalate options ++ " \x7d)"

/-- An option that may be absent. -/
def option {α : Type} (name : String) (text : α → String) (value : Option α) : List String :=
  (value.map fun a => name ++ ": " ++ text a).toList

def precision (p : Option Int32) : List String :=
  option "precision" (fun p => p.toInt.repr) p

/-- A format check followed by refinements. -/
def refined (base : String) (rs : List Refinement) : String :=
  base ++ String.join (rs.map Refinement.toJs)

end Schema

/-- The expression of a leaf. -/
def Leaf.schema : Leaf → String
  | .plain p => Schema.plain p
  | .string pattern length => Schema.string pattern length
  | .number rules => Schema.numberRules rules
  | .literal value => Schema.literalOf value
  | .enumeration values => Schema.enumeration values
  | .email domain => Schema.refined "z.string().email()" (Refinement.ofLeaf (.email domain))
  | .nanoid length alphabet => Schema.nanoid length alphabet
  | .url rules => Schema.refined "z.string().url()" (Refinement.ofLeaf (.url rules))
  | .color format => Schema.color format
  | .binary encoding bytes => Schema.binary encoding bytes
  | .hash algorithm => Schema.hash algorithm
  | .address kind range =>
    Schema.refined (Schema.addressBase kind) (Refinement.ofLeaf (.address kind range))
  | .time p => Schema.iso "time" (Schema.precision p)
  | .datetime offset zoneless p =>
    Schema.iso "datetime"
      (Schema.option "offset" Schema.flag offset ++ Schema.option "local" Schema.flag zoneless ++
        Schema.precision p)

/-- The range entries of a leaf that are no ranges and therefore match nothing. -/
def Leaf.skipped : Leaf → List String
  | .address .ipv4 range => Refinement.skippedRanges range.entries
  | _ => []

end SchemaForge
