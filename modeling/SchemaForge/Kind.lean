/-!
# Kinds

The closed set of values that the `type` tag of a definition may take, each in one family.
-/

namespace SchemaForge

/-- A family of kinds. -/
inductive Family where
  | basic
  | composite
  | formatted
  | binary
  | network
  | time
  | reference
  deriving DecidableEq

def Family.name : Family → String
  | basic => "Basic"
  | composite => "Composite"
  | formatted => "Formatted"
  | binary => "Binary"
  | network => "Network"
  | time => "Time"
  | reference => "Reference"

/-- The kind of a definition. -/
inductive Kind where
  | string
  | number
  | boolean
  | literal
  | enum
  | null
  | any
  | array
  | object
  | tuple
  | anyOf
  | allOf
  | oneOf
  | email
  | uuid
  | cuid
  | guid
  | ulid
  | nanoid
  | url
  | color
  | timezone
  | base32
  | base36
  | base64
  | base64url
  | hex
  | hash
  | ipv4
  | ipv6
  | cidrv4
  | cidrv6
  | mac
  | date
  | time
  | datetime
  | duration
  | ref
  deriving DecidableEq

namespace Kind

/-- Every kind, in the order of its family. -/
def all : List Kind :=
  [string, number, boolean, literal, enum, null, any, array, object, tuple, anyOf, allOf, oneOf,
    email, uuid, cuid, guid, ulid, nanoid, url, color, timezone, base32, base36, base64, base64url,
    hex, hash, ipv4, ipv6, cidrv4, cidrv6, mac, date, time, datetime, duration, ref]

/-- The tag as it stands in the `type` field. -/
def tag : Kind → String
  | string => "string"
  | number => "number"
  | boolean => "boolean"
  | literal => "literal"
  | enum => "enum"
  | null => "null"
  | any => "any"
  | array => "array"
  | object => "object"
  | tuple => "tuple"
  | anyOf => "anyOf"
  | allOf => "allOf"
  | oneOf => "oneOf"
  | email => "email"
  | uuid => "uuid"
  | cuid => "cuid"
  | guid => "guid"
  | ulid => "ulid"
  | nanoid => "nanoid"
  | url => "url"
  | color => "color"
  | timezone => "timezone"
  | base32 => "base32"
  | base36 => "base36"
  | base64 => "base64"
  | base64url => "base64url"
  | hex => "hex"
  | hash => "hash"
  | ipv4 => "ipv4"
  | ipv6 => "ipv6"
  | cidrv4 => "cidrv4"
  | cidrv6 => "cidrv6"
  | mac => "mac"
  | date => "date"
  | time => "time"
  | datetime => "datetime"
  | duration => "duration"
  | ref => "ref"

def family : Kind → Family
  | string | number | boolean | literal | enum | null | any => .basic
  | array | object | tuple | anyOf | allOf | oneOf => .composite
  | email | uuid | cuid | guid | ulid | nanoid | url | color | timezone => .formatted
  | base32 | base36 | base64 | base64url | hex | hash => .binary
  | ipv4 | ipv6 | cidrv4 | cidrv6 | mac => .network
  | date | time | datetime | duration => .time
  | ref => .reference

/-- The kind with a given tag. Tags are case-sensitive. -/
def ofTag? (t : String) : Option Kind :=
  all.find? fun k => k.tag == t

theorem ofTag?_tag (k : Kind) : ofTag? k.tag = some k := by
  cases k <;> rfl

/-- What is told about a tag outside the set. -/
def unknownTagMessage (t : String) : String :=
  "unknown type kind '" ++ t ++ "'"

end Kind

end SchemaForge
