import SchemaForge.Definition.Basic
import SchemaForge.Network.Url
import SchemaForge.Refinement.Predicate
import SchemaForge.Text.Case

/-!
# Refinements

A refinement parses a subject out of a value and tests it. A value whose subject does not parse
passes, because the format check in front of the refinement reports it. How URLs are read is a
parameter.
-/

namespace SchemaForge

/-- The part of a value that a predicate looks at. -/
inductive Subject where
  | value
  /-- A dotted quad as a number. -/
  | ipv4Number
  /-- The value in lower case. -/
  | ipv6
  /-- The value in upper case with colons for dashes. -/
  | mac
  /-- What follows the last `@`, in lower case. -/
  | emailDomain
  | urlProtocol
  | urlHostname
  /-- The explicit port or the default of the scheme. -/
  | urlPort
  | urlPath
  deriving DecidableEq

/-- A MAC address in upper case with colons between its groups. -/
def normalizeMac (mac : String) : String :=
  String.ofList ((Text.upper mac).toList.map fun c => if c = '-' then ':' else c)

/-- What follows the last `@`. -/
def afterAt? (value : String) : Option String :=
  let cs := value.toList
  if cs.contains '@' then some (String.ofList (cs.reverse.takeWhile (· ≠ '@')).reverse) else none

namespace Subject

/-- The subject of a value, if it parses. -/
def parse? (readUrl : String → Option Url) (s : Subject) (value : String) : Option Operand :=
  match s with
  | .value => some (.text value)
  | ipv4Number => (Ipv4.address? value).map .number
  | ipv6 => some (.text (Text.lower value))
  | mac => some (.text (normalizeMac value))
  | emailDomain => (afterAt? value).map fun d => .text (Text.lower d)
  | urlProtocol => (readUrl value).map fun u => .text u.scheme
  | urlHostname => (readUrl value).map fun u => .text u.host
  | urlPort => ((readUrl value).bind Url.effectivePort).map fun p => .number p.toNat
  | urlPath => (readUrl value).map fun u => .text u.path

/-- The statement that parses a URL or gives up. -/
def urlPrelude : String :=
  "let url; try \x7b url = new URL(val); \x7d catch \x7b return true; \x7d "

/-- JavaScript statements that bind `subject`, or return early when the value does not parse. -/
def prelude : Subject → String
  | value => "const subject = val;"
  | ipv4Number =>
    "const octets = val.split(\".\"); if (octets.length !== 4) return true; " ++
      "let subject = 0; for (const octet of octets) \x7b " ++
      "if (!/^\\d\x7b1,3\x7d$/.test(octet) || Number(octet) > 255) return true; " ++
      "subject = subject * 256 + Number(octet); \x7d"
  | ipv6 => "const subject = val.toLowerCase();"
  | mac => "const subject = val.toUpperCase().replace(/-/g, \":\");"
  | emailDomain =>
    "const at = val.lastIndexOf(\"@\"); if (at < 0) return true; " ++
      "const subject = val.slice(at + 1).toLowerCase();"
  | urlProtocol => urlPrelude ++ "const subject = url.protocol.replace(/:$/, \"\");"
  | urlHostname => urlPrelude ++ "const subject = url.hostname;"
  | urlPort =>
    urlPrelude ++
      "const defaults = \x7b \"http:\": 80, \"https:\": 443, \"ws:\": 80, \"wss:\": 443, " ++
      "\"ftp:\": 21 \x7d; " ++
      "const subject = url.port ? Number(url.port) : defaults[url.protocol]; " ++
      "if (subject === undefined) return true;"
  | urlPath => urlPrelude ++ "const subject = url.pathname;"

end Subject

/-- A test of the subject of a value, with the message for values that fail it. -/
structure Refinement where
  subject : Subject
  predicate : Predicate
  message : String

namespace Refinement

/-- Whether a value passes. -/
def check (readUrl : String → Option Url) (r : Refinement) (value : String) : Bool :=
  match r.subject.parse? readUrl value with
  | some x => r.predicate.eval x
  | none => true

/-- The chained call that performs the refinement. -/
def toJs (r : Refinement) : String :=
  ".refine((val) => \x7b " ++ r.subject.prelude ++ " return " ++ r.predicate.toJs ++
    "; \x7d, \x7b message: " ++ Text.quote r.message ++ " \x7d)"

section OfFilter

variable {α : Type} (subject : Subject) (message : String) (test : List α → Predicate)

/-- The refinement that the mode of a filter asks for. -/
def forMode? (f : Filter α) : Option Refinement :=
  ((test f.entries).forMode f.mode).map fun p => ⟨subject, p, message⟩

/-- The refinement of a filter that has entries. -/
def ofFilter? (f : Filter α) : Option Refinement :=
  if f.entries.isEmpty then none else forMode? subject message test f

/-- The refinement of a part that has an active filter. -/
def ofPart? (f : Option (Filter α)) : Option Refinement :=
  (f.filter Filter.isActive).bind (forMode? subject message test)

end OfFilter

/-- Membership after a normalization of the entries. -/
def membership (normalize : String → String) (entries : List String) : Predicate :=
  .memberOf (entries.map fun e => .text (normalize e))

/-- An email or host name entry. -/
def normalizeName (entry : String) : String := Text.lower (Text.trim entry)

/-- A scheme entry, whose colons at the end do not count. -/
def normalizeScheme (entry : String) : String :=
  Text.lower
    (String.ofList (Text.dropEndWhile (· == ':') (Text.trimChars entry.toList)))

/-- The ranges of the entries that are ranges; a value is in any of them. -/
def inRanges (entries : List String) : Predicate :=
  .any ((entries.filterMap Ipv4.range?).map fun r => .inRange r.first r.last)

/-- The entries that are no ranges. -/
def skippedRanges (entries : List String) : List String :=
  entries.filter fun e => (Ipv4.range? e).isNone

def ofEmail (domain : Filter String) : Option Refinement :=
  ofFilter? .emailDomain "Email domain is not allowed" (membership normalizeName) domain

/-- One refinement for each part that is filtered: protocol, domain, port, path. -/
def ofUrl (rules : UrlRules) : List Refinement :=
  (ofPart? .urlProtocol "URL protocol is not allowed" (membership normalizeScheme)
      rules.protocol).toList ++
    (ofPart? .urlHostname "URL domain is not allowed" (membership normalizeName)
      rules.domain).toList ++
    (ofPart? .urlPort "URL port is not allowed"
      (fun ports => .memberOf (ports.map fun p => .number p.toNat)) rules.port).toList ++
    (ofPart? .urlPath "URL path is not allowed"
      (fun paths => .any (paths.map fun p => .pathPrefix (Text.trim p))) rules.path).toList

def ofAddress (kind : AddressKind) (range : Filter String) : Option Refinement :=
  match kind with
  | .ipv4 => ofFilter? .ipv4Number "IP address is not in the allowed range" inRanges range
  | .ipv6 =>
    ofFilter? .ipv6 "IP address is not in the allowed range" (membership normalizeName) range
  | .mac =>
    ofFilter? .mac "MAC address is not allowed"
      (membership fun e => normalizeMac (Text.trim e)) range

/-- The refinements of a leaf, in the order in which they are applied. Other leaves than email,
URL and address have none. -/
def ofLeaf : Leaf → List Refinement
  | .email domain => (ofEmail domain).toList
  | .url rules => ofUrl rules
  | .address kind range => (ofAddress kind range).toList
  | _ => []

end Refinement

end SchemaForge
