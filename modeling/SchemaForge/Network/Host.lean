import SchemaForge.Network.Ipv4
import SchemaForge.Network.Label
import SchemaForge.Text.Quoted

/-!
# Hosts of URLs

A host of a web address is an IPv6 address in brackets, an IPv4 address in one of its numeric
spellings, or a domain; elsewhere it is opaque. Each has one canonical text, in ASCII.
-/

namespace SchemaForge.Host

/-- The value of a digit in a radix up to sixteen. -/
def digitValue? (radix : Nat) (c : Char) : Option Nat :=
  (Text.hexValue? c).filter (· < radix)

/-- The value of a list of digits in a radix. -/
def radixValue? (radix : Nat) (ds : List Char) : Option Nat :=
  ds.foldl
    (fun acc d =>
      match acc, digitValue? radix d with
      | some n, some v => some (n * radix + v)
      | _, _ => none)
    (some 0)

/-! ## Percent encoding -/

/-- The bytes of a character. -/
def utf8 (c : Char) : List UInt8 := (String.singleton c).toUTF8.toList

def upperHex (n : Nat) : Char :=
  if n < 10 then Char.ofNat (48 + n) else Char.ofNat (55 + n)

/-- A character in which every byte is written as a percent sign and two digits. -/
def percent (c : Char) : List Char :=
  (utf8 c).flatMap fun b => ['%', upperHex (b.toNat / 16), upperHex (b.toNat % 16)]

/-- Encode the members of a class. -/
def percentEncode (p : Char → Bool) (cs : List Char) : List Char :=
  cs.flatMap fun c => if p c then percent c else [c]

/-- Controls and everything outside ASCII. -/
def isControl (c : Char) : Bool := c.toNat < 0x20 || 0x7e < c.toNat

/-- Replace percent sequences by their bytes. A percent sign without two digits stands for
itself. -/
def percentDecode : List Char → List UInt8
  | '%' :: a :: b :: rest =>
    match digitValue? 16 a, digitValue? 16 b with
    | some x, some y => UInt8.ofNat (x * 16 + y) :: percentDecode rest
    | _, _ => utf8 '%' ++ percentDecode (a :: b :: rest)
  | c :: rest => utf8 c ++ percentDecode rest
  | [] => []

/-! ## IPv4 -/

/-- A number in decimal, in octal after `0`, or in hexadecimal after `0x`. -/
def number? (ds : List Char) : Option Nat :=
  match ds with
  | [] => none
  | '0' :: 'x' :: rest => radixValue? 16 rest
  | '0' :: 'X' :: rest => radixValue? 16 rest
  | '0' :: d :: rest => radixValue? 8 (d :: rest)
  | ds => radixValue? 10 ds

/-- The groups of a domain without the empty one after a final dot. -/
def groups (cs : List Char) : List (List Char) :=
  let parts := Text.splitOn '.' cs
  match parts.getLast? with
  | some [] => if 1 < parts.length then parts.dropLast else parts
  | _ => parts

/-- Whether the last group of a domain is a number, so that the host must be an IPv4 address. -/
def endsInNumber (cs : List Char) : Bool :=
  match Text.splitOn '.' cs with
  | [[]] => false
  | _ =>
    match (groups cs).getLast? with
    | some [] => false
    | some ds => ds.all Ipv4.isDigit || (number? ds).isSome
    | none => false

/-- The number of an address whose last group may span several bytes. -/
def ipv4Value? (cs : List Char) : Option Nat := do
  let numbers ← (groups cs).mapM number?
  let last ← numbers.getLast?
  let leading := numbers.dropLast
  let limit := Nat.pow 256 (5 - numbers.length)
  if 4 < numbers.length ∨ leading.any (255 < ·) ∨ limit ≤ last then none
  else
    let weighted := leading.zipIdx.map fun (n, i) => n * Nat.pow 256 (3 - i)
    return weighted.foldl (fun total n => total + n) last

/-- A dotted quad. -/
def dottedQuad (n : Nat) : List Char :=
  let group (k : Nat) := Nat.toDigits 10 (n / Nat.pow 256 k % 256)
  group 3 ++ '.' :: group 2 ++ '.' :: group 1 ++ '.' :: group 0

/-! ## IPv6 -/

/-- One to four hexadecimal digits. -/
def piece? (ds : List Char) : Option Nat :=
  if 0 < ds.length ∧ ds.length ≤ 4 then radixValue? 16 ds else none

/-- A group of an embedded IPv4 address: no leading zeros, at most 255. -/
def plainOctet? (ds : List Char) : Option Nat :=
  match ds with
  | [] => none
  | '0' :: _ :: _ => none
  | ds =>
    if ds.all Ipv4.isDigit ∧ Ipv4.decimalValue ds ≤ 255 then some (Ipv4.decimalValue ds) else none

/-- The two pieces of an embedded IPv4 address. -/
def embedded? (cs : List Char) : Option (List Nat) :=
  match Text.splitOn '.' cs with
  | [a, b, c, d] => do
    let a ← plainOctet? a
    let b ← plainOctet? b
    let c ← plainOctet? c
    let d ← plainOctet? d
    return [a * 256 + b, c * 256 + d]
  | _ => none

/-- The pieces of colon-separated groups, of which the last may be an IPv4 address. -/
def pieces? (mayEmbed : Bool) : List (List Char) → Option (List Nat)
  | [] => some []
  | [last] =>
    if mayEmbed && last.contains '.' then embedded? last else (piece? last).map ([·])
  | g :: rest => do
    let p ← piece? g
    let ps ← pieces? mayEmbed rest
    return p :: ps

/-- The two sides of the first double colon. -/
def splitDouble : List Char → Option (List Char × List Char)
  | ':' :: ':' :: rest => some ([], rest)
  | c :: rest => (splitDouble rest).map fun (a, b) => (c :: a, b)
  | [] => none

/-- The eight pieces of an IPv6 address. A double colon stands for one or more zero pieces. -/
def ipv6? (cs : List Char) : Option (List Nat) :=
  let side (mayEmbed : Bool) (part : List Char) : Option (List Nat) :=
    if part.isEmpty then some [] else pieces? mayEmbed (Text.splitOn ':' part)
  match splitDouble cs with
  | none => do
    let ps ← pieces? true (Text.splitOn ':' cs)
    if ps.length = 8 then return ps else none
  | some (left, right) => do
    let l ← side false left
    let r ← side true right
    if l.length + r.length ≤ 7 then
      return l ++ List.replicate (8 - l.length - r.length) 0 ++ r
    else none

/-- The length of the run of zeros at the start. -/
def zeroRun (ps : List Nat) : Nat := (ps.takeWhile (· == 0)).length

/-- The start and length of the first longest run of zeros. -/
def longestZeroRun (ps : List Nat) : Nat × Nat :=
  (List.range ps.length).foldl
    (fun (start, length) i =>
      let here := zeroRun (ps.drop i)
      if length < here then (i, here) else (start, length))
    (0, 0)

def joinPieces (ps : List Nat) : List Char :=
  List.intercalate [':'] (ps.map fun p => Nat.toDigits 16 p)

/-- The canonical text of an IPv6 address, with its longest run of zeros left out if that run has
two pieces or more. -/
def ipv6Text (ps : List Nat) : List Char :=
  let (start, length) := longestZeroRun ps
  if length < 2 then joinPieces ps
  else joinPieces (ps.take start) ++ [':', ':'] ++ joinPieces (ps.drop (start + length))

/-! ## Hosts -/

/-- Characters that no host may have. -/
def isForbidden (c : Char) : Bool :=
  c.toNat == 0 || "\t\n\r #/:<>?@[\\]^|".toList.contains c

/-- Characters that no domain may have. -/
def isForbiddenInDomain (c : Char) : Bool :=
  isForbidden c || isControl c || c = '%'

/-- The canonical text of a domain or of an IPv4 address. -/
def domain? (cs : List Char) : Option (List Char) := do
  let decoded ← String.fromUTF8? (percentDecode cs).toByteArray
  let name ← Label.domain? decoded.toList
  if name.isEmpty ∨ name.any isForbiddenInDomain then none
  else if endsInNumber name then (ipv4Value? name).map dottedQuad
  else some name

/-- The canonical text of a host; `web` tells whether domains are understood. -/
def canonical? (web : Bool) (cs : List Char) : Option (List Char) :=
  match cs with
  | '[' :: rest =>
    match rest.getLast? with
    | some ']' => (ipv6? rest.dropLast).map fun ps => '[' :: (ipv6Text ps ++ [']'])
    | _ => none
  | cs =>
    if web then domain? cs
    else if cs.any isForbidden then none
    else some (percentEncode isControl cs)

end SchemaForge.Host
