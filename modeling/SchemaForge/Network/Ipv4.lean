import SchemaForge.Text.Blank

/-!
# IPv4 addresses and ranges

An address is written as four groups of one to three digits, each at most 255, and counts as a
number below `2 ^ 32`. A range entry is an address, a block `address/bits`, or two addresses
joined by a dash.
-/

namespace SchemaForge.Ipv4

/-- The value of a list of decimal digits. -/
def decimalValue (ds : List Char) : Nat :=
  ds.foldl (fun n d => n * 10 + (d.toNat - 48)) 0

def isDigit (c : Char) : Bool := '0' ≤ c && c ≤ '9'

/-- One group of a dotted quad. -/
def octet? (ds : List Char) : Option Nat :=
  if 0 < ds.length ∧ ds.length ≤ 3 ∧ ds.all isDigit ∧ decimalValue ds ≤ 255 then
    some (decimalValue ds)
  else none

/-- The number of a dotted quad. -/
def addressOfChars? (cs : List Char) : Option Nat :=
  match Text.splitOn '.' cs with
  | [a, b, c, d] => do
    let a ← octet? a
    let b ← octet? b
    let c ← octet? c
    let d ← octet? d
    return ((a * 256 + b) * 256 + c) * 256 + d
  | _ => none

def address? (text : String) : Option Nat := addressOfChars? text.toList

/-- An inclusive range of addresses. -/
structure Range where
  first : Nat
  last : Nat
  deriving DecidableEq

/-- The word whose first `bits` bits are ones. Words are shifted by the count modulo their width, so
that a mask without ones cannot be shifted into place. -/
def mask (bits : Nat) : UInt32 :=
  if bits = 0 then 0 else 0xffffffff <<< UInt32.ofNat (32 - bits)

/-- The block of addresses that agree with `base` in their first `bits` bits. -/
def block (base bits : Nat) : Range :=
  let network := UInt32.ofNat base &&& mask bits
  ⟨network.toNat, (network ||| ~~~mask bits).toNat⟩

/-- What stands behind an optional plus. -/
def withoutPlus : List Char → List Char
  | '+' :: rest => rest
  | other => other

/-- How many leading bits a block fixes: a decimal number up to 32, with an optional plus. -/
def bits? (cs : List Char) : Option Nat :=
  let digits := withoutPlus cs
  if digits ≠ [] ∧ digits.all isDigit ∧ decimalValue digits ≤ 32 then some (decimalValue digits)
  else none

/-- The range of an entry without blanks at its ends. -/
def rangeOfChars? (cs : List Char) : Option Range :=
  match Text.splitFirst '/' cs with
  | some (base, bits) => do
    let bits ← bits? (Text.trimChars bits)
    let base ← addressOfChars? (Text.trimChars base)
    return block base bits
  | none =>
    match Text.splitFirst '-' cs with
    | some (first, last) => do
      let first ← addressOfChars? (Text.trimChars first)
      let last ← addressOfChars? (Text.trimChars last)
      if first ≤ last then return ⟨first, last⟩ else none
    | none => (addressOfChars? cs).map fun a => ⟨a, a⟩

/-- The range of an entry. -/
def range? (entry : String) : Option Range :=
  rangeOfChars? (Text.trimChars entry.toList)

end SchemaForge.Ipv4
