import SchemaForge.Definition.Basic

/-!
# Encoded bytes

How many characters a number of bytes takes in each encoding, without padding. Counts are 64-bit
and stop at the greatest.
-/

namespace SchemaForge

/-- The greatest 64-bit count. -/
def maxCount : Nat := Nat.pow 2 64 - 1

/-- A count that stops at the greatest. -/
def saturate (n : Nat) : Nat := min n maxCount

namespace Encoding

/-- The ratio of the logarithms of 256 and 36, as the nearest double-precision number. -/
def base36Ratio : Binary64 := ⟨0x3ff8c23246dc0a9f⟩

/-- The number of characters that encode `bytes` bytes. Base 36 has no block size, so its count is
estimated in double precision and rounded up. -/
def encodedLength (e : Encoding) (bytes : UInt64) : Nat :=
  let n := bytes.toNat
  match e with
  | base32 => saturate (saturate (8 * n) + 4) / 5
  | base36 => saturate ((Binary64.ofNat n).mulNonneg base36Ratio).ceilNonneg
  | base64 | base64url => saturate (saturate (4 * n) + 2) / 3
  | hex => saturate (2 * n)

end Encoding

/-- The number of hexadecimal digits of a digest. Names are case-sensitive. -/
def digestLength? (algorithm : String) : Option Nat :=
  [("md5", 32), ("sha1", 40), ("sha128", 32), ("sha224", 56), ("sha256", 64), ("sha384", 96),
    ("sha512", 128), ("sha3-224", 56), ("sha3-256", 64), ("sha3-384", 96),
    ("sha3-512", 128)].lookup algorithm

/-- The number of digits that is taken for an algorithm outside the table. -/
def defaultDigestLength : Nat := 64

end SchemaForge
