/-!
# Binary floating-point numbers of 64 bits

A number is its bit pattern, so equality is exact and every operation is arithmetic on natural
numbers. A finite number is `± significand * 2 ^ scale / 2 ^ 1074`. The main operation is
`magnitudeOfRatio`, which rounds a quotient to the nearest pattern, a half going to the even one.
-/

namespace SchemaForge

/-- A double-precision number, given by its bit pattern. -/
structure Binary64 where
  bits : UInt64
  deriving DecidableEq, Inhabited

namespace Binary64

/-- Weight of the sign bit. -/
def signWeight : Nat := Nat.pow 2 63

/-- The pattern of positive infinity, the first magnitude that is no number. -/
def infinityMagnitude : Nat := 0x7ff0000000000000

/-- Whether the sign bit is set. -/
def isNegative (x : Binary64) : Bool := signWeight ≤ x.bits.toNat

/-- The pattern without its sign bit. Magnitudes are ordered as the absolute values are. -/
def magnitude (x : Binary64) : Nat := x.bits.toNat % signWeight

def isFinite (x : Binary64) : Bool := x.magnitude < infinityMagnitude

def isNaN (x : Binary64) : Bool := infinityMagnitude < x.magnitude

/-- Both zeros. -/
def isZero (x : Binary64) : Bool := x.magnitude == 0

/-- The number with the given sign and magnitude. -/
def ofMagnitude (negative : Bool) (m : Nat) : Binary64 :=
  ⟨UInt64.ofNat (if negative then signWeight + m else m)⟩

/-- Field of the biased exponent. -/
def exponentField (x : Binary64) : Nat := x.magnitude / Nat.pow 2 52

/-- The integer factor of a finite number. -/
def significand (x : Binary64) : Nat :=
  let fraction := x.magnitude % Nat.pow 2 52
  if x.exponentField = 0 then fraction else Nat.pow 2 52 + fraction

/-- A finite number is `± significand * 2 ^ scale / 2 ^ 1074`. -/
def scale (x : Binary64) : Nat := x.exponentField - 1

/-- Whether the number below in magnitude is only half as far away as the one above. -/
def isPowerBoundary (x : Binary64) : Bool :=
  x.magnitude % Nat.pow 2 52 == 0 && 1 < x.exponentField

/-- Round `num / den` to a magnitude, a half to the even one. Quotients too large give
`infinityMagnitude`. The scale is chosen so that the rounded quotient has 53 bits, or fewer at the
smallest scale. -/
def magnitudeOfRatio (num den : Nat) : Nat :=
  if num = 0 ∨ den = 0 then 0
  else
    -- With `1074` added throughout, the quotient is `num * 2 ^ 1074 / den` units at scale zero.
    let top := num * Nat.pow 2 1074
    let rough := top.log2 - den.log2 - 53
    let scale := if top / (den * Nat.pow 2 rough) < Nat.pow 2 53 then rough else rough + 1
    let unit := den * Nat.pow 2 scale
    let q := top / unit
    let r := top % unit
    let rounded := if unit < 2 * r ∨ (2 * r = unit ∧ q % 2 = 1) then q + 1 else q
    min (scale * Nat.pow 2 52 + rounded) infinityMagnitude

/-- The number nearest to a natural number. -/
def ofNat (n : Nat) : Binary64 := ofMagnitude false (magnitudeOfRatio n 1)

/-- The number nearest to an integer. -/
def ofInt (n : Int) : Binary64 := ofMagnitude (n < 0) (magnitudeOfRatio n.natAbs 1)

/-- The magnitude nearest to `digits * 10 ^ exponent`. Exponents far outside the range of the
format are decided without building the power. -/
def magnitudeOfDecimal (digits : Nat) (exponent : Int) : Nat :=
  if digits = 0 then 0
  else if 0 ≤ exponent then
    if 400 < exponent then infinityMagnitude
    else magnitudeOfRatio (digits * Nat.pow 10 exponent.toNat) 1
  else if exponent + (digits.log2 : Int) < -1200 then 0
  else magnitudeOfRatio digits (Nat.pow 10 (-exponent).toNat)

/-- The rounded product of two non-negative finite numbers. -/
def mulNonneg (x y : Binary64) : Binary64 :=
  ofMagnitude false
    (magnitudeOfRatio (x.significand * y.significand * Nat.pow 2 (x.scale + y.scale))
      (Nat.pow 2 2148))

/-- The least natural number that is not below a non-negative finite number. -/
def ceilNonneg (x : Binary64) : Nat :=
  (x.significand * Nat.pow 2 x.scale + (Nat.pow 2 1074 - 1)) / Nat.pow 2 1074

end Binary64

end SchemaForge
