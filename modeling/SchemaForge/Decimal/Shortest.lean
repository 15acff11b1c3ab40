import SchemaForge.Decimal.Binary64

/-!
# Shortest decimal digits

The decimal of fewest digits that rounds back to a given binary number, and of those the one
nearest to it. When two are equally near, a parameter decides.
-/

namespace SchemaForge

/-- Which of two equally near decimals is taken. -/
inductive Tie where
  | up
  | toEven
  deriving DecidableEq

/-- The decimal number `digits * 10 ^ exponent`. -/
structure Decimal where
  digits : Nat
  exponent : Int
  deriving DecidableEq

namespace Decimal

/-- How many decimal digits a natural number has; zero has none. -/
def digitCount (n : Nat) : Nat :=
  if n = 0 then 0 else digitCount (n / 10) + 1

/-- The exponent of the leading digit of the quotient `num / den` of positive numbers. -/
def leadingExponent (num den : Nat) : Int :=
  if den ≤ num then (digitCount (num / den) : Int) - 1
  else -(digitCount ((den - 1) / num) : Int)

/-- Remove the zeros at the end of the digits, raising the exponent. -/
def strip (d : Decimal) : Decimal :=
  if d.digits ≠ 0 ∧ d.digits % 10 = 0 then strip ⟨d.digits / 10, d.exponent + 1⟩ else d
termination_by d.digits
decreasing_by omega

/-- The exponent of the leading digit. -/
def leading (d : Decimal) : Int := d.exponent + digitCount d.digits - 1

/-- The reals that round to a number, as fractions over one denominator, which is `4 * 2 ^ 1074`
here: the ends, the number itself, and whether the ends belong. -/
structure Interval where
  low : Nat
  value : Nat
  high : Nat
  den : Nat
  closed : Bool

/-- The rounding interval of a positive finite number. -/
def Interval.of (x : Binary64) : Interval :=
  let m := x.significand
  let unit := Nat.pow 2 x.scale
  let below := if x.isPowerBoundary then 1 else 2
  { low := (4 * m - below) * unit
    value := 4 * m * unit
    high := (4 * m + 2) * unit
    den := 4 * Nat.pow 2 1074
    closed := m % 2 == 0 }

/-- Whether the fraction `num / den` lies in the interval. -/
def Interval.contains (i : Interval) (num den : Nat) : Bool :=
  let n := num * i.den
  if i.closed then i.low * den ≤ n && n ≤ i.high * den
  else i.low * den < n && n < i.high * den

/-- The neighbour of the value on the grid of multiples of `10 ^ e` that lies in the interval; the
nearer one if both do. -/
def Interval.onGrid? (i : Interval) (tie : Tie) (e : Int) : Option Decimal :=
  let up := Nat.pow 10 e.toNat
  let down := Nat.pow 10 (-e).toNat
  -- The grid step is `up / down`.
  let n := i.value * down / (i.den * up)
  let lower := i.contains (n * up) down
  let upper := i.contains ((n + 1) * up) down
  match lower, upper with
  | false, false => none
  | true, false => some ⟨n, e⟩
  | false, true => some ⟨n + 1, e⟩
  | true, true =>
    -- Twice the value against the middle `2 n + 1`, both in grid steps.
    let twice := 2 * i.value * down
    let middle := (2 * n + 1) * (i.den * up)
    if twice < middle then some ⟨n, e⟩
    else if middle < twice then some ⟨n + 1, e⟩
    else
      match tie with
      | .up => some ⟨n + 1, e⟩
      | .toEven => some ⟨if n % 2 = 0 then n else n + 1, e⟩

/-- The first of the grids `10 ^ e`, `10 ^ (e - 1)`, … that has a decimal in the interval. -/
def Interval.search (i : Interval) (tie : Tie) (e : Int) : Nat → Decimal
  | 0 => ⟨i.value / i.den, 0⟩
  | count + 1 =>
    match i.onGrid? tie e with
    | some d => d
    | none => i.search tie (e - 1) count

/-- The shortest decimal of a positive finite number. Seventeen digits always suffice. -/
def shortest (tie : Tie) (x : Binary64) : Decimal :=
  let i := Interval.of x
  (i.search tie (leadingExponent i.value i.den) 17).strip

end Decimal

end SchemaForge
