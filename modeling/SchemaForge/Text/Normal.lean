import SchemaForge.Text.CaseTable
import SchemaForge.Text.NormalTable

/-!
# Composed text

A text is composed if no character in it can be joined with a mark after it to a character of its
own, and if the marks after a character are in the order of their classes. Whether a text is
composed is decided by taking it apart and composing it again.
-/

namespace SchemaForge.Text

/-! ### Korean syllables -/

/-- The two parts of a syllable: an open syllable and its final consonant, or the initial
consonant and the vowel of an open one. -/
def syllableParts? (n : Nat) : Option (Nat × Nat) :=
  if 0xac00 ≤ n && n ≤ 0xd7a3 then
    let index := n - 0xac00
    if index % 28 = 0 then some (0x1100 + index / 588, 0x1161 + index % 588 / 28)
    else some (n - index % 28, 0x11a7 + index % 28)
  else none

/-- The syllable of two parts. -/
def syllable? (a b : Nat) : Option Nat :=
  if 0x1100 ≤ a && a ≤ 0x1112 && 0x1161 ≤ b && b ≤ 0x1175 then
    some (0xac00 + (a - 0x1100) * 588 + (b - 0x1161) * 28)
  else if 0xac00 ≤ a && a ≤ 0xd7a3 && (a - 0xac00) % 28 = 0 && 0x11a8 ≤ b && b ≤ 0x11c2 then
    some (a + (b - 0x11a7))
  else none

/-! ### Composing -/

/-- The two parts of a composite. -/
def parts? (n : Nat) : Option (Nat × Nat) :=
  match syllableParts? n with
  | some parts => some parts
  | none => (composites.find? fun (c, _, _) => c == n).map fun (_, a, b) => (a, b)

/-- The composite of two parts. -/
def composite? (a b : Nat) : Option Nat :=
  match syllable? a b with
  | some c => some c
  | none => (composites.find? fun (_, x, y) => x == a && y == b).map fun (c, _, _) => c

/-- The class of a mark; other characters have class zero. -/
def combiningClass (n : Nat) : Nat :=
  ((combiningClasses.find? fun (first, last, _) => first ≤ n && n ≤ last).map
    fun (_, _, k) => k).getD 0

/-- Take a character apart; `layers` bounds how often its first part is taken apart again. -/
def decompose (layers n : Nat) : List Nat :=
  match layers with
  | 0 => [n]
  | layers + 1 =>
    match parts? n with
    | some (a, b) => decompose layers a ++ [b]
    | none => [n]

/-- Move a mark behind the marks of lower classes. -/
def insertMark (n : Nat) : List Nat → List Nat
  | [] => [n]
  | m :: rest =>
    if combiningClass m ≠ 0 && combiningClass m < combiningClass n then m :: insertMark n rest
    else n :: m :: rest

/-- Compose a character with what follows. A mark is joined with the character unless a mark
before it that was not joined, of which `kept` has the last first, has the same class or a higher
one. -/
def composeFrom (n : Nat) (kept : List Nat) : List Nat → List Nat
  | [] => n :: kept.reverse
  | m :: rest =>
    let k := combiningClass m
    let joined :=
      match kept with
      | [] => composite? n m
      | last :: _ => if combiningClass last < k then composite? n m else none
    match joined with
    | some c => composeFrom c kept rest
    | none =>
      if k = 0 then n :: (kept.reverse ++ composeFrom m [] rest) else composeFrom n (m :: kept) rest

/-- A text taken apart, with its marks in order, and composed again. No composite has more than
three layers. -/
def recompose (cs : List Char) : List Nat :=
  match (cs.flatMap fun c => decompose 3 c.toNat).foldr insertMark [] with
  | [] => []
  | n :: rest => composeFrom n [] rest

/-- Whether a text is composed. -/
def isComposed (cs : List Char) : Bool :=
  cs.all (fun c => !inRanges neverComposedRanges c) && recompose cs == cs.map Char.toNat

end SchemaForge.Text
