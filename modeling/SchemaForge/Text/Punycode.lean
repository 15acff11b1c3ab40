/-!
# Punycode

A spelling of any text in ASCII. The ASCII characters come first; after the last hyphen follow
numbers, each of which says which other character is inserted where. A number is written with
digits of varying weight, the least significant first, and the weights adapt to the numbers before.
-/

namespace SchemaForge.Punycode

/-- The value of a digit: letters stand for 0 to 25 and decimal digits for 26 to 35. -/
def digitValue? (c : Char) : Option Nat :=
  if 'a' ≤ c && c ≤ 'z' then some (c.toNat - 'a'.toNat)
  else if 'A' ≤ c && c ≤ 'Z' then some (c.toNat - 'A'.toNat)
  else if '0' ≤ c && c ≤ '9' then some (c.toNat - '0'.toNat + 26)
  else none

/-- The least value of a digit after which the number goes on. `place` counts from 1. -/
def threshold (bias place : Nat) : Nat :=
  if 36 * place ≤ bias + 1 then 1
  else if bias + 26 ≤ 36 * place then 26
  else 36 * place - bias

/-- Divide by 35 until the result is at most 455, and add 36 for every division. -/
def shrink (fuel delta bias : Nat) : Nat × Nat :=
  match fuel with
  | 0 => (delta, bias)
  | fuel + 1 => if 455 < delta then shrink fuel (delta / 35) (bias + 36) else (delta, bias)

/-- The bias after a number, which was the `count`-th insertion into a text. -/
def adapt (isFirst : Bool) (number count : Nat) : Nat :=
  let halved := if isFirst then number / 700 else number / 2
  let delta := halved + halved / count
  let (delta, bias) := shrink delta delta 0
  bias + 36 * delta / (delta + 38)

/-- The limit for numbers and weights. -/
def limit : Nat := 4294967296

/-- A reader between two digits. -/
structure Reading where
  /-- The text so far. -/
  output : List Char
  /-- The code of the last character inserted. -/
  code : Nat := 128
  /-- Where the next character goes, if the number ends with the digits so far. -/
  position : Nat := 0
  bias : Nat := 72
  /-- The position before the current number. -/
  start : Nat := 0
  weight : Nat := 1
  /-- How many digits of the current number have been read. -/
  places : Nat := 0

namespace Reading

/-- Insert the character that a complete number stands for. -/
def insert? (r : Reading) : Option Reading :=
  let count := r.output.length + 1
  let code := r.code + r.position / count
  let position := r.position % count
  if code.isValidChar then
    some
      { output := r.output.take position ++ Char.ofNat code :: r.output.drop position
        code
        position := position + 1
        start := position + 1
        bias := adapt (r.start = 0) (r.position - r.start) count }
  else none

def step (r : Reading) (c : Char) : Option Reading := do
  let digit ← digitValue? c
  let least := threshold r.bias (r.places + 1)
  let position := r.position + digit * r.weight
  let weight := r.weight * (36 - least)
  if limit ≤ position then none
  else if digit < least then insert? { r with position }
  else if limit ≤ weight then none
  else some { r with position, weight, places := r.places + 1 }

def readAll (r : Reading) : List Char → Option (List Char)
  | [] => if r.places = 0 then some r.output else none
  | c :: rest =>
    match r.step c with
    | some r' => r'.readAll rest
    | none => none

end Reading

/-- The text that a spelling stands for. A hyphen at the beginning divides nothing. -/
def decode? (spelling : List Char) : Option (List Char) :=
  let numbers := (spelling.reverse.takeWhile (· ≠ '-')).reverse
  let plain := spelling.take (spelling.length - numbers.length - 1)
  if plain.isEmpty then Reading.readAll { output := [] } spelling
  else Reading.readAll { output := plain } numbers

/-! ### Writing -/

def digit (n : Nat) : Char := if n < 26 then Char.ofNat (97 + n) else Char.ofNat (22 + n)

theorem threshold_pos (bias place : Nat) : 0 < threshold bias place := by
  unfold threshold
  split
  · decide
  · split
    · decide
    · omega

/-- The digits of a number from a place on. -/
def digits (bias place n : Nat) : List Char :=
  let least := threshold bias place
  if n < least then [digit n]
  else
    digit (least + (n - least) % (36 - least)) ::
      digits bias (place + 1) ((n - least) / (36 - least))
termination_by n
decreasing_by
  have positive := threshold_pos bias place
  calc (n - threshold bias place) / (36 - threshold bias place)
      ≤ n - threshold bias place := Nat.div_le_self _ _
    _ < n := by omega

/-- A writer between two characters of a text. -/
structure Writing where
  output : List Char := []
  /-- How many characters of the text are spelled. -/
  count : Nat
  code : Nat := 128
  /-- How far the last insertion is behind. -/
  distance : Nat := 0
  bias : Nat := 72

namespace Writing

/-- Pass a character: go on if it is in place, and insert it if it is the next one to insert. -/
def pass (w : Writing) (c : Char) : Writing :=
  if c.toNat < w.code then { w with distance := w.distance + 1 }
  else if c.toNat = w.code then
    { w with
      output := w.output ++ digits w.bias 1 w.distance
      count := w.count + 1
      distance := 0
      bias := adapt w.output.isEmpty w.distance (w.count + 1) }
  else w

/-- Insert a character wherever the text has it. -/
def insertAll (text : List Char) (w : Writing) (code : Nat) : Writing :=
  let start := { w with code, distance := w.distance + (code - w.code) * (w.count + 1) }
  let done := text.foldl pass start
  { done with code := code + 1, distance := done.distance + 1 }

end Writing

/-- The spelling of a text. -/
def encode (text : List Char) : List Char :=
  let (plain, others) := text.partition (·.toNat < 0x80)
  let codes := (others.map Char.toNat).mergeSort.eraseDups
  let numbers := (codes.foldl (Writing.insertAll text) { count := plain.length }).output
  if plain.isEmpty then numbers else plain ++ '-' :: numbers

end SchemaForge.Punycode
