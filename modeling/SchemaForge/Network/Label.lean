import SchemaForge.Network.LabelTable
import SchemaForge.Network.MappingTable
import SchemaForge.Text.Blank
import SchemaForge.Text.Case
import SchemaForge.Text.Normal
import SchemaForge.Text.Punycode

/-!
# Labels of domains

The characters of a domain are first replaced by those they stand for, and the text is composed. A
label with characters outside ASCII is then spelled in ASCII behind the mark `xn--`. Such a label
has to stand for composed text of permitted characters, and its invisible joiners have to matter.
If a domain has characters that run from right to left, the direction of each of its labels has to
be clear.
-/

namespace SchemaForge.Label

open Text (inRanges)

/-! ### Joiners -/

/-- Whether a mark ends a conjunct, so that a joiner may follow. -/
def isVirama (c : Char) : Bool := Text.combiningClass c.toNat = 9

def joinsNext (c : Char) : Bool := inRanges leftJoiningRanges c || inRanges dualJoiningRanges c

def joinsPrevious (c : Char) : Bool :=
  inRanges rightJoiningRanges c || inRanges dualJoiningRanges c

/-- The first character that is not transparent. -/
def firstVisible? (cs : List Char) : Option Char :=
  cs.find? fun c => !inRanges transparentRanges c

/-- Whether every joiner has its place: after a virama, or, if it keeps letters apart, between two
letters that would join. `before` is what precedes, last first. -/
def joinersFit (before : List Char) : List Char → Bool
  | [] => true
  | c :: rest =>
    let afterVirama := before.head?.any isVirama
    let fits :=
      if c = '\u200d' then afterVirama
      else if c = '\u200c' then
        afterVirama ||
          ((firstVisible? before).any joinsNext && (firstVisible? rest).any joinsPrevious)
      else true
    fits && joinersFit (c :: before) rest

/-! ### Direction -/

/-- How a character takes part in the direction of a text. -/
inductive Direction where
  | leftToRight
  | rightToLeft
  | arabicDigit
  | plainDigit
  /-- A mark, which goes with the character before it. -/
  | attached
  | neutral
  deriving DecidableEq

def direction (c : Char) : Direction :=
  if c.toNat < 0x80 then
    if '0' ≤ c && c ≤ '9' then .plainDigit
    else if ('a' ≤ c && c ≤ 'z') || ('A' ≤ c && c ≤ 'Z') then .leftToRight
    else .neutral
  else if inRanges rightToLeftRanges c then .rightToLeft
  else if inRanges arabicDigitRanges c then .arabicDigit
  else if inRanges plainDigitRanges c then .plainDigit
  else if inRanges attachedRanges c then .attached
  else if inRanges neutralRanges c then .neutral
  else .leftToRight

/-- Whether a label has characters that run from right to left. -/
def hasRightToLeft (label : List Char) : Bool :=
  label.any fun c => direction c = .rightToLeft || direction c = .arabicDigit

/-- Whether the direction of a label is clear: its first letter sets it, its last character but
for marks is a letter or digit of it, and letters of the other direction and digits of two kinds
do not occur. -/
def isDirected (label : List Char) : Bool :=
  let ds := label.map direction
  let last := (ds.reverse.dropWhile (· = .attached)).head?
  match ds.head? with
  | none => true
  | some .rightToLeft =>
    !ds.contains .leftToRight &&
      (last = some .rightToLeft || last = some .plainDigit || last = some .arabicDigit) &&
      !(ds.contains .plainDigit && ds.contains .arabicDigit)
  | some .leftToRight =>
    !ds.contains .rightToLeft && !ds.contains .arabicDigit &&
      (last = some .leftToRight || last = some .plainDigit)
  | some _ => false

/-! ### Labels -/

def isAscii (cs : List Char) : Bool := cs.all (·.toNat < 0x80)

/-- The mark of labels that are spelled in ASCII. -/
def mark : List Char := "xn--".toList

/-- Whether a text may be spelled in ASCII as a label. -/
def isPermitted (cs : List Char) : Bool :=
  !isAscii cs && !mark.isPrefixOf cs &&
    cs.all (fun c => c.toNat < 0x80 || inRanges permittedRanges c) &&
    Text.isComposed cs && !cs.head?.any (inRanges markRanges) && joinersFit [] cs

/-- The text that a label stands for. -/
def decode? (label : List Char) : Option (List Char) :=
  match Text.afterFront? mark label with
  | none => if isAscii label || isPermitted label then some label else none
  | some spelling =>
    if isAscii spelling then (Punycode.decode? spelling).filter isPermitted else none

/-- Whether the labels of a domain stand for permitted texts, whose directions are clear if one of
them needs it. -/
def arePermitted (labels : List (List Char)) : Bool :=
  match labels.mapM decode? with
  | none => false
  | some texts => !texts.any hasRightToLeft || texts.all isDirected

/-- A label in ASCII. -/
def spell (label : List Char) : List Char :=
  if isAscii label then label else mark ++ Punycode.encode label

/-! ### Domains -/

/-- The text that a character outside ASCII stands for. -/
def mapped? (c : Char) : Option (List Char) :=
  if inRanges permittedRanges c then some [c]
  else if inRanges ignoredRanges c then some []
  else
    match mappedRuns.findSome? (·.shift? c.toNat) with
    | some n => some [Char.ofNat n]
    | none => do
      let (first, _, texts) ← mappedRows.find? fun (first, last, _) =>
        first ≤ c.toNat && c.toNat ≤ last
      (Text.splitOn ' ' texts.toList)[c.toNat - first]?

/-- The characters a domain stands for, composed. Text in ASCII is composed as it is. -/
def normalize? (domain : List Char) : Option (List Char) :=
  if isAscii domain then some (domain.map Char.toLower)
  else do
    let texts ← domain.mapM fun c => if c.toNat < 0x80 then some [c.toLower] else mapped? c
    return (Text.recompose texts.flatten).map Char.ofNat

/-- A domain in ASCII. -/
def domain? (domain : List Char) : Option (List Char) := do
  let labels := Text.splitOn '.' (← normalize? domain)
  if arePermitted labels then return List.intercalate ['.'] (labels.map spell) else none

end SchemaForge.Label
