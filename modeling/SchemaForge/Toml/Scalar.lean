import SchemaForge.Decimal.Binary64
import SchemaForge.Text.Blank
import SchemaForge.Toml.Basic

/-!
# TOML texts, numbers and times

Readers of the values without parts. Each takes the characters that follow and gives the value
with the characters after it.
-/

namespace SchemaForge.Toml

/-- A space or a tab. -/
def isSpace (c : Char) : Bool := c = ' ' || c = '\t'

/-- A character that may stand in a comment or a text: no control character but the tab. -/
def isPrintable (c : Char) : Bool := c = '\t' || (' ' ≤ c && c ≠ '\x7f')

def digitValue? (c : Char) : Option Nat :=
  if '0' ≤ c && c ≤ '9' then some (c.toNat - '0'.toNat)
  else if 'a' ≤ c && c ≤ 'f' then some (c.toNat - 'a'.toNat + 10)
  else if 'A' ≤ c && c ≤ 'F' then some (c.toNat - 'A'.toNat + 10)
  else none

/-- Whether a character is a digit of a base. -/
def isDigitOf (base : Nat) (c : Char) : Bool := (digitValue? c).any (· < base)

def numberOf (base : Nat) (ds : List Char) : Nat :=
  ds.foldl (fun n c => base * n + (digitValue? c).getD 0) 0

/-- The character with a hexadecimal code, which must not be a surrogate. -/
def charOf? (ds : List Char) : Option Char :=
  let n := numberOf 16 ds
  if ds.all (isDigitOf 16) && n.isValidChar then some (Char.ofNat n) else none

/-- The character of a one-letter escape. -/
def escaped? (c : Char) : Option Char :=
  [('b', '\x08'), ('t', '\t'), ('n', '\n'), ('f', '\x0c'), ('r', '\r'), ('e', '\x1b'),
    ('"', '"'), ('\\', '\\')].lookup c

/-- What a text and the characters after it become with a character in front of the text. -/
def prepend (c : Char) (r : List Char × List Char) : List Char × List Char := (c :: r.1, r.2)

/-- A text in double quotes, after the first quote. -/
def basicText : List Char → Option (List Char × List Char)
  | '\\' :: 'x' :: a :: b :: rest => do
    let x ← charOf? [a, b]
    return prepend x (← basicText rest)
  | '\\' :: 'u' :: a :: b :: c :: d :: rest => do
    let x ← charOf? [a, b, c, d]
    return prepend x (← basicText rest)
  | '\\' :: 'U' :: a :: b :: c :: d :: e :: f :: g :: h :: rest => do
    let x ← charOf? [a, b, c, d, e, f, g, h]
    return prepend x (← basicText rest)
  | '\\' :: c :: rest => do
    let x ← escaped? c
    return prepend x (← basicText rest)
  | c :: rest =>
    if c = '"' then some ([], rest)
    else if c = '\\' || !isPrintable c then none
    else (basicText rest).map (prepend c)
  | [] => none

/-- Whether only spaces are left of a line. -/
def atLineEnd (cs : List Char) : Bool :=
  match cs.dropWhile isSpace with
  | '\n' :: _ => true
  | '\r' :: '\n' :: _ => true
  | _ => false

/-- A text in triple double quotes, after the first quotes. `trim` says that blanks and line ends
are dropped, as they are after a backslash at the end of a line. -/
def longBasicText (trim : Bool) : List Char → Option (List Char × List Char)
  | '"' :: '"' :: '"' :: '"' :: '"' :: rest => some (['"', '"'], rest)
  | '"' :: '"' :: '"' :: '"' :: rest => some (['"'], rest)
  | '"' :: '"' :: '"' :: rest => some ([], rest)
  | '\r' :: '\n' :: rest =>
    if trim then longBasicText true rest
    else (longBasicText false rest).map fun r => prepend '\r' (prepend '\n' r)
  | '\\' :: 'x' :: a :: b :: rest => do
    let x ← charOf? [a, b]
    return prepend x (← longBasicText false rest)
  | '\\' :: 'u' :: a :: b :: c :: d :: rest => do
    let x ← charOf? [a, b, c, d]
    return prepend x (← longBasicText false rest)
  | '\\' :: 'U' :: a :: b :: c :: d :: e :: f :: g :: h :: rest => do
    let x ← charOf? [a, b, c, d, e, f, g, h]
    return prepend x (← longBasicText false rest)
  | '\\' :: c :: rest =>
    if atLineEnd (c :: rest) then longBasicText true (c :: rest)
    else do
      let x ← escaped? c
      return prepend x (← longBasicText false rest)
  | c :: rest =>
    if trim && (isSpace c || c = '\n') then longBasicText true rest
    else if c = '\n' || (c ≠ '\\' && isPrintable c) then
      (longBasicText false rest).map (prepend c)
    else none
  | [] => none

/-- A text in single quotes, after the first quote. -/
def literalText : List Char → Option (List Char × List Char)
  | c :: rest =>
    if c = '\'' then some ([], rest)
    else if isPrintable c then (literalText rest).map (prepend c)
    else none
  | [] => none

/-- A text in triple single quotes, after the first quotes. -/
def longLiteralText : List Char → Option (List Char × List Char)
  | '\'' :: '\'' :: '\'' :: '\'' :: '\'' :: rest => some (['\'', '\''], rest)
  | '\'' :: '\'' :: '\'' :: '\'' :: rest => some (['\''], rest)
  | '\'' :: '\'' :: '\'' :: rest => some ([], rest)
  | '\r' :: '\n' :: rest =>
    (longLiteralText rest).map fun r => prepend '\r' (prepend '\n' r)
  | c :: rest =>
    if c = '\n' || isPrintable c then (longLiteralText rest).map (prepend c) else none
  | [] => none

/-- A line end right after the quotes of a long text does not count. -/
def dropFirstNewline : List Char → List Char
  | '\n' :: rest => rest
  | '\r' :: '\n' :: rest => rest
  | cs => cs

/-- A text in any of the four forms, with its quotes. -/
def quotedText : List Char → Option (List Char × List Char)
  | '"' :: '"' :: '"' :: rest => longBasicText false (dropFirstNewline rest)
  | '"' :: rest => basicText rest
  | '\'' :: '\'' :: '\'' :: rest => longLiteralText (dropFirstNewline rest)
  | '\'' :: rest => literalText rest
  | _ => none

/-! ### Numbers -/

/-- The digits of a number without the underscores, which have to stand between digits. -/
def plainDigits? (base : Nat) : List Char → Option (List Char)
  | [] => none
  | [c] => if isDigitOf base c then some [c] else none
  | c :: '_' :: rest =>
    if isDigitOf base c then (plainDigits? base rest).map (c :: ·) else none
  | c :: rest => if isDigitOf base c then (plainDigits? base rest).map (c :: ·) else none

/-- Decimal digits without a leading zero. -/
def wholeDigits? (cs : List Char) : Option (List Char) :=
  (plainDigits? 10 cs).filter fun ds => ds.length = 1 || ds.head? ≠ some '0'

def splitSign (cs : List Char) : Bool × List Char :=
  match cs with
  | '+' :: rest => (false, rest)
  | '-' :: rest => (true, rest)
  | _ => (false, cs)

/-- The number of an integer text, unless it takes more than 128 bits. -/
def integer? (cs : List Char) : Option Nat :=
  match cs with
  | '0' :: 'x' :: ds => inBase 16 ds
  | '0' :: 'o' :: ds => inBase 8 ds
  | '0' :: 'b' :: ds => inBase 2 ds
  | _ =>
    let (negative, cs) := splitSign cs
    ((wholeDigits? cs).map (numberOf 10)).filter fun n =>
      n < Nat.pow 2 128 && (!negative || n ≤ Nat.pow 2 127)
where
  inBase (base : Nat) (ds : List Char) : Option Nat :=
    ((plainDigits? base ds).map (numberOf base)).filter (· < Nat.pow 2 128)

/-- Whether decimal digits with an exponent are below infinity. -/
def isInRange (digits : List Char) (exponent : Int) : Bool :=
  Binary64.magnitudeOfDecimal (numberOf 10 digits) exponent < Binary64.infinityMagnitude

/-- The exponent of a number, from what follows its mark. -/
def exponent? (cs : List Char) : Option Int :=
  let (negative, cs) := splitSign cs
  (plainDigits? 10 cs).map fun ds =>
    if negative then -(numberOf 10 ds : Int) else (numberOf 10 ds : Int)

/-- Whether a text is a number with a fraction or an exponent. -/
def isReal (cs : List Char) : Bool :=
  let (_, cs) := splitSign cs
  let isMark (c : Char) : Bool := c = 'e' || c = 'E'
  let mantissa := cs.takeWhile fun c => !isMark c
  let whole := mantissa.takeWhile (· ≠ '.')
  let exponent :=
    match cs.dropWhile fun c => !isMark c with
    | [] => some 0
    | _ :: rest => exponent? rest
  let fraction :=
    match mantissa.dropWhile (· ≠ '.') with
    | [] => if mantissa.length = cs.length then none else some []
    | _ :: rest => plainDigits? 10 rest
  match wholeDigits? whole, fraction, exponent with
  | some a, some b, some e => isInRange (a ++ b) (e - b.length)
  | _, _, _ => cs = "inf".toList || cs = "nan".toList

/-! ### Times -/

/-- A number of two digits within bounds, and what follows it. -/
def twoDigits? (least greatest : Nat) : List Char → Option (Nat × List Char)
  | a :: b :: rest =>
    let n := numberOf 10 [a, b]
    if isDigitOf 10 a && isDigitOf 10 b && least ≤ n && n ≤ greatest then some (n, rest) else none
  | _ => none

def isLeapYear (y : Nat) : Bool := (y % 4 = 0 && y % 100 ≠ 0) || y % 400 = 0

def daysOf (year month : Nat) : Nat :=
  if month = 2 then if isLeapYear year then 29 else 28
  else if month ∈ [4, 6, 9, 11] then 30
  else 31

/-- What follows a date. -/
def afterDate? : List Char → Option (List Char)
  | a :: b :: c :: d :: '-' :: rest =>
    if [a, b, c, d].all (isDigitOf 10) then
      match twoDigits? 1 12 rest with
      | some (month, '-' :: rest) =>
        (twoDigits? 1 (daysOf (numberOf 10 [a, b, c, d]) month) rest).map Prod.snd
      | _ => none
    else none
  | _ => none

/-- What follows a time of day, which may go without its seconds. -/
def afterClock? (cs : List Char) : Option (List Char) :=
  match twoDigits? 0 23 cs with
  | some (_, ':' :: rest) =>
    match twoDigits? 0 59 rest with
    | some (_, ':' :: rest) =>
      match twoDigits? 0 60 rest with
      | some (_, '.' :: rest) =>
        if (rest.head?).any (isDigitOf 10) then some (rest.dropWhile (isDigitOf 10)) else none
      | some (_, rest) => some rest
      | none => none
    | some (_, rest) => some rest
    | none => none
  | _ => none

/-- Whether a text is the offset of a time zone. -/
def isOffset (cs : List Char) : Bool :=
  match cs with
  | [c] => c = 'Z' || c = 'z'
  | c :: rest =>
    (c = '+' || c = '-') &&
      match twoDigits? 0 23 rest with
      | some (_, ':' :: rest) => (twoDigits? 0 59 rest).any fun (_, rest) => rest.isEmpty
      | _ => false
  | [] => false

/-- Whether a text is a date, a time of day, or both, possibly with an offset. -/
def isTime (cs : List Char) : Bool :=
  match afterDate? cs with
  | some [] => true
  | some (c :: rest) =>
    (c = 'T' || c = 't' || c = ' ') &&
      (afterClock? rest).any fun zone => zone.isEmpty || isOffset zone
  | none => afterClock? cs = some []

/-! ### Values without quotes -/

def isBare (c : Char) : Bool :=
  ('0' ≤ c && c ≤ '9') || ('a' ≤ c && c ≤ 'z') || ('A' ≤ c && c ≤ 'Z') || c = '+' || c = '-' ||
    c = '_' || c = '.' || c = ':'

/-- The characters of a value without quotes. A space may stand between a date and a time. -/
def bareText (cs : List Char) : List Char :=
  let first := cs.takeWhile isBare
  if afterDate? first = some [] then
    match cs.drop first.length with
    | ' ' :: d :: rest =>
      if isDigitOf 10 d then first ++ ' ' :: (d :: rest).takeWhile isBare else first
    | _ => first
  else first

/-- The value of a text without quotes. -/
def bareValue? (cs : List Char) : Option Toml :=
  if cs = "true".toList then some (.bool true)
  else if cs = "false".toList then some (.bool false)
  else if (integer? cs).isSome || isReal cs then some .number
  else if isTime cs then some .time
  else none

end SchemaForge.Toml
