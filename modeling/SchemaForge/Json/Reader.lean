import SchemaForge.Json.Basic
import SchemaForge.Text.Quoted

/-!
# Reading JSON

A strict reader, fed one character at a time. Its state holds the containers that are still open
and what may come next, so a text is read by one pass over its characters. The first character
that cannot continue a JSON text decides the failure, which carries its line and column.
-/

namespace SchemaForge.Json

/-- Why a text is not JSON. -/
inductive Cause where
  | endInList
  | endInObject
  | endInString
  | endInValue
  | expectedColon
  | expectedListComma
  | expectedObjectComma
  | expectedWord
  | expectedValue
  | invalidEscape
  | invalidNumber
  | numberOutOfRange
  | controlCharacter
  | keyNotString
  | loneSurrogate
  | trailingComma
  | trailingCharacters
  | endOfHexEscape
  | tooDeep
  deriving DecidableEq

def Cause.message : Cause → String
  | endInList => "EOF while parsing a list"
  | endInObject => "EOF while parsing an object"
  | endInString => "EOF while parsing a string"
  | endInValue => "EOF while parsing a value"
  | expectedColon => "expected `:`"
  | expectedListComma => "expected `,` or `]`"
  | expectedObjectComma => "expected `,` or `\x7d`"
  | expectedWord => "expected ident"
  | expectedValue => "expected value"
  | invalidEscape => "invalid escape"
  | invalidNumber => "invalid number"
  | numberOutOfRange => "number out of range"
  | controlCharacter => "control character (\\u0000-\\u001F) found while parsing a string"
  | keyNotString => "key must be a string"
  | loneSurrogate => "lone leading surrogate in hex escape"
  | trailingComma => "trailing comma"
  | trailingCharacters => "trailing characters"
  | endOfHexEscape => "unexpected end of hex escape"
  | tooDeep => "recursion limit exceeded"

/-- A place in a text: lines count from one, columns count the bytes before the place. -/
structure Place where
  line : Nat := 1
  column : Nat := 0
  deriving DecidableEq

/-- The place after a whole character. -/
def Place.after (p : Place) (c : Char) : Place :=
  if c = '\n' then ⟨p.line + 1, 0⟩ else ⟨p.line, p.column + c.utf8Size⟩

/-- The place after the first byte of a character, where a failure at that character is told. -/
def Place.within (p : Place) (c : Char) : Place :=
  if c = '\n' then ⟨p.line + 1, 0⟩ else ⟨p.line, p.column + 1⟩

/-- A failure to read a text. -/
structure Failure where
  cause : Cause
  place : Place
  deriving DecidableEq

def Failure.message (f : Failure) : String :=
  f.cause.message ++ " at line " ++ f.place.line.repr ++ " column " ++ f.place.column.repr

namespace Reader

/-- A container that waits for a value. Finished elements are kept last first. -/
inductive Context where
  | element (done : List Json)
  | member (done : List (String × Json)) (key : String)

/-- Progress inside an escape of a string. -/
inductive Escape where
  | none
  | backslash
  /-- Hexadecimal digits still due, their value so far, whether one was bad, and the leading
  surrogate that came before. -/
  | hex (due : Nat) (value : Nat) (bad : Bool) (lead : Option Nat)
  | secondBackslash (lead : Nat)
  | secondU (lead : Nat)

/-- The part of a number that was read last. -/
inductive NumberPart where
  | minus
  | zero
  | whole
  | point
  | fraction
  | exponentMark
  | exponentSign
  | exponent
  deriving DecidableEq

/-- A number in progress: `± mantissa * 10 ^ (± exponent - places)`. -/
structure NumberScan where
  part : NumberPart
  negative : Bool
  mantissa : Nat
  places : Nat := 0
  exponentNegative : Bool := false
  exponent : Nat := 0

/-- What may come next. -/
inductive Mode where
  /-- A value; after a comma the end of the list is reported as such. -/
  | value (afterComma : Bool)
  | listStart
  | listRest (done : List Json)
  | objectStart
  | objectKey (done : List (String × Json))
  | objectColon (done : List (String × Json)) (key : String)
  | objectRest (done : List (String × Json))
  | finished (v : Json)
  /-- Inside a string, which is a key of the given object or a value. -/
  | inString (keyOf : Option (List (String × Json))) (read : List Char) (escape : Escape)
  | inNumber (scan : NumberScan)
  | inWord (due : List Char) (v : Json)
  | failed (f : Failure)

/-- The reader between two characters. -/
structure State where
  stack : List Context := []
  mode : Mode := .value false
  place : Place := {}

/-- A complete value, handed to the innermost open container. -/
def deliver (v : Json) : List Context → List Context × Mode
  | [] => ([], .finished v)
  | .element done :: rest => (rest, .listRest (v :: done))
  | .member done key :: rest => (rest, .objectRest ((key, v) :: done))

def State.deliver (s : State) (v : Json) : State :=
  let (stack, mode) := Reader.deliver v s.stack
  { s with stack, mode }

def State.fail (s : State) (cause : Cause) (place : Place) : State :=
  { s with mode := .failed ⟨cause, place⟩ }

/-- The integer or floating-point number that was read, if it is in range. -/
def NumberScan.value? (n : NumberScan) : Option Json :=
  let real (exponent : Int) : Option Json :=
    let m := Binary64.magnitudeOfDecimal n.mantissa exponent
    if m < Binary64.infinityMagnitude then some (.real (Binary64.ofMagnitude n.negative m))
    else none
  match n.part with
  | .minus | .zero | .whole =>
    if n.negative then
      if n.mantissa = 0 ∨ Nat.pow 2 63 < n.mantissa then real 0
      else some (.int (-(n.mantissa : Int)))
    else if n.mantissa < Nat.pow 2 64 then some (.int n.mantissa)
    else real 0
  | _ =>
    let e : Int := n.exponent
    real ((if n.exponentNegative then -e else e) - n.places)

/-- The number with one more character, if the character belongs to it. -/
def NumberScan.next? (n : NumberScan) (c : Char) : Option (Except Cause NumberScan) :=
  let digit := c.toNat - 48
  let isDigit := '0' ≤ c && c ≤ '9'
  match n.part with
  | .minus =>
    if c = '0' then some (.ok { n with part := .zero })
    else if isDigit then some (.ok { n with part := .whole, mantissa := digit })
    else some (.error .invalidNumber)
  | .zero =>
    if isDigit then some (.error .invalidNumber)
    else if c = '.' then some (.ok { n with part := .point })
    else if c = 'e' || c = 'E' then some (.ok { n with part := .exponentMark })
    else none
  | .whole =>
    if isDigit then some (.ok { n with mantissa := n.mantissa * 10 + digit })
    else if c = '.' then some (.ok { n with part := .point })
    else if c = 'e' || c = 'E' then some (.ok { n with part := .exponentMark })
    else none
  | .point =>
    if isDigit then
      some (.ok { n with part := .fraction, mantissa := n.mantissa * 10 + digit, places := 1 })
    else some (.error .invalidNumber)
  | .fraction =>
    if isDigit then
      some (.ok { n with mantissa := n.mantissa * 10 + digit, places := n.places + 1 })
    else if c = 'e' || c = 'E' then some (.ok { n with part := .exponentMark })
    else none
  | .exponentMark =>
    if isDigit then some (.ok { n with part := .exponent, exponent := digit })
    else if c = '+' then some (.ok { n with part := .exponentSign })
    else if c = '-' then some (.ok { n with part := .exponentSign, exponentNegative := true })
    else some (.error .invalidNumber)
  | .exponentSign =>
    if isDigit then some (.ok { n with part := .exponent, exponent := digit })
    else some (.error .invalidNumber)
  | .exponent =>
    if isDigit then some (.ok { n with exponent := n.exponent * 10 + digit }) else none

/-- Whether a number may end here. -/
def NumberPart.complete : NumberPart → Bool
  | .zero | .whole | .fraction | .exponent => true
  | _ => false

/-- The character of a simple escape. -/
def simpleEscape? (c : Char) : Option Char :=
  match c with
  | '"' => some '"'
  | '\\' => some '\\'
  | '/' => some '/'
  | 'b' => some '\x08'
  | 'f' => some '\x0c'
  | 'n' => some '\n'
  | 'r' => some '\r'
  | 't' => some '\t'
  | _ => none

/-- One character inside a string. -/
def State.stepString (s : State) (keyOf : Option (List (String × Json))) (read : List Char)
    (escape : Escape) (c : Char) : State :=
  let go (read : List Char) (escape : Escape) : State :=
    { s with mode := .inString keyOf read escape }
  match escape with
  | .none =>
    if c = '"' then
      let text := String.ofList read.reverse
      match keyOf with
      | some done => { s with mode := .objectColon done text }
      | none => s.deliver (.str text)
    else if c = '\\' then go read .backslash
    else if c.toNat < 0x20 then s.fail .controlCharacter (s.place.within c)
    else go (c :: read) .none
  | .backslash =>
    if c = 'u' then go read (.hex 4 0 false none)
    else
      match simpleEscape? c with
      | some e => go (e :: read) .none
      | none => s.fail .invalidEscape (s.place.within c)
  | .hex due value bad lead =>
    let (value, bad) :=
      match Text.hexValue? c with
      | some d => (value * 16 + d, bad)
      | none => (value, true)
    if 1 < due then go read (.hex (due - 1) value bad lead)
    else if bad then s.fail .invalidEscape (s.place.after c)
    else
      match lead with
      | some high =>
        if 0xdc00 ≤ value ∧ value ≤ 0xdfff then
          go (Char.ofNat ((high - 0xd800) * 0x400 + (value - 0xdc00) + 0x10000) :: read) .none
        else s.fail .loneSurrogate (s.place.after c)
      | none =>
        if 0xdc00 ≤ value ∧ value ≤ 0xdfff then s.fail .loneSurrogate (s.place.after c)
        else if 0xd800 ≤ value ∧ value ≤ 0xdbff then go read (.secondBackslash value)
        else go (Char.ofNat value :: read) .none
  | .secondBackslash lead =>
    if c = '\\' then go read (.secondU lead) else s.fail .endOfHexEscape (s.place.within c)
  | .secondU lead =>
    if c = 'u' then go read (.hex 4 0 false (some lead))
    else s.fail .endOfHexEscape (s.place.within c)

/-- Open a container unless that exceeds the depth limit. -/
def State.enter (limit : Option Nat) (s : State) (mode : Mode) (c : Char) : State :=
  match limit with
  | some depth =>
    if depth ≤ s.stack.length then s.fail .tooDeep (s.place.within c) else { s with mode }
  | none => { s with mode }

/-- The first character of a value. -/
def State.stepValue (limit : Option Nat) (s : State) (c : Char) : State :=
  if c = '"' then { s with mode := .inString none [] .none }
  else if c = '[' then s.enter limit .listStart c
  else if c = '{' then s.enter limit .objectStart c
  else if c = 'n' then { s with mode := .inWord ['u', 'l', 'l'] .null }
  else if c = 't' then { s with mode := .inWord ['r', 'u', 'e'] (.bool true) }
  else if c = 'f' then { s with mode := .inWord ['a', 'l', 's', 'e'] (.bool false) }
  else if c = '-' then { s with mode := .inNumber ⟨.minus, true, 0, 0, false, 0⟩ }
  else if c = '0' then { s with mode := .inNumber ⟨.zero, false, 0, 0, false, 0⟩ }
  else if '1' ≤ c && c ≤ '9' then
    { s with mode := .inNumber ⟨.whole, false, c.toNat - 48, 0, false, 0⟩ }
  else s.fail .expectedValue (s.place.within c)

def isBlank (c : Char) : Bool := c = ' ' || c = '\n' || c = '\t' || c = '\r'

/-- One character between the words of a text. -/
def State.stepBetween (limit : Option Nat) (s : State) (c : Char) : State :=
  if isBlank c then s
  else
    match s.mode with
    | .value afterComma =>
      if afterComma && c = ']' then s.fail .trailingComma (s.place.within c)
      else s.stepValue limit c
    | .listStart =>
      if c = ']' then s.deliver (.arr [])
      else State.stepValue limit { s with stack := .element [] :: s.stack } c
    | .listRest done =>
      if c = ']' then s.deliver (.arr done.reverse)
      else if c = ',' then { s with stack := .element done :: s.stack, mode := .value true }
      else s.fail .expectedListComma (s.place.within c)
    | .objectStart =>
      if c = '}' then s.deliver (.obj [])
      else if c = '"' then { s with mode := .inString (some []) [] .none }
      else s.fail .keyNotString (s.place.within c)
    | .objectKey done =>
      if c = '}' then s.fail .trailingComma (s.place.within c)
      else if c = '"' then { s with mode := .inString (some done) [] .none }
      else s.fail .keyNotString (s.place.within c)
    | .objectColon done key =>
      if c = ':' then { s with stack := .member done key :: s.stack, mode := .value false }
      else s.fail .expectedColon (s.place.within c)
    | .objectRest done =>
      if c = '}' then s.deliver (.obj (Entries.ofList done.reverse))
      else if c = ',' then { s with mode := .objectKey done }
      else s.fail .expectedObjectComma (s.place.within c)
    | .finished _ => s.fail .trailingCharacters (s.place.within c)
    | _ => s

/-- One character. A character that ends a number is read again after it. -/
def State.step (limit : Option Nat) (s : State) (c : Char) : State :=
  match s.mode with
  | .failed _ => s
  | mode =>
    let s' :=
      match mode with
      | .inString keyOf read escape => s.stepString keyOf read escape c
      | .inWord due v =>
        match due with
        | [] => s.fail .expectedWord (s.place.within c)
        | [d] => if c = d then s.deliver v else s.fail .expectedWord (s.place.within c)
        | d :: rest =>
          if c = d then { s with mode := .inWord rest v }
          else s.fail .expectedWord (s.place.within c)
      | .inNumber n =>
        match n.next? c with
        | some (.ok n') => { s with mode := .inNumber n' }
        | some (.error cause) => s.fail cause (s.place.within c)
        | none =>
          match n.value? with
          | some v => (s.deliver v).stepBetween limit c
          | none => s.fail .numberOutOfRange s.place
      | _ => s.stepBetween limit c
    { s' with place := s.place.after c }

/-- The end of the text. -/
def State.finish (s : State) : Except Failure Json :=
  let failing (cause : Cause) : Except Failure Json := .error ⟨cause, s.place⟩
  match s.mode with
  | .finished v => .ok v
  | .failed f => .error f
  | .value _ | .objectKey _ | .inWord _ _ => failing .endInValue
  | .listStart | .listRest _ => failing .endInList
  | .objectStart | .objectColon _ _ | .objectRest _ => failing .endInObject
  | .inString _ _ _ => failing .endInString
  | .inNumber n =>
    if n.part.complete then
      match n.value? with
      | none => failing .numberOutOfRange
      | some v =>
        match Reader.deliver v s.stack with
        | (_, .finished v) => .ok v
        | (_, .listRest _) => failing .endInList
        | _ => failing .endInObject
    else failing .endInValue

end Reader

/-- Read a text with at most `limit` levels of nested containers. -/
def readWithin (limit : Option Nat) (text : String) : Except Failure Json :=
  (text.toList.foldl (Reader.State.step limit) {}).finish

/-- Containers of a definition text may nest this deep. -/
def depthLimit : Nat := 127

/-- Read a definition text. -/
def read (text : String) : Except Failure Json :=
  readWithin (some depthLimit) text

end SchemaForge.Json
