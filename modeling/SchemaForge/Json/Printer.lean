import SchemaForge.Decimal.Layout
import SchemaForge.Json.Basic
import SchemaForge.Text.Quoted

/-!
# JSON text

The compact text of a value: no blanks, fields in order, shortest digits for floating-point
numbers, which always show a point or a power of ten.
-/

namespace SchemaForge.Json

/-- The text of a floating-point number, positional from `0.00001` up to below `10 ^ 16`. What is
not finite has no number text. -/
def numberText (x : Binary64) : String :=
  if !x.isFinite then "null"
  else if x.isZero then Layout.signed x ['0', '.', '0']
  else
    let d := Decimal.shortest .toEven x
    let ds := Layout.digitsOf d.digits
    Layout.signed x
      (if -5 ≤ d.leading ∧ d.leading ≤ 15 then Layout.positional true ds d.leading
      else Layout.scientific ds d.leading)

mutual

/-- The compact text of a value. -/
def compact : Json → String
  | null => "null"
  | bool b => if b then "true" else "false"
  | int n => n.repr
  | real x => numberText x
  | str s => Text.quote s
  | arr items => "[" ++ compactItems items ++ "]"
  | obj fields => "\x7b" ++ compactFields fields ++ "\x7d"

/-- Values separated by commas. -/
def compactItems : List Json → String
  | [] => ""
  | [v] => compact v
  | v :: w :: rest => compact v ++ "," ++ compactItems (w :: rest)

/-- Fields separated by commas. -/
def compactFields : List (String × Json) → String
  | [] => ""
  | [(k, v)] => Text.quote k ++ ":" ++ compact v
  | (k, v) :: f :: rest => Text.quote k ++ ":" ++ compact v ++ "," ++ compactFields (f :: rest)

end

end SchemaForge.Json
