import SchemaForge.Decimal.Layout
import SchemaForge.Definition.Basic
import SchemaForge.Text.Quoted

/-!
# JavaScript literals
-/

namespace SchemaForge

/-- The number nearest to `10 ^ -6`. -/
def Binary64.millionth : Binary64 := ⟨0x3eb0c6f7a0b5ed8d⟩

/-- The number nearest to `10 ^ 21`. -/
def Binary64.sextillion : Binary64 := ⟨0x444b1ae4d6e2ef50⟩

namespace Schema

/-- Whether a number is written without a power of ten: its absolute value is between the two
limits. -/
def isPlain (x : Binary64) : Bool :=
  Binary64.millionth.magnitude ≤ x.magnitude && x.magnitude < Binary64.sextillion.magnitude

/-- A number as JavaScript prints it. -/
def number (x : Binary64) : String :=
  if x.isNaN then "NaN"
  else if !x.isFinite then if x.isNegative then "-Infinity" else "Infinity"
  else if x.isZero then "0"
  else
    let d := Decimal.shortest .up x
    let ds := Layout.digitsOf d.digits
    Layout.signed x
      (if isPlain x then Layout.positional false ds d.leading else Layout.scientific ds d.leading)

def flag (b : Bool) : String := if b then "true" else "false"

/-- A primitive value; a number that is not finite has no literal and becomes `null`. -/
def literal : Literal → String
  | .null => "null"
  | .bool b => flag b
  | .number x => if x.isFinite then number x else "null"
  | .text s => Text.quote s

/-- The expression that rejects every value. -/
def never : String := "z.never()"

/-- A chained call with one argument. -/
def call (method argument : String) : String := "." ++ method ++ "(" ++ argument ++ ")"

/-- A chained call for an attribute that may be absent. -/
def callWith {α : Type} (method : String) (text : α → String) : Option α → String
  | some a => call method (text a)
  | none => ""

/-- Calls for the two bounds of a count. -/
def boundCalls (b : Bounds) : String :=
  callWith "min" (fun n => n.toNat.repr) b.least ++
    callWith "max" (fun n => n.toNat.repr) b.greatest

/-- Expressions between brackets. -/
def list (items : List String) : String := "[" ++ ", ".intercalate items ++ "]"

end Schema

end SchemaForge
