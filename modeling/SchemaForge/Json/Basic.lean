import SchemaForge.Decimal.Binary64
import SchemaForge.Entries

/-!
# JSON values

Objects keep the order of their fields, and a number is either an integer or a binary
floating-point number: `5` and `5.0` are different values.
-/

namespace SchemaForge

/-- A JSON value. -/
inductive Json where
  | null
  | bool (b : Bool)
  | int (n : Int)
  | real (x : Binary64)
  | str (s : String)
  | arr (items : List Json)
  | obj (fields : List (String × Json))
  deriving Inhabited

namespace Json

/-- The field of an object; other values have none. -/
def field? (name : String) : Json → Option Json
  | obj fields => Entries.get? name fields
  | _ => none

/-- The text of a string value. -/
def text? : Json → Option String
  | str s => some s
  | _ => none

end Json

end SchemaForge
