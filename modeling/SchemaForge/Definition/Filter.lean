/-!
# Allow and deny lists
-/

namespace SchemaForge

/-- How the entries of a list constrain a value. -/
inductive FilterMode where
  /-- The value has to match an entry. -/
  | allow
  /-- The value must not match any entry. -/
  | deny
  /-- No constraint. -/
  | none
  deriving DecidableEq, Inhabited

namespace FilterMode

/-- The name that is written. -/
def name : FilterMode → String
  | allow => "whitelist"
  | deny => "blacklist"
  | none => "none"

/-- Every name that is read. -/
def spellings : List (String × FilterMode) :=
  [("allow", allow), ("whitelist", allow), ("blacklist", deny), ("deny", deny), ("none", none)]

/-- Whether the mode constrains anything at all. -/
def isActive : FilterMode → Bool
  | none => false
  | _ => true

end FilterMode

/-- A list of entries with its mode. -/
structure Filter (α : Type) where
  mode : FilterMode := .none
  entries : List α := []
  deriving DecidableEq, Inhabited

/-- A filter constrains something if its mode does and it has an entry. -/
def Filter.isActive {α : Type} (f : Filter α) : Bool :=
  f.mode.isActive && !f.entries.isEmpty

end SchemaForge
