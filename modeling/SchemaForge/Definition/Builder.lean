import SchemaForge.Definition.Basic
import SchemaForge.Entries

/-!
# Building definitions

Definitions with every attribute left out, and objects that grow one property at a time.
-/

namespace SchemaForge

/-- An object in the making. -/
structure ObjectRules where
  properties : Entries Definition := []
  required : List String := []
  additional : Option Bool := none

namespace ObjectRules

/-- Add a property that has to be there. -/
def withRequired (o : ObjectRules) (name : String) (d : Definition) : ObjectRules :=
  { o with properties := o.properties.insert name d, required := o.required ++ [name] }

/-- Add a property that may be absent. A name that was required before stays so. -/
def withOptional (o : ObjectRules) (name : String) (d : Definition) : ObjectRules :=
  { o with properties := o.properties.insert name d }

/-- Say whether further keys pass. -/
def withAdditional (o : ObjectRules) (allowed : Bool) : ObjectRules :=
  { o with additional := some allowed }

def toDefinition (o : ObjectRules) : Definition :=
  .object o.properties o.required o.additional []

end ObjectRules

namespace Definition

def ofLeaf (l : Leaf) : Definition := leaf l []

def ofPlain (p : Plain) : Definition := ofLeaf (.plain p)

def ofLiteral (l : Literal) : Definition := ofLeaf (.literal l)

def ofMembers (ls : List Literal) : Definition := ofLeaf (.enumeration ls)

def anyString : Definition := ofLeaf (.string none {})

def anyNumber : Definition := ofLeaf (.number {})

def arrayOf (item : Definition) : Definition := array item {} []

def tupleOf (items : List Definition) : Definition := tuple items []

def groupOf (g : Grouping) (members : List Definition) : Definition := group g members []

def refTo (name : String) : Definition := ref name []

def binaryOf (e : Encoding) (bytes : Bounds) : Definition := ofLeaf (.binary e bytes)

def addressOf (kind : AddressKind) (range : Filter String) : Definition :=
  ofLeaf (.address kind range)

/-- A URL whose host name is filtered. -/
def urlOf (domain : Filter String) : Definition := ofLeaf (.url { domain := some domain })

end Definition

end SchemaForge
