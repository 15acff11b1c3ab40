import SchemaForge.Registry
import SchemaForge.Schema.Composite
import SchemaForge.Schema.Identifier
import SchemaForge.Schema.Leaf

/-!
# Generated expressions

The expression of a definition over a registry. A reference to a registered name is replaced by
the expression of its definition. A reference to any other name, or to a name whose expression is
being written further up, is deferred to the moment of use.
-/

namespace SchemaForge

/-- Why a reference was deferred. -/
inductive DeferReason where
  /-- The name is being written further up. -/
  | cycle
  /-- The name has no definition. -/
  | unregistered
  deriving DecidableEq

/-- A reference that was deferred. -/
structure Deferral where
  name : String
  reason : DeferReason
  deriving DecidableEq

/-- An expression, with what was noticed while it was written. -/
structure Rendered where
  text : String
  /-- Deferred references in order, with repetitions. -/
  deferred : List Deferral := []
  /-- Range entries that are no ranges. -/
  skipped : List String := []
  deriving DecidableEq

/-- A text that was made from parts, with what was noticed in them. -/
def Rendered.ofParts (text : String) (parts : List Rendered) : Rendered :=
  { text, deferred := parts.flatMap deferred, skipped := parts.flatMap skipped }

namespace Definition

/-- The definitions right below the root. -/
def parts : Definition → List Definition
  | leaf _ _ | ref _ _ => []
  | array item _ _ => [item]
  | object properties _ _ _ => properties.map Prod.snd
  | tuple items _ => items
  | group _ members _ => members

/-- The expression of the root, given the expressions of its parts in order. -/
def schemaFrom (d : Definition) (texts : List String) : String :=
  match d with
  | leaf l _ => l.schema
  | array _ size _ => Schema.array (texts.headD "") size
  | object properties required additional _ =>
    Schema.object
      (properties.zipWith (fun (name, _) text => ⟨name, text, required.contains name⟩) texts)
      additional
  | tuple _ _ => Schema.tuple texts
  | group g _ _ => Schema.group g texts
  | ref name _ => Schema.lazyHandle name

mutual

/-- The expression of a definition whose references are written by `resolve`. -/
def render (resolve : String → Rendered) : Definition → Rendered
  | leaf l ex => { text := (leaf l ex).schemaFrom [], skipped := l.skipped }
  | array item size ex =>
    let rs := [render resolve item]
    .ofParts ((array item size ex).schemaFrom (rs.map Rendered.text)) rs
  | object properties required additional ex =>
    let rs := renderProperties resolve properties
    .ofParts ((object properties required additional ex).schemaFrom (rs.map Rendered.text)) rs
  | tuple items ex =>
    let rs := renderList resolve items
    .ofParts ((tuple items ex).schemaFrom (rs.map Rendered.text)) rs
  | group g members ex =>
    let rs := renderList resolve members
    .ofParts ((group g members ex).schemaFrom (rs.map Rendered.text)) rs
  | ref name _ => resolve name

def renderList (resolve : String → Rendered) : List Definition → List Rendered
  | [] => []
  | d :: rest => render resolve d :: renderList resolve rest

def renderProperties (resolve : String → Rendered) : List (String × Definition) → List Rendered
  | [] => []
  | (_, d) :: rest => render resolve d :: renderProperties resolve rest

end

end Definition

/-- A deferred reference. -/
def Rendered.defer (name : String) (reason : DeferReason) : Rendered :=
  { text := Schema.lazyHandle name, deferred := [⟨name, reason⟩] }

namespace Registry

/-- The expression of a reference below the names of `stack`, which are being written. -/
def reference (reg : Registry) (stack : List String) (name : String) : Rendered :=
  if _hs : name ∈ stack then .defer name .cycle
  else
    match _hd : reg.find? name with
    | none => .defer name .unregistered
    | some d => d.render (fun n => reg.reference (name :: stack) n)
termination_by reg.countOutside stack
decreasing_by exact countOutside_cons_lt _hd _hs

/-- The expression of a definition. -/
def generate (reg : Registry) (d : Definition) : Rendered := d.render (reg.reference [])

/-- The expression of a registered name, which is deferred inside itself. -/
def generateNamed? (reg : Registry) (name : String) : Option Rendered :=
  (reg.find? name).map fun d => d.render (reg.reference [name])

end Registry

/-- A run of generations over one registry, with everything that they deferred and skipped. -/
structure Generator where
  registry : Registry
  /-- Deferred references, each once, in the order of their first appearance. -/
  deferred : List Deferral := []
  /-- Every skipped range entry, in order. -/
  skipped : List String := []

namespace Generator

/-- Record what one generation noticed. -/
def record (g : Generator) (r : Rendered) : Generator :=
  { g with
    deferred := Text.distinct (g.deferred ++ r.deferred)
    skipped := g.skipped ++ r.skipped }

/-- Generate a definition. -/
def generate (g : Generator) (d : Definition) : String × Generator :=
  let r := g.registry.generate d
  (r.text, g.record r)

/-- Generate a registered name; nothing changes if there is no such name. -/
def generateNamed (g : Generator) (name : String) : Option String × Generator :=
  match g.registry.generateNamed? name with
  | some r => (some r.text, g.record r)
  | none => (none, g)

end Generator

end SchemaForge
