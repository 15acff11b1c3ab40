import SchemaForge.Definition.Decode
import SchemaForge.Schema.Generate

/-!
# Calls of a generator

A generator is called with a definition, with a JSON value that describes one, or with a registered
name, any number of times.
-/

namespace SchemaForge

/-- One call of a generator. -/
inductive Call where
  | definition (d : Definition)
  | value (v : Json)
  | named (name : String)

/-- What a call returns: a text, nothing if a name has no definition, or why a value is none. -/
abbrev Reply := Except DefinitionError (Option String)

namespace Generator

/-- Generate the definition that a value describes; nothing changes if it describes none. -/
def generateValue (g : Generator) (v : Json) : Except DefinitionError String × Generator :=
  match Definition.ofJson v with
  | .ok d =>
    let (text, after) := g.generate d
    (.ok text, after)
  | .error e => (.error e, g)

def call (g : Generator) : Call → Reply × Generator
  | .definition d =>
    let (text, after) := g.generate d
    (.ok (some text), after)
  | .value v =>
    let (result, after) := g.generateValue v
    (result.map some, after)
  | .named name =>
    let (text, after) := g.generateNamed name
    (.ok text, after)

/-- Call after call on one generator. -/
def calls (g : Generator) : List Call → List Reply × Generator
  | [] => ([], g)
  | c :: rest =>
    let (reply, after) := g.call c
    let (replies, last) := after.calls rest
    (reply :: replies, last)

end Generator

end SchemaForge
