import SchemaForge.Schema.Generate
import SchemaForge.Warning

/-!
# Modules

The TypeScript module of a registry: a constant for every registered name, in order, and the type
that it describes. Names whose constants would clash are refused.
-/

namespace SchemaForge

/-- What a module contains besides its schemas. -/
structure ModuleOptions where
  header : Bool := true
  types : Bool := true
  deriving DecidableEq

/-- A name with the identifiers that stand for it. -/
structure Export where
  name : String
  schemaName : String
  typeName : String
  deriving DecidableEq

/-- A generated module. -/
structure Module where
  content : String
  exports : List Export
  /-- Referenced names without a definition. -/
  unresolved : List String
  /-- Every reference that was deferred, once. -/
  deferred : List Deferral
  deriving DecidableEq

/-- Two names with one identifier. -/
structure Clash where
  identifier : String
  first : String
  second : String
  deriving DecidableEq

def Clash.message (c : Clash) : String :=
  "Definitions '" ++ c.first ++ "' and '" ++ c.second ++ "' both generate " ++ c.identifier

def Export.ofName (name : String) : Export :=
  ⟨name, Schema.identifier name, Schema.sanitize name⟩

/-- The lines that export a name. -/
def Export.text (types : Bool) (expression : String) (e : Export) : String :=
  "\nexport const " ++ e.schemaName ++ " = " ++ expression ++ ";\n" ++
    if types then
      "export type " ++ e.typeName ++ " = z.infer<typeof " ++ e.schemaName ++ ">;\n"
    else ""

namespace Module

def headerText : String := "// Auto-generated by zodgen\n// Do not edit manually\n\n"

def importText : String := "import \x7b z \x7d from 'zod';\n"

/-- A module that is being written. -/
structure Draft where
  generator : Generator
  /-- The identifiers that are taken, each with the name that took it. -/
  taken : Entries String := []
  content : String
  exports : List Export := []

namespace Draft

/-- A module without constants. -/
def start (options : ModuleOptions) (reg : Registry) : Draft :=
  { generator := { registry := reg }
    content := (if options.header then headerText else "") ++ importText }

/-- Write the constant of a name, unless its identifier is taken. -/
def add (types : Bool) (draft : Draft) (name : String) : Except Clash Draft :=
  let ident := Schema.identifier name
  match draft.taken.get? ident with
  | some first => .error ⟨ident, first, name⟩
  | none =>
    let taken := draft.taken.insert ident name
    match draft.generator.generateNamed name with
    | (none, _) => .ok { draft with taken }
    | (some expression, generator) =>
      let e := Export.ofName name
      .ok
        { generator, taken
          content := draft.content ++ e.text types expression
          exports := draft.exports ++ [e] }

/-- Write the constants of names one after the other. A clash ends the writing. -/
def addAll (types : Bool) (draft : Draft) : List String → Draft × Option Clash
  | [] => (draft, none)
  | name :: rest =>
    match draft.add types name with
    | .error clash => (draft, some clash)
    | .ok draft' => draft'.addAll types rest

end Draft

/-- The module of a registry, written name by name with one generator, and what is noticed on the
way: range entries that are skipped, and names without a definition if there is no clash. -/
def write (options : ModuleOptions) (reg : Registry) : Except Clash Module × List Warning :=
  let (draft, clash) := (Draft.start options reg).addAll options.types reg.names
  let skipped := draft.generator.skipped.map .skippedRange
  match clash with
  | some clash => (.error clash, skipped)
  | none =>
    (.ok
      { content := draft.content
        exports := draft.exports
        unresolved := reg.unresolved
        deferred := draft.generator.deferred },
      skipped ++ reg.unresolved.map .undefinedName)

def generate (options : ModuleOptions) (reg : Registry) : Except Clash Module :=
  (write options reg).1

def warnings (options : ModuleOptions) (reg : Registry) : List Warning := (write options reg).2

end Module

end SchemaForge
