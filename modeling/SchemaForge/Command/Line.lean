import SchemaForge.Config

/-!
# Command lines

A command line names a command and gives it options and operands. A short option can be combined
with others and with its value; a value in an argument of its own must not look like an option.
Arguments are read from left to right, and an option that asks for help ends the command line.
-/

namespace SchemaForge

/-- What to do. -/
inductive Command where
  | generate (config : Option String) (overrides : Overrides) (dryRun : Bool)
  | print (file : String) (name : Option String)
  | init (output : String) (force : Bool)
  | validate (path input config : Option String)
  deriving DecidableEq

/-- What a command line asks for. -/
inductive Request where
  | command (command : Command)
  /-- Generate, and again whenever a definition file changes. -/
  | watch (config : Option String) (overrides : Overrides) (dryRun : Bool)
  | help
  | version
  deriving DecidableEq

namespace Command

/-- What an option takes. -/
inductive Arity where
  | flag
  /-- A flag that can be repeated. -/
  | counter
  /-- A flag that ends the command line. What follows it is not read. -/
  | request
  | text
  /-- A text that must not be empty. -/
  | path
  deriving DecidableEq

def Arity.takesValue : Arity → Bool
  | text | path => true
  | flag | counter | request => false

structure OptionSpec where
  name : String
  short : Option Char := none
  arity : Arity
  deriving DecidableEq

/-- A part of a command line. -/
inductive Argument where
  | flag (spec : OptionSpec)
  | value (spec : OptionSpec) (text : String)
  | operand (text : String)
  deriving DecidableEq

/-- Whether an argument looks like an option; a single dash does not. -/
def looksLikeOption (arg : String) : Bool :=
  match arg.toList with
  | '-' :: _ :: _ => true
  | _ => false

/-- Options that are complete, and one that waits for its value in the next argument. -/
abbrev Opened := List Argument × Option OptionSpec

/-- A long option, after its dashes. -/
def openLong (specs : List OptionSpec) (cs : List Char) : Option Opened := do
  let name := String.ofList (cs.takeWhile (· ≠ '='))
  let spec ← specs.find? fun s => s.name = name
  match cs.dropWhile (· ≠ '=') with
  | [] => if spec.arity.takesValue then return ([], some spec) else return ([.flag spec], none)
  | _ :: value =>
    if spec.arity.takesValue then return ([.value spec (String.ofList value)], none) else none

/-- Short options, after their dash. What follows an option that takes a value is the value, less
an equals sign in front, and what follows a request is not read. -/
def openShort (specs : List OptionSpec) : List Char → Option Opened
  | [] => some ([], none)
  | c :: rest => do
    let spec ← specs.find? fun s => s.short = some c
    if spec.arity.takesValue then
      match rest with
      | [] => return ([], some spec)
      | '=' :: value => return ([.value spec (String.ofList value)], none)
      | value => return ([.value spec (String.ofList value)], none)
    else if spec.arity = .request then return ([.flag spec], none)
    else
      let (others, waiting) ← openShort specs rest
      return (.flag spec :: others, waiting)

/-- Whether a request is among the options. -/
def hasRequest (args : List Argument) : Bool :=
  args.any fun a =>
    match a with
    | .flag spec => spec.arity = .request
    | _ => false

/-- The arguments of a command, up to a request. After two dashes everything is an operand. -/
def readArguments (specs : List OptionSpec) : List String → Option (List Argument)
  | [] => some []
  | arg :: rest =>
    if arg = "--" then some (rest.map .operand)
    else if !looksLikeOption arg then (readArguments specs rest).map (.operand arg :: ·)
    else do
      let (done, waiting) ←
        match arg.toList with
        | '-' :: '-' :: cs => openLong specs cs
        | cs => openShort specs (cs.drop 1)
      match waiting, rest with
      | none, rest =>
        if hasRequest done then return done else return done ++ (← readArguments specs rest)
      | some spec, value :: rest =>
        if looksLikeOption value then none
        else return done ++ .value spec value :: (← readArguments specs rest)
      | some _, [] => none

/-- How often an option is given. -/
def count (args : List Argument) (name : String) : Nat :=
  (args.filter fun a =>
    match a with
    | .flag spec | .value spec _ => spec.name = name
    | .operand _ => false).length

/-- Only counters can be repeated, and paths are not empty. -/
def areValid (specs : List OptionSpec) (args : List Argument) : Bool :=
  specs.all (fun s => s.arity = .counter || count args s.name ≤ 1) &&
    args.all fun a =>
      match a with
      | .value spec text => spec.arity ≠ .path || !text.isEmpty
      | _ => true

def hasFlag (args : List Argument) (name : String) : Bool := 0 < count args name

/-- The value of an option. -/
def valueOf? (args : List Argument) (name : String) : Option String :=
  args.findSome? fun a =>
    match a with
    | .value spec text => if spec.name = name then some text else none
    | _ => none

def operands (args : List Argument) : List String :=
  args.filterMap fun a =>
    match a with
    | .operand text => some text
    | _ => none

/-- The option that stands in front of commands and behind them. -/
def verbose : OptionSpec := { name := "verbose", short := some 'v', arity := .counter }

def help : OptionSpec := { name := "help", short := some 'h', arity := .request }

def version : OptionSpec := { name := "version", short := some 'V', arity := .request }

/-- The options that stand in front of a command. -/
def generalOptions : List OptionSpec := [verbose, help, version]

def generateOptions : List OptionSpec :=
  [verbose, help,
    { name := "input", short := some 'i', arity := .path },
    { name := "output", short := some 'o', arity := .path },
    { name := "file", arity := .text },
    { name := "no-types", arity := .flag },
    { name := "watch", short := some 'w', arity := .flag },
    { name := "dry-run", arity := .flag },
    { name := "config", short := some 'c', arity := .path },
    { name := "filter", arity := .text }]

def printOptions : List OptionSpec :=
  [verbose, help, { name := "name", short := some 'n', arity := .text }]

def initOptions : List OptionSpec :=
  [verbose, help, { name := "output", short := some 'o', arity := .path },
    { name := "force", arity := .flag }]

def validateOptions : List OptionSpec :=
  [verbose, help,
    { name := "path", short := some 'p', arity := .path },
    { name := "input", short := some 'i', arity := .path },
    { name := "config", short := some 'c', arity := .path }]

/-- The valid arguments of a command. -/
def argumentsFor (specs : List OptionSpec) (args : List String) : Option (List Argument) :=
  (readArguments specs args).filter (areValid specs)

end Command

namespace Request

open Command

/-- The request for a command with its arguments. An operand that does not belong there counts
before a request for help behind it. -/
def ofName? (name : String) (args : List String) : Option Request :=
  match name with
  | "generate" => do
    let as ← argumentsFor generateOptions args
    if !(operands as).isEmpty then none
    if hasRequest as then return .help
    let config := valueOf? as "config"
    let overrides : Overrides :=
      { input := valueOf? as "input"
        filter := valueOf? as "filter"
        output := valueOf? as "output"
        outputFile := valueOf? as "file"
        types := if hasFlag as "no-types" then some false else none }
    let dryRun := hasFlag as "dry-run"
    if hasFlag as "watch" then return .watch config overrides dryRun
    return .command (.generate config overrides dryRun)
  | "print" => do
    let as ← argumentsFor printOptions args
    match operands as with
    | [] => if hasRequest as then return .help else none
    | [file] =>
      if file.isEmpty then none
      if hasRequest as then return .help
      return .command (.print file (valueOf? as "name"))
    | _ => none
  | "init" => do
    let as ← argumentsFor initOptions args
    if !(operands as).isEmpty then none
    if hasRequest as then return .help
    return .command (.init ((valueOf? as "output").getD Config.defaultFile) (hasFlag as "force"))
  | "validate" => do
    let as ← argumentsFor validateOptions args
    if !(operands as).isEmpty then none
    if hasRequest as then return .help
    return .command
      (.validate (valueOf? as "path") (valueOf? as "input") (valueOf? as "config"))
  | "help" =>
    match args with
    | [] => some .help
    | [topic] =>
      if topic ∈ ["generate", "print", "init", "validate", "help"] then some .help else none
    | _ => none
  | _ => none

/-- The request of a command line, if it is accepted. -/
def ofArguments? : List String → Option Request
  | [] => none
  | arg :: rest =>
    if looksLikeOption arg then
      match readArguments generalOptions [arg] with
      | some [] | none => none
      | some as =>
        if hasFlag as "help" then some .help
        else if hasFlag as "version" then some .version
        else ofArguments? rest
    else ofName? arg rest

end Request

/-- The command of a command line, if it is accepted and asks for one. -/
def Command.ofArguments? (args : List String) : Option Command :=
  match Request.ofArguments? args with
  | some (.command command) => some command
  | _ => none

end SchemaForge
