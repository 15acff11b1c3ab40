import SchemaForge.Command.Run

/-!
# The program

The names of the files to work on come from standard input, one on a line; a name that ends in a
slash is a directory. The command runs on the tree of these files, and what it changed is written
back.
-/

namespace SchemaForge.Main

/-- The names on standard input. -/
def readNames : IO (List String) := do
  let input ← (← IO.getStdin).readToEnd
  return (input.splitOn "\n").filter fun name => !name.isEmpty

/-- The tree of the files with the given names. -/
def readTree (names : List String) : IO FileTree :=
  names.foldlM
    (fun t name => do
      if name.toList.getLast? = some '/' then return (t.makeDirectories name).1
      let bytes ← IO.FS.readBinFile name
      return t.place name (.ofBytes bytes.toList))
    {}

/-- Write the files that differ between two trees. -/
def writeChanges (before after : FileTree) : IO Unit := do
  for (names, content) in after.filesBelow after.working do
    let here := after.working ++ names
    if before.node? here ≠ some (.file content) then
      if let .text s := content then
        if 1 < names.length then
          IO.FS.createDirAll ("/".intercalate names.dropLast)
        IO.FS.writeFile ("/".intercalate names) s

def usage : String :=
  "Usage: zodgen generate | print FILE | init | validate [OPTIONS]"

/-- Report on what a command did to a tree. -/
def report (before : FileTree) (outcome : Outcome) : IO Unit := do
  writeChanges before outcome.tree
  IO.print outcome.output
  for w in outcome.warnings do
    IO.eprintln w.text
  if let some e := outcome.error then
    IO.eprintln ("Error: " ++ e.message)

/-- Run the command of a command line and report on it. -/
def run (args : List String) : IO UInt32 := do
  let before ← if (Command.ofArguments? args).isSome then readTree (← readNames) else pure {}
  let ending := Ending.ofArguments args before
  match ending with
  | .rejected => IO.eprintln ("error: invalid arguments\n" ++ usage)
  | .informed => IO.println usage
  | .ran outcome => report before outcome
  | .watching => IO.eprintln "Error: files cannot be watched here"
  return (ending.status?.getD 1).toUInt32

end SchemaForge.Main

def main (args : List String) : IO UInt32 := SchemaForge.Main.run args
