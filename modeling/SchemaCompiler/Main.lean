import SchemaCompiler.CommandLine.Execution

/-!
# The program

Carries out its command line on the files of the system.
-/

namespace SchemaCompiler.CommandLine

/-- What an action yields, or nothing if it fails. -/
def attempt {α : Type} (action : IO α) : IO (Option α) := do
  try
    return some (← action)
  catch _ =>
    return none

/-- Writes a file after the directories on the way to it. -/
def writeBelow (path text : String) : IO Unit := do
  let directory := Files.parent path
  unless directory.isEmpty do
    IO.FS.createDirAll directory
  IO.FS.writeFile path text

/-- The files of the system. -/
instance : MonadFiles IO where
  readText path := attempt (IO.FS.readFile path)
  pathExists path := return (← attempt (IO.FS.realPath path)).isSome
  entries path := attempt do
    let found ← (← IO.FS.realPath path).readDir
    return found.toList.map (·.fileName)
  writeText path text := return (← attempt (writeBelow path text)).isSome

end SchemaCompiler.CommandLine

/-- Answers the command line. -/
def main (words : List String) : IO UInt32 := do
  let outcome ← SchemaCompiler.CommandLine.run words
  outcome.output.forM IO.println
  outcome.errors.forM IO.eprintln
  return outcome.status.toUInt32
