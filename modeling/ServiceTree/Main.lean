import ServiceTree.Command.Run

/-!
# The command

Reads the model file that the arguments name, and performs the effects of the run one after the other.
-/

namespace ServiceTree.Command

/-- The content of a file, if it can be read. -/
def readFile? (path : FilePath) : IO (Option ByteArray) :=
  try return some (← IO.FS.readBinFile path.write) catch _ => return none

/-- Write a file whole: beside its place first, then in its place. -/
def writeFile (path : FilePath) (content : String) : IO Unit := do
  if let some parent := path.parent? then
    unless parent.isEmpty do IO.FS.createDirAll parent.write
  let unfinished := path.withExtension FileSystem.unfinishedExtension
  IO.FS.writeFile unfinished.write content
  IO.FS.rename unfinished.write path.write

/-- Perform an effect. -/
def Effect.perform : Effect → IO Unit
  | .print text => IO.print text
  | .write path content => writeFile path content

/-- The file that the arguments want to be read. -/
def wantedFile? (arguments : List String) : Option FilePath :=
  match parse arguments with
  | .ok parsed => parsed.model
  | .error _ => none

/-- Perform a run and report its end. -/
def Run.perform (run : Run) : IO UInt32 := do
  try
    run.effects.forM Effect.perform
    unless run.report.isEmpty do IO.eprintln run.report
    return run.status.toUInt32
  catch error =>
    IO.eprintln s!"Error: {error}"
    return failed.toUInt32

end ServiceTree.Command

open ServiceTree ServiceTree.Command in
/-- The entry point. -/
def main (arguments : List String) : IO UInt32 := do
  let content ← match wantedFile? arguments with
    | some path => readFile? path
    | none => pure none
  (run (fun _ => content) arguments).perform
