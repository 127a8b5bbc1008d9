import ServiceTree.Command.Arguments
import ServiceTree.Model.File
import ServiceTree.Model.Library
import ServiceTree.Package.Manifest
import ServiceTree.Storage.FileSystem

/-!
# Runs of the command

A run is a list of effects and the status it ends with. Everything is decided before the first effect
takes place, from the arguments and the content of the model file; an effect that fails ends the run.
-/

namespace ServiceTree.Command

/-- What a run does. -/
inductive Effect where
  /-- Print a text. -/
  | print (text : String)
  /-- Write a file whole. -/
  | write (path : FilePath) (content : String)
  deriving DecidableEq, Repr

/-- The effects of a run, and how it ends unless one of them fails. -/
structure Run where
  effects : List Effect
  status : Nat
  /-- What is reported at the end. -/
  report : String
  deriving DecidableEq, Repr

/-- The status of a run that succeeds. -/
def succeeded : Nat := 0

/-- The status of a run that fails. -/
def failed : Nat := 1

/-- The status of a run whose arguments are refused. -/
def refused : Nat := 2

/-- The status of a run that comes upon a text which no identifier can be made of. -/
def aborted : Nat := 101

/-- The status of a run that fails with an error. -/
def statusOf : GenerationError → Nat
  | .notAnIdentifier _ => aborted
  | _ => failed

/-- The end of a run that fails with an error. -/
def failure (effects : List Effect) (error : GenerationError) : Run :=
  ⟨effects, statusOf error, "Error: " ++ error.message⟩

/-- The line that tells the version. -/
def versionText : String := "arbor-gen 0.1.0\n"

/-- The options with what each is for. -/
def optionHelp : List (String × String) :=
  [("-m, --model <MODEL>", "Model file to load (.json, .yaml or .yml)"),
    ("-a, --api <API>", "Bundled model to generate code for (e.g., \"library\")"),
    ("-o, --output <OUTPUT>", "Output directory for generated code [default: client/src]"),
    ("    --crate-name <CRATE_NAME>", "Package name of the generated crate [default: arbor-client]"),
    ("    --runtime-path <RUNTIME_PATH>", "Path to the arbor runtime, relative to the generated crate"),
    ("    --emit <EMIT>", "What to emit [default: rust]"),
    ("    --dry-run", "Print generated output without writing files"),
    ("-v, --verbose...", "Increase verbosity (-v, -vv, -vvv)"),
    ("-h, --help", "Print help"),
    ("-V, --version", "Print version")]

/-- The text that tells how the command is used. -/
def helpText : String :=
  "Client generator and path router for arbor service models\n\nUsage: arbor-gen [OPTIONS]\n\n" ++
    "Options:\n" ++
    String.join (optionHelp.map fun entry => "  " ++ entry.1 ++ "\n          " ++ entry.2 ++ "\n")

/-- The model that a run is about. -/
def loadModel (arguments : Arguments) (content : Option ByteArray) : Except GenerationError Model :=
  match arguments.model, arguments.api with
  | some path, _ => (Model.ofFile path content).mapError .model
  | none, some name =>
    match Model.bundled? name with
    | some model => .ok model
    | none =>
      .error (.configuration ("Unknown API: '" ++ name ++ "'. Available APIs: " ++
        ", ".intercalate Model.bundledNames))
  | none, none => .error (.configuration "Either --model or --api must be given")

/-- Hand out a file: print it under its name, or write it into a directory. -/
def handOut (arguments : Arguments) (directory : FilePath) (name content : String) : Effect :=
  if arguments.dryRun then .print ("=== " ++ name ++ " ===\n" ++ content ++ "\n\n")
  else .write (directory.child name) content

/-- The directory of the package: the one above the directory of its code. -/
def packageDirectory (output : FilePath) : FilePath := output.parent?.getD (.ofText ".")

/-- The manifest that a run asks for. -/
def manifest (arguments : Arguments) : Manifest := ⟨arguments.packageName, arguments.libraryPath⟩

/-- The end of a run that hands out everything. -/
def success (arguments : Arguments) (model : Model) (effects : List Effect) : Run :=
  let target := (arguments.output.child arguments.artifact.fileName).write
  ⟨effects, succeeded,
    if arguments.dryRun then "" else "Generated " ++ model.name.camelCase ++ " client to " ++ target⟩

/-- Hand out the manifest behind effects that are decided already. -/
def withManifest (arguments : Arguments) (model : Model) (effects : List Effect) : Run :=
  match (manifest arguments).render with
  | .error error => failure effects error
  | .ok text =>
    success arguments model
      (effects ++ [handOut arguments (packageDirectory arguments.output) Manifest.fileName text])

/-- The run for complete arguments. Code comes with a manifest, a plan alone. -/
def generate (arguments : Arguments) (content : Option ByteArray) : Run :=
  match loadModel arguments content with
  | .error error => failure [] error
  | .ok model =>
    match arguments.artifact.ofModel model with
    | .error error => failure [] error
    | .ok text =>
      let effects := [handOut arguments arguments.output arguments.artifact.fileName text]
      match arguments.artifact with
      | .code => withManifest arguments model effects
      | .plan => success arguments model effects

/-- The run that stopped arguments lead to. -/
def stopped : Stop → Run
  | .refused => ⟨[], refused, "Error: the arguments are refused; see --help"⟩
  | .help => ⟨[.print helpText], succeeded, ""⟩
  | .version => ⟨[.print versionText], succeeded, ""⟩

/-- The run for arguments, given a way to read files. -/
def run (read : FilePath → Option ByteArray) (arguments : List String) : Run :=
  match parse arguments with
  | .error stop => stopped stop
  | .ok arguments => generate arguments (arguments.model.bind read)

/-- What a run leaves behind. -/
structure Outcome where
  files : FileSystem
  printed : String
  status : Nat

/-- Perform effects one after the other; one that fails ends the run. -/
def perform (status : Nat) (files : FileSystem) (printed : String) : List Effect → Outcome
  | [] => ⟨files, printed, status⟩
  | .print text :: rest => perform status files (printed ++ text) rest
  | .write path content :: rest =>
    match files.writeWhole path content with
    | (true, files) => perform status files printed rest
    | (false, files) => ⟨files, printed, failed⟩

/-- Run the command on a file system. -/
def runOn (files : FileSystem) (arguments : List String) : Outcome :=
  let run := run files.read? arguments
  perform run.status files "" run.effects

end ServiceTree.Command
