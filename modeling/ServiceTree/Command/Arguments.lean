import ServiceTree.Package.Artifact
import ServiceTree.Storage.Path

/-!
# Command-line arguments

Arguments are read from left to right. An option takes its value from the same argument or from the
next one, which may then not look like an option itself. The first thing wrong ends the reading, and
so does the first request for help or for the version.
-/

namespace ServiceTree.Command

/-- The options that take a value. -/
inductive Setting where
  | model
  | api
  | output
  | packageName
  | libraryPath
  | artifact
  deriving DecidableEq, Repr

/-- The options that stand alone. -/
inductive Switch where
  | dryRun
  | verbose
  | help
  | version
  deriving DecidableEq, Repr

/-- An option. -/
inductive Flag where
  | setting (setting : Setting)
  | switch (switch : Switch)
  deriving DecidableEq, Repr

/-- The long names of options. -/
def longFlags : List (String × Flag) :=
  [("model", .setting .model), ("api", .setting .api), ("output", .setting .output),
    ("crate-name", .setting .packageName), ("runtime-path", .setting .libraryPath),
    ("emit", .setting .artifact), ("dry-run", .switch .dryRun), ("verbose", .switch .verbose),
    ("help", .switch .help), ("version", .switch .version)]

/-- The letters of options. -/
def shortFlags : List (Char × Flag) :=
  [('m', .setting .model), ('a', .setting .api), ('o', .setting .output),
    ('v', .switch .verbose), ('h', .switch .help), ('V', .switch .version)]

/-- The options given so far. -/
structure Given where
  settings : List (Setting × String)
  dryRun : Bool
  deriving DecidableEq, Repr

/-- What reading the arguments comes to, unless it runs to their end. -/
inductive Stop where
  /-- The arguments are refused. -/
  | refused
  | help
  | version
  deriving DecidableEq, Repr

/-- Whether an option accepts a value. -/
def accepts (setting : Setting) (value : String) : Bool :=
  match setting with
  | .model | .output => !value.isEmpty
  | .artifact => (Artifact.ofWord? value).isSome
  | .api | .packageName | .libraryPath => true

namespace Given

/-- Give an option its value; no option is given a second one. -/
def set (given : Given) (setting : Setting) (value : String) : Except Stop Given :=
  if accepts setting value && (given.settings.lookup setting).isNone then
    .ok { given with settings := (setting, value) :: given.settings }
  else .error .refused

/-- Throw a switch. It may be thrown again only where repeating it means something. -/
def throwSwitch (given : Given) (switch : Switch) : Except Stop Given :=
  match switch with
  | .dryRun => if given.dryRun then .error .refused else .ok { given with dryRun := true }
  | .verbose => .ok given
  | .help => .error .help
  | .version => .error .version

end Given

/-- Whether an argument is taken for an option, and so cannot be the value of the one before it. -/
def looksLikeFlag (argument : List Char) : Bool :=
  match argument with
  | '-' :: _ :: _ => true
  | _ => false

/-- The name in a long argument, and the value behind an equals sign. -/
def splitLong (text : List Char) : String × Option String :=
  let name := String.ofList (text.takeWhile (· ≠ '='))
  match text.dropWhile (· ≠ '=') with
  | [] => (name, none)
  | _ :: value => (name, some (String.ofList value))

/-- Read the letters of one argument: some switches, and perhaps an option with its value behind it.
An option that still waits for its value is left over. -/
def readLetters (given : Given) : List Char → Except Stop (Given × Option Setting)
  | [] => .ok (given, none)
  | letter :: rest =>
    match shortFlags.lookup letter with
    | none => .error .refused
    | some (.switch switch) => do readLetters (← given.throwSwitch switch) rest
    | some (.setting setting) =>
      match rest with
      | [] => .ok (given, some setting)
      | '=' :: value => (given.set setting (String.ofList value)).map (·, none)
      | value => (given.set setting (String.ofList value)).map (·, none)

/-- Read one argument that looks like an option. An option that still waits for its value is left
over. -/
def readFlag (given : Given) (argument : List Char) : Except Stop (Given × Option Setting) :=
  match argument with
  | '-' :: '-' :: text =>
    match longFlags.lookup (splitLong text).1, (splitLong text).2 with
    | some (.setting setting), some value => (given.set setting value).map (·, none)
    | some (.setting setting), none => .ok (given, some setting)
    | some (.switch switch), none => (given.throwSwitch switch).map (·, none)
    | _, _ => .error .refused
  | _ => readLetters given (argument.drop 1)

/-- Read the arguments. There are none but options; two dashes alone say that no option follows. -/
def readArguments (given : Given) : List String → Except Stop Given
  | [] => .ok given
  | argument :: rest =>
    if argument == "--" then (if rest.isEmpty then .ok given else .error .refused)
    else if !looksLikeFlag argument.toList then .error .refused
    else
      match readFlag given argument.toList with
      | .error stop => .error stop
      | .ok (given, none) => readArguments given rest
      | .ok (given, some setting) =>
        match rest with
        | [] => .error .refused
        | value :: rest =>
          if looksLikeFlag value.toList then .error .refused
          else
            match given.set setting value with
            | .error stop => .error stop
            | .ok given => readArguments given rest

/-- The options of a run. -/
structure Arguments where
  model : Option FilePath
  api : Option String
  output : FilePath
  packageName : String
  libraryPath : Option String
  artifact : Artifact
  dryRun : Bool
  deriving DecidableEq, Repr

/-- The value of an option. -/
def Given.value? (given : Given) (setting : Setting) : Option String := given.settings.lookup setting

/-- The options of a run, with those filled in that are not given. A model comes from a file or from
those at hand, not from both. -/
def Given.complete (given : Given) : Except Stop Arguments :=
  if (given.value? .model).isSome && (given.value? .api).isSome then .error .refused
  else
    .ok
      { model := (given.value? .model).map FilePath.ofText
        api := given.value? .api
        output := .ofText ((given.value? .output).getD "client/src")
        packageName := (given.value? .packageName).getD "arbor-client"
        libraryPath := given.value? .libraryPath
        artifact := ((given.value? .artifact).bind Artifact.ofWord?).getD .code
        dryRun := given.dryRun }

/-- The options that arguments write. -/
def parse (arguments : List String) : Except Stop Arguments := do
  (← readArguments ⟨[], false⟩ arguments).complete

end ServiceTree.Command
