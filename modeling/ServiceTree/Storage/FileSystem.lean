import ServiceTree.Storage.Path

/-!
# A file system

Files and directories by their location. Locations are counted from a current directory, which is
always there, as are the directories above it and the root. A file is written whole: its content first
goes to a file of another extension beside it, which then takes its place.
-/

namespace ServiceTree

/-- The parts that lead from the current directory to an entry. They may begin with steps upward, or
with a slash for the root. -/
abbrev Location := List String

/-- What there is at a location. -/
inductive Node where
  | file (bytes : ByteArray)
  | directory

/-- Whether a name is short enough, and has no character that ends it. -/
def isFitName (name : String) : Bool := name.utf8ByteSize ≤ 255 && !name.toList.contains '\x00'

/-- The locations that are always there. -/
def isGiven (location : Location) : Bool :=
  location == ["/"] || location.all fun part => part == ".."

/-- The directory above a location. -/
def above (location : Location) : Location :=
  if location == ["/"] then location
  else if isGiven location then location ++ [".."]
  else location.dropLast

/-- The name of a location: its parts with slashes between them. -/
def nameOf (location : Location) : String := "/".intercalate location

/-- Whether a name leads out of the current directory. -/
def isOutside (name : String) : Bool :=
  match name.toList with
  | '/' :: _ => true
  | '.' :: '.' :: '/' :: _ => true
  | _ => false

/-- Files and directories by the names of their locations. -/
structure FileSystem where
  entries : List (String × Node)

namespace FileSystem

/-- A file system without files. -/
def empty : FileSystem := ⟨[]⟩

/-- What there is at a location. -/
def node? (fs : FileSystem) (location : Location) : Option Node :=
  if isGiven location then some .directory else fs.entries.lookup (nameOf location)

/-- Whether there is a directory at a location. -/
def isDirectory (fs : FileSystem) (location : Location) : Bool :=
  match fs.node? location with
  | some .directory => true
  | _ => false

/-- Remove what there is at a location. -/
def erase (fs : FileSystem) (location : Location) : FileSystem :=
  let name := nameOf location
  ⟨fs.entries.filter fun entry => entry.1 ≠ name⟩

/-- Put something at a location, in place of what was there. -/
def put (fs : FileSystem) (location : Location) (node : Node) : FileSystem :=
  ⟨(fs.erase location).entries ++ [(nameOf location, node)]⟩

/-- Where a path starts. -/
def start (path : FilePath) : Location := if path.isAbsolute then ["/"] else []

/-- The location of an entry of a directory. -/
def step (location : Location) (part : String) : Location :=
  if part == "." then location else if part == ".." then above location else location ++ [part]

/-- The directory that some parts lead to. -/
def enter? (fs : FileSystem) (location : Location) : List String → Option Location
  | [] => some location
  | part :: rest =>
    if fs.isDirectory (step location part) then fs.enter? (step location part) rest else none

/-- The directory that some parts lead to, made as far as it is not there. Nothing is found where a
file is in the way or a name is unfit. -/
def makeDirectories (fs : FileSystem) (location : Location) :
    List String → Option Location × FileSystem
  | [] => (some location, fs)
  | part :: rest =>
    let next := step location part
    match fs.node? next with
    | some .directory => fs.makeDirectories next rest
    | some (.file _) => (none, fs)
    | none =>
      if isFitName part then (fs.put next .directory).makeDirectories next rest else (none, fs)

/-- The location of the file that a path means, if its directory is there. -/
def locate? (fs : FileSystem) (path : FilePath) : Option Location := do
  let name ← path.fileName?
  let directory ← fs.enter? (start path) path.parts.dropLast
  if path.isClosed || !path.isFit || !isFitName name then none else some (directory ++ [name])

/-- The content of a file. -/
def read? (fs : FileSystem) (path : FilePath) : Option ByteArray := do
  match fs.node? (← fs.locate? path) with
  | some (.file bytes) => some bytes
  | _ => none

/-- Write a file, if its directory is there and no directory has its name. -/
def write? (fs : FileSystem) (path : FilePath) (bytes : ByteArray) : Option FileSystem := do
  let location ← fs.locate? path
  if fs.isDirectory location then none else some (fs.put location (.file bytes))

/-- Let a file take the place of another, if no directory has its name. -/
def rename? (fs : FileSystem) (source target : FilePath) : Option FileSystem := do
  let source ← fs.locate? source
  let target ← fs.locate? target
  match fs.node? source, fs.node? target with
  | _, some .directory => none
  | some (.file bytes), _ => some ((fs.erase source).put target (.file bytes))
  | _, _ => none

/-- The extension of files whose content is not complete. -/
def unfinishedExtension : String := "tmp"

/-- Write a file whole, with the directories above it. Whether it succeeds or not, what was done up to
then stays. -/
def writeWhole (fs : FileSystem) (path : FilePath) (content : String) : Bool × FileSystem :=
  let (directory, fs) := match path.parent? with
    | some parent =>
      if parent.isFit && !parent.isBroken then fs.makeDirectories (start parent) parent.parts else (none, fs)
    | none => (some [], fs)
  match directory with
  | none => (false, fs)
  | some _ =>
    let unfinished := path.withExtension unfinishedExtension
    match fs.write? unfinished content.toUTF8 with
    | none => (false, fs)
    | some written =>
      match written.rename? unfinished path with
      | some renamed => (true, renamed)
      | none => (false, written)

/-- The files below the current directory, with their contents. -/
def files (fs : FileSystem) : List (String × ByteArray) :=
  fs.entries.filterMap fun entry =>
    match entry with
    | (name, .file bytes) => if isOutside name then none else some (name, bytes)
    | (_, .directory) => none

/-- The file system that holds the given files and the directories above them. -/
def ofFiles (files : List (FilePath × ByteArray)) : FileSystem :=
  files.foldl (fun fs file =>
    let (_, made) := fs.makeDirectories (start file.1) file.1.parts.dropLast
    (made.write? file.1 file.2).getD made) empty

end FileSystem

end ServiceTree
