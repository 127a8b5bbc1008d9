import ServiceTree.Text.Split

/-!
# Paths of files

A path is a list of parts between slashes. Empty parts do not count, and neither does a single dot
behind another part. A path that ends with a slash can only mean a directory.
-/

namespace ServiceTree

/-- A path of a file or directory. -/
structure FilePath where
  isAbsolute : Bool
  parts : List String
  /-- Whether the path ends with a slash, or with a part that does not count. -/
  isClosed : Bool
  deriving DecidableEq, Repr

namespace FilePath

/-- Whether a piece does not count. -/
def isIdle (piece : String) : Bool := piece.isEmpty || piece == "."

/-- The parts among the pieces of a path; the dot that a relative path begins with is one. -/
def partsOf (isAbsolute : Bool) (pieces : List String) : List String :=
  match pieces with
  | first :: rest =>
    if !isAbsolute && first == "." then first :: rest.filter fun piece => !isIdle piece
    else (first :: rest).filter fun piece => !isIdle piece
  | [] => []

/-- The path that a text writes. -/
def ofText (text : String) : FilePath :=
  let pieces := (Text.pieces (· == '/') text.toList).map String.ofList
  let isAbsolute := text.toList.head? = some '/'
  let parts := partsOf isAbsolute pieces
  { isAbsolute := isAbsolute
    parts := parts
    isClosed := 1 < pieces.length && pieces.getLast?.any isIdle }

/-- The text of a path. -/
def write (path : FilePath) : String :=
  (if path.isAbsolute then "/" else "") ++ "/".intercalate path.parts

/-- The path of an entry of a directory. -/
def child (path : FilePath) (name : String) : FilePath :=
  { path with parts := path.parts ++ [name], isClosed := false }

/-- The path without its last part, if it has one. -/
def parent? (path : FilePath) : Option FilePath :=
  if path.parts.isEmpty then none
  else some { path with parts := path.parts.dropLast, isClosed := false }

/-- Whether there is nothing in the path. -/
def isEmpty (path : FilePath) : Bool := !path.isAbsolute && path.parts.isEmpty

/-- The name of the file that the path means, if its last part is a name. -/
def fileName? (path : FilePath) : Option String :=
  path.parts.getLast?.filter fun part => part ≠ "." && part ≠ ".."

/-- A name cut at its last dot into stem and extension. A dot at the beginning cuts nothing. -/
def cutName (name : List Char) : List Char × Option (List Char) :=
  let extension := (name.reverse.takeWhile (· ≠ '.')).reverse
  let stem := name.take (name.length - extension.length - 1)
  if !name.contains '.' || stem.isEmpty then (name, none) else (stem, some extension)

/-- The extension of the file that the path means; nothing is an extension too. -/
def extension (path : FilePath) : String :=
  match path.fileName? with
  | some name => String.ofList (((cutName name.toList).2).getD [])
  | none => ""

/-- The name with another extension. Of a name whose stem is a dot only the two dots are left, which
name the directory above, unless something stood behind the name. -/
def nameWithExtension (name extension : String) (isClosed : Bool) : String :=
  let (stem, _) := cutName name.toList
  if stem = ['.'] && !isClosed then ".." else String.ofList stem ++ "." ++ extension

/-- The path with another extension. -/
def withExtension (path : FilePath) (extension : String) : FilePath :=
  match path.fileName? with
  | some name =>
    { path with
      parts := path.parts.dropLast ++ [nameWithExtension name extension path.isClosed]
      isClosed := false }
  | none => path

/-- Whether a path is short enough to be looked up. -/
def isFit (path : FilePath) : Bool := path.write.utf8ByteSize < 4096

/-- Whether a character ends the path before its end. -/
def isBroken (path : FilePath) : Bool := path.parts.any fun part => part.toList.contains '\x00'

end FilePath

end ServiceTree
