import ServiceTree.Http.Percent
import ServiceTree.Text.Split

/-!
# Paths of addresses

A path is made of segments, each behind a slash, and none of them is made of dots: a single dot stands
for nothing, a double one for the segment in front of it. A segment that names a drive is never left. In
the address of a file a drive that stands first is written with a colon.
-/

namespace ServiceTree

/-- The path of a URL. -/
inductive UrlPath where
  /-- Text without segments. -/
  | text (text : List Char)
  /-- Segments, each behind a slash. -/
  | segments (segments : List (List Char))
  deriving DecidableEq, Repr

/-- What a scheme means for the host and the path of its addresses. -/
inductive SchemeKind where
  /-- There is a host, and a path. -/
  | web
  /-- There may be a host, and a path that may begin with a drive. -/
  | file
  /-- There may be anything. -/
  | other
  deriving DecidableEq, Repr

/-- Whether a character separates segments. -/
def SchemeKind.isSlash (kind : SchemeKind) (c : Char) : Bool :=
  c == '/' || (kind != .other && c == '\\')

namespace UrlPath

/-- A segment that stands for the segment in front of it. -/
def isDouble (segment : List Char) : Bool :=
  ["..", ".%2e", "%2e.", "%2e%2e"].contains (String.ofList (segment.map Char.toLower))

/-- A segment that stands for nothing. -/
def isSingle (segment : List Char) : Bool :=
  [".", "%2e"].contains (String.ofList (segment.map Char.toLower))

/-- A segment that names a drive: a letter with a colon or a bar. -/
def isDrive : List Char → Bool
  | [letter, mark] => letter.isAlpha && (mark == ':' || mark == '|')
  | _ => false

/-- A drive with a colon. -/
def driveWithColon (segment : List Char) : List Char :=
  if isDrive segment then segment.take 1 ++ [':'] else segment

/-- The segments without the last one, unless that is a drive. -/
def parent (segments : List (List Char)) : List (List Char) :=
  if (segments.getLast?).any isDrive then segments else segments.dropLast

/-- The segments with one more behind them. -/
def push (kind : SchemeKind) (segments : List (List Char)) (segment : List Char) : List (List Char) :=
  segments ++ [if kind = .file ∧ segments = [] then driveWithColon segment else segment]

/-- Segments with dots followed, behind those kept so far. -/
def followDots (kind : SchemeKind) (kept : List (List Char)) : List (List Char) → List (List Char)
  | [] => kept
  | segment :: rest =>
    let ending := if rest.isEmpty then [[]] else []
    if isDouble segment then followDots kind (parent kept ++ ending) rest
    else if isSingle segment then followDots kind (kept ++ ending) rest
    else followDots kind (push kind kept (Percent.encode Percent.inPath segment)) rest

/-- The segments of a path, which may begin with a slash. -/
def readSegments (kind : SchemeKind) (path : List Char) : List (List Char) :=
  match path with
  | [] => if kind = .other then [] else [[]]
  | c :: rest => followDots kind [] (Text.pieces kind.isSlash (if kind.isSlash c then rest else c :: rest))

/-- Segments without the empty ones in front. -/
def withoutEmptyFront : List (List Char) → List (List Char)
  | [] => [[]]
  | [segment] => [segment]
  | segment :: rest => if segment.isEmpty then withoutEmptyFront rest else segment :: rest

/-- A path with a slash at its end. Where there are no segments, a slash in front would begin one and
is encoded. -/
def closed (kind : SchemeKind) : UrlPath → UrlPath
  | .text [] => .text ['%', '2', 'F']
  | .text plain => .text (if plain.getLast? = some '/' then plain else plain ++ ['/'])
  | .segments parts =>
    .segments (if parts.getLast? = some [] then parts else (parts ++ [[]]).foldl (push kind) [])

/-- The text of a path. -/
def write : UrlPath → List Char
  | .text plain => plain
  | .segments parts => parts.flatMap ('/' :: ·)

end UrlPath

end ServiceTree
