import ServiceTree.Client.Error
import ServiceTree.Http.Request
import ServiceTree.Http.Url

/-!
# Endpoints

An endpoint is the address under which a service tree is served. The paths of requests are appended to
it segment by segment, so that no character of an argument can leave its segment, and dots as segments
are left out. What cannot be sent is refused before anything is sent.
-/

namespace ServiceTree

/-- The address under which a service tree is served. Its path ends with a slash, or is text. -/
structure Endpoint where
  base : Url
  deriving DecidableEq, Repr

namespace Endpoint

/-- The endpoint of an address. -/
def ofUrl (url : Url) : Endpoint := ⟨{ url with path := url.path.closed url.kind }⟩

/-- Segments to append to: one empty segment is no segment yet. -/
def opened (segments : List (List Char)) : List (List Char) :=
  if segments = [[]] then [] else segments

/-- Whether a segment goes on behind a drive, from whose colon it is parted by characters that are left
out. -/
def goesOnBehindDrive (segment : List Char) : Bool :=
  match segment.filter fun c => !Url.isDropped c with
  | letter :: ':' :: _ :: _ =>
    letter.isAlpha && (((segment.dropWhile (· ≠ ':')).drop 1).head?).any Url.isDropped
  | _ => false

/-- Append a segment to a path. Dots that only appear when other characters are left out close the path, and a
drive at the front of a file's path is a segment of its own. -/
def appendSegment (kind : SchemeKind) (path : List (List Char)) (segment : List Char) :
    List (List Char) :=
  let kept := segment.filter fun c => !Url.isDropped c
  let encoded := Percent.encode (Percent.inSegment (kind != .other))
  -- A double dot closes the path in the place of its last segment, a single one behind it.
  if kept = ['.', '.'] then UrlPath.parent (opened path) ++ [[]]
  else if kept = ['.'] then opened path ++ [[]]
  else if kind = .file && (opened path).isEmpty && goesOnBehindDrive segment then
    [kept.take 2, encoded (kept.drop 2)]
  else UrlPath.push kind (opened path) (encoded kept)

/-- The segments of a request path that are appended. -/
def requestSegments (path : String) : List (List Char) :=
  (Text.pieces (· == '/') path.toList).filter fun segment => !segment.isEmpty

/-- Whether a segment is made of dots. -/
def isDots (segment : List Char) : Bool := segment == ['.'] || segment == ['.', '.']

/-- The path with the last segment removed if it is empty. A path always keeps one segment. -/
def withoutClosing (segments : List (List Char)) : List (List Char) :=
  if segments.getLast? = some [] && 1 < segments.length then segments.dropLast else segments

/-- An entry of a query. -/
def entryText (entry : String × String) : List Char :=
  Percent.encodeForm entry.1.toList ++ '=' :: Percent.encodeForm entry.2.toList

/-- The query with more entries behind it. -/
def extendQuery (query : Option (List Char)) (entries : Fields String) : Option (List Char) :=
  if entries.isEmpty then query
  else
    let before := query.getD []
    some (before ++ (if before.isEmpty then [] else ['&']) ++
      List.intercalate ['&'] (entries.map entryText))

/-- The path for a request path, where the base has segments. -/
def extendPath (endpoint : Endpoint) (path : String) : Except TransportError UrlPath :=
  let segments := requestSegments path
  if segments.isEmpty then .ok endpoint.base.path
  else match endpoint.base.path with
    | .text _ => .error .invalidUrl
    | .segments before =>
      let appended := segments.filter fun segment => !isDots segment
      .ok (.segments (appended.foldl (appendSegment endpoint.base.kind) (withoutClosing before)))

/-- The address for a request path and query. -/
def urlFor (endpoint : Endpoint) (path : String) (query : Fields String) :
    Except TransportError Url := do
  let extended ← endpoint.extendPath path
  return { endpoint.base with path := extended, query := extendQuery endpoint.base.query query }

/-- Whether a character may stand in the name of a header. -/
def isTokenChar (c : Char) : Bool :=
  c.isAlphanum ||
    ['!', '#', '$', '%', '&', '\x27', '*', '+', '-', '.', '^', '_', '\x60', '|', '~'].contains c

/-- Whether a character may stand in the value of a header. -/
def isValueChar (c : Char) : Bool := c == '\t' || (0x20 ≤ c.toNat && c.toNat ≠ 0x7f)

/-- Whether a text can name a header. -/
def isHeaderName (name : String) : Bool :=
  !name.isEmpty && name.utf8ByteSize < UInt16.size && name.toList.all isTokenChar

/-- What is wrong with a header, its name first. -/
def headerProblem? (name value : String) : Option HeaderProblem :=
  if !isHeaderName name then some .name
  else if value.toList.all isValueChar then none
  else some .value

/-- Check a header. -/
def checkHeader (name value : String) : Except TransportError Unit :=
  match headerProblem? name value with
  | some problem => .error (.invalidHeader name problem)
  | none => .ok ()

/-- The address that a request is sent to, unless it or a header cannot be sent. -/
def address (endpoint : Endpoint) (request : Request) : Except TransportError Url := do
  let url ← endpoint.urlFor request.path request.query
  request.headers.forM fun header => checkHeader header.1 header.2
  return url

end Endpoint

end ServiceTree
