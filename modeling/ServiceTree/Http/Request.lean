import ServiceTree.Value.Basic

/-!
# Requests, responses and options

Requests are addressed by a path relative to the root of a service tree. Options are what a caller
gives with an operation: named values, and headers and query entries that are merged into the request
last and so replace what the operation itself puts there.
-/

namespace ServiceTree

/-- The verbs of operations. -/
inductive Verb where
  | get
  | post
  | put
  | delete
  deriving DecidableEq, Repr, Inhabited

namespace Verb

/-- The word for a verb. -/
def word : Verb → String
  | .get => "GET"
  | .post => "POST"
  | .put => "PUT"
  | .delete => "DELETE"

/-- All verbs. -/
def all : List Verb := [.get, .post, .put, .delete]

/-- The verb that a word names. -/
def ofWord? (text : String) : Option Verb := all.find? fun verb => verb.word == text

end Verb

/-- The path of a child: the root has an empty path, and its children are addressed by their segment
alone. -/
def joinPath (path segment : String) : String :=
  if path.isEmpty then segment else path ++ "/" ++ segment

/-- What a caller gives with an operation. -/
structure Options where
  values : Fields Value
  headers : Fields String
  query : Fields String
  deriving Inhabited

namespace Options

/-- No options. -/
def empty : Options := ⟨[], [], []⟩

/-- The value of an option, if it was given. -/
def get? (options : Options) (key : String) : Option Value := options.values.find? key

end Options

/-- A request relative to the root of a service tree. -/
structure Request where
  verb : Verb
  path : String
  headers : Fields String
  query : Fields String
  body : Option ByteArray

namespace Request

/-- A bare request. -/
def new (verb : Verb) (path : String) : Request := ⟨verb, path, [], [], none⟩

/-- The request with more query entries. -/
def withQuery (request : Request) (query : Fields String) : Request :=
  { request with query := request.query.extend query }

/-- The request with a body. -/
def withBody (request : Request) (body : ByteArray) : Request := { request with body := some body }

/-- The request with the headers and query entries of the options merged in. -/
def withOptions (request : Request) (options : Options) : Request :=
  { request with
    headers := request.headers.extend options.headers
    query := request.query.extend options.query }

end Request

/-- A response. -/
structure Response where
  status : UInt16
  headers : Fields String
  body : ByteArray

end ServiceTree
