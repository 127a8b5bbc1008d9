import ServiceTree.Body.Codec

/-!
# Errors of a client

Everything that can keep an operation from its result: a fault reported by the server, a transport
that gave no response, a body that cannot be written or read, an option that does not fit, and names
and paths that lead nowhere.
-/

namespace ServiceTree

/-- A fault reported by the server. The status is always known; the rest comes from the body. -/
structure Fault where
  status : UInt16
  reason : Option String
  detail : Option String
  deriving DecidableEq, Repr

namespace Fault

/-- A fault of which only the status is known. -/
def ofStatus (status : UInt16) : Fault := ⟨status, none, none⟩

/-- The fault in words. -/
def message (fault : Fault) : String :=
  (match fault.reason with
    | some reason => "Fault reason is \"" ++ reason ++ "\". "
    | none => "") ++
  (match fault.detail with
    | some detail => "Fault detail is \"" ++ detail ++ "\". "
    | none => "") ++
  "HTTP response code is " ++ toString fault.status.toNat ++ "."

end Fault

/-- What is wrong with a header. -/
inductive HeaderProblem where
  | name
  | value
  deriving DecidableEq, Repr

namespace HeaderProblem

/-- The problem in words. -/
def message : HeaderProblem → String
  | .name => "invalid HTTP header name"
  | .value => "failed to parse header value"

end HeaderProblem

/-- Why no response was obtained. -/
inductive TransportError where
  /-- No connection could be made. -/
  | connection (text : String)
  /-- The address of the request cannot be built. -/
  | invalidUrl
  /-- A header cannot be sent. -/
  | invalidHeader (name : String) (problem : HeaderProblem)
  deriving DecidableEq, Repr

namespace TransportError

/-- The error in words. -/
def message : TransportError → String
  | .connection text => "Connection failed: " ++ text
  | .invalidUrl => "Invalid URL"
  | .invalidHeader name problem => "Invalid header '" ++ name ++ "': " ++ problem.message

/-- Whether sending the request once more may succeed. -/
def isRetryable : TransportError → Bool
  | .connection _ => true
  | _ => false

end TransportError

/-- Why an operation or a path has no result. -/
inductive ClientError where
  | fault (fault : Fault)
  /-- No locator leads along the rest of a path. -/
  | noSuchService (path : String)
  | transport (error : TransportError)
  | codec (error : CodecError)
  /-- An option value does not fit where it was given. -/
  | invalidOption (name problem : String)
  | missingArgument (method argument : String)
  | unknownMethod (service method : String)
  | unknownLocator (service locator : String)
  deriving DecidableEq, Repr

namespace ClientError

/-- The error in words. -/
def message : ClientError → String
  | .fault report => report.message
  | .noSuchService path => "The path '" ++ path ++ "' doesn't correspond to any service"
  | .transport cause => cause.message
  | .codec cause => cause.message
  | .invalidOption name problem => "Invalid value for option '" ++ name ++ "': " ++ problem
  | .missingArgument method argument =>
    "Method '" ++ method ++ "' requires the '" ++ argument ++ "' argument"
  | .unknownMethod service method => "Service '" ++ service ++ "' has no method '" ++ method ++ "'"
  | .unknownLocator service locator =>
    "Service '" ++ service ++ "' has no locator '" ++ locator ++ "'"

end ClientError

end ServiceTree
