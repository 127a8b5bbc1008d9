import ServiceTree.Http.Request
import ServiceTree.Body.Shape
import ServiceTree.Client.Error
import ServiceTree.Text.Quoted

/-!
# Connections

A connection knows the type under which bodies are announced and how responses report failure. A
faulty response may describe its fault in the body; an action reports failure inside the envelope of
a response that otherwise succeeded.
-/

namespace ServiceTree

/-- The settings shared by all services of a client. -/
structure Connection where
  /-- The type under which bodies are announced. -/
  contentType : String
  deriving DecidableEq, Repr

/-- The structure name of action envelopes. -/
def actionType : String := "Action"

/-- The structure name of fault documents. -/
def faultType : String := "Fault"

/-- The header that announces the type of a body. -/
def contentTypeHeader : String := "Content-Type"

/-- A text with its ASCII capitals made small. -/
def asciiLower (text : String) : List Char := text.toList.map Char.toLower

namespace Connection

/-- Bodies are announced as documents of the object notation. -/
def standard : Connection := ⟨"application/json"⟩

/-- Whether the caller announced the body already, in whatever capitals. -/
def announcesBody (request : Request) : Bool :=
  request.headers.any fun header => asciiLower header.1 == asciiLower contentTypeHeader

/-- The request as the transport gets it: a body is announced unless the caller did so. -/
def outgoing (connection : Connection) (request : Request) : Request :=
  if request.body.isSome && !announcesBody request then
    { request with headers := request.headers.insert contentTypeHeader connection.contentType }
  else request

/-- The connection as it is displayed. -/
def display (connection : Connection) : String :=
  "Connection \x7b content_type: " ++ Text.quoted connection.contentType ++ ", .. \x7d"

end Connection

namespace Fault

/-- The fault with what the fields of a document say about it. -/
def withFields (fault : Fault) (fields : Fields Value) : Fault :=
  { fault with
    reason := ((fields.find? "reason").bind Value.text?).or fault.reason
    detail := ((fields.find? "detail").bind Value.text?).or fault.detail }

end Fault

namespace Response

/-- The fault that a response without success reports. A body that is no fault document adds nothing
to the status. -/
def fault (response : Response) : Fault :=
  let known := Fault.ofStatus response.status
  if response.body.isEmpty then known
  else match Body.readFields faultType response.body with
    | .ok fields => known.withFields fields
    | .error _ => known

/-- The fault that an action reports inside its envelope. -/
def envelopeFault? (status : UInt16) (envelope : Fields Value) : Option Fault :=
  match envelope.find? "fault" with
  | some (.struct _ fields) | some (.mapping fields) => some ((Fault.ofStatus status).withFields fields)
  | some _ => some (Fault.ofStatus status)
  | none =>
    if (envelope.find? "status").bind Value.text? = some "failed" then
      some ⟨status, some "Action failed", none⟩
    else none

/-- The envelope that an action returned, unless the response reports a fault or holds no envelope. -/
def envelope (response : Response) : Except ClientError (Fields Value) :=
  if response.status ≠ 200 then .error (.fault response.fault)
  else match Body.readFields actionType response.body with
    | .error error => .error (.codec error)
    | .ok fields =>
      match envelopeFault? response.status fields with
      | some fault => .error (.fault fault)
      | none => .ok fields

/-- The envelope that an action returned, as an instance of its structure. -/
def actionEnvelope (response : Response) : Except ClientError Value :=
  response.envelope.map (.struct actionType)

end Response

end ServiceTree
