import ServiceTree.Http.Connection

/-!
# Transports and exchanges

A transport answers requests and may change its state in doing so. An operation prepares at most one
request and says what to make of the response; preparing and completing are pure, and only running the
exchange involves a transport. The recording transport answers from a queue and keeps what it was
asked.
-/

namespace ServiceTree

/-- How requests are answered, from a state that may change. -/
structure Transport (S : Type) where
  send : S → Request → Except TransportError Response × S

/-- A request, and what to make of its response. -/
structure Exchange (A : Type) where
  request : Request
  complete : Response → Except ClientError A

/-- An operation: it fails before anything is sent, or has one request to send. -/
abbrev Call (A : Type) := Except ClientError (Exchange A)

/-- Run an operation on a transport. -/
def Call.run {S A : Type} (transport : Transport S) (connection : Connection) (state : S)
    (call : Call A) : Except ClientError A × S :=
  match call with
  | .error error => (.error error, state)
  | .ok exchange =>
    match transport.send state (connection.outgoing exchange.request) with
    | (.error error, state) => (.error (.transport error), state)
    | (.ok response, state) => (exchange.complete response, state)

/-- Responses that wait to be given, and the requests received so far, both in order. -/
structure Recording where
  queue : List Response
  log : List Request

namespace Recording

/-- A recording without responses. -/
def empty : Recording := ⟨[], []⟩

/-- Queue a response. -/
def respond (recording : Recording) (response : Response) : Recording :=
  { recording with queue := recording.queue ++ [response] }

/-- What a request is answered when no response waits. -/
def exhausted (request : Request) : TransportError :=
  .connection ("No response queued for " ++ request.verb.word ++ " " ++ request.path)

/-- Keep a request and answer it with the response that has waited longest. -/
def send (recording : Recording) (request : Request) : Except TransportError Response × Recording :=
  let log := recording.log ++ [request]
  match recording.queue with
  | [] => (.error (exhausted request), ⟨[], log⟩)
  | response :: rest => (.ok response, ⟨rest, log⟩)

/-- The transport that records. -/
def transport : Transport Recording := ⟨send⟩

end Recording

end ServiceTree
