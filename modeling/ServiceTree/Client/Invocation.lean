import ServiceTree.Client.Position
import ServiceTree.Http.Transport
import ServiceTree.Name.Spelling
import ServiceTree.Query.Literal

/-!
# Invoking operations

An operation becomes one exchange. Operations on resources send the primary argument as the body and
everything else in the query; actions gather whatever options are given into an envelope. Nothing is
sent unless the whole request can be built.
-/

namespace ServiceTree

/-- Add the query entry of a parameter, unless its option is absent or null. -/
def QueryParameter.addTo (options : Options) (query : Fields String) (parameter : QueryParameter) :
    Except ClientError (Fields String) :=
  match options.get? parameter.option with
  | none => .ok query
  | some value =>
    (Query.render parameter.option parameter.kind value).map fun
      | some text => query.insert parameter.tag text
      | none => query

/-- The query of an operation. -/
def buildQuery (parameters : List QueryParameter) (options : Options) :
    Except ClientError (Fields String) :=
  parameters.foldlM (QueryParameter.addTo options) []

/-- Give an option the type that its parameter is declared with. -/
def EnvelopeField.coerce (field : EnvelopeField) (value : Value) : Value :=
  match field.shape with
  | some shape => shape.coerce value
  | none => value

/-- Add an option to an envelope, if it is given. -/
def EnvelopeField.addTo (options : Options) (envelope : Fields Value) (field : EnvelopeField) :
    Fields Value :=
  match options.get? field.option with
  | some value => envelope.insert field.tag (field.coerce value)
  | none => envelope

/-- The envelope of an action. -/
def buildEnvelope (fields : List EnvelopeField) (options : Options) : Fields Value :=
  fields.foldl (EnvelopeField.addTo options) []

/-- Take a value out of an envelope, with the type it is declared with; a missing one is null. -/
def takeField (envelope : Fields Value) (tag : String) (shape : Option BodyShape) : Value :=
  let value := (envelope.find? tag).getD .null
  match shape with
  | some shape => shape.coerce value
  | none => value

/-- The outcome of reading or writing a body, as an outcome of the operation. -/
def liftCodec {A : Type} (outcome : Except CodecError A) : Except ClientError A :=
  outcome.mapError .codec

namespace OperationPlan

/-- The body of an operation on a resource. -/
def primaryBody (operation : OperationPlan) (argument : Option Value) :
    Except ClientError (Option ByteArray) :=
  match operation.primary, argument with
  | none, _ => .ok none
  | some primary, none => .error (.missingArgument operation.identifier primary.identifier)
  | some primary, some value => (liftCodec (primary.shape.write (primary.shape.coerce value))).map some

/-- The request of an operation on a resource. The query is built first, then the body. -/
def resourceRequest (operation : OperationPlan) (path : String) (argument : Option Value)
    (options : Options) : Except ClientError Request := do
  let query ← buildQuery operation.query options
  let body ← operation.primaryBody argument
  let bare := (Request.new operation.verb path).withQuery query
  return ((body.map bare.withBody).getD bare).withOptions options

/-- What an operation on a resource makes of a response. A body that is empty reads as null. -/
def resourceResult (operation : OperationPlan) (response : Response) : Except ClientError Value :=
  if !operation.successCodes.contains response.status then .error (.fault response.fault)
  else match operation.response with
    | .body shape => if response.body.isEmpty then .ok .null else liftCodec (shape.read response.body)
    | _ => .ok .null

/-- The path of an action. -/
def actionPath (operation : OperationPlan) (path : String) : String :=
  joinPath path (operation.actionSegment.getD "")

/-- The request of an action. -/
def actionRequest (operation : OperationPlan) (path : String) (options : Options) :
    Except ClientError Request := do
  let envelope := buildEnvelope operation.envelope options
  let body ← liftCodec (Body.writeOne actionType (.struct actionType envelope))
  return ((Request.new operation.verb (operation.actionPath path)).withBody body).withOptions options

/-- What an action makes of a response. -/
def actionResult (operation : OperationPlan) (response : Response) : Except ClientError Value := do
  let envelope ← response.envelope
  match operation.response with
  | .actionField tag shape => return takeField envelope tag shape
  | _ => return .null

/-- The exchange of an operation at a path. -/
def call (operation : OperationPlan) (path : String) (argument : Option Value) (options : Options) :
    Call Value :=
  match operation.strategy with
  | .action => (operation.actionRequest path options).map (⟨·, operation.actionResult⟩)
  | _ => (operation.resourceRequest path argument options).map (⟨·, operation.resourceResult⟩)

end OperationPlan

/-- Invoke a method by any spelling of its name. -/
def Position.invoke (position : Position) (spelling : String) (argument : Option Value)
    (options : Options) : Call Value :=
  match position.service.operation? (.parse spelling) with
  | none => .error (.unknownMethod position.typeName spelling)
  | some operation => operation.call position.path argument options

end ServiceTree
