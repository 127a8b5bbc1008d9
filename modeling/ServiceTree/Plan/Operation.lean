import ServiceTree.Plan.Basic

/-!
# Planning an operation

The strategy of a method decides its verb, which parameters travel in the body, the query and the
envelope, and what the response yields.
-/

namespace ServiceTree

namespace Strategy

/-- The verb of a strategy. -/
def verb : Strategy → Verb
  | .add => .post
  | .get => .get
  | .list => .get
  | .update => .put
  | .remove => .delete
  | .action => .post

end Strategy

/-- The query parameters of a list of parameters. -/
def queryParameters (parameters : List Parameter) : List QueryParameter :=
  parameters.map fun p => ⟨p.name.identifier, p.name.tag, p.type.primitiveKind?⟩

namespace Method

/-- The parameter sent as the body of an addition or an update. -/
def bodyParameter? (method : Method) : Option BodyParameter :=
  if method.strategy.sendsPrimary then
    method.primary?.bind fun p =>
      (BodyShape.forType? p.type).map fun shape => ⟨p.name.identifier, shape⟩
  else none

/-- The parameters sent in the query. -/
def query (method : Method) : List QueryParameter :=
  match method.strategy with
  | .add | .update => queryParameters method.secondary
  | .get | .list | .remove => queryParameters method.inputs
  | .action => []

/-- The parameters carried in the envelope of an action. -/
def envelope (method : Method) : List EnvelopeField :=
  match method.strategy with
  | .action => method.parameters.map fun p =>
      ⟨p.name.identifier, p.name.tag, BodyShape.forType? p.type⟩
  | _ => []

/-- The body as the response, or nothing where there is no shape to read it with. -/
def bodyResponse : Option BodyShape → ResponsePlan
  | some shape => .body shape
  | none => .empty

/-- What a successful response yields. -/
def response (method : Method) : ResponsePlan :=
  match method.strategy with
  | .add | .update => bodyResponse (method.bodyParameter?.map BodyParameter.shape)
  | .get | .list => bodyResponse (method.mainOutput?.bind fun p => BodyShape.forType? p.type)
  | .remove => .empty
  | .action =>
    match method.actionOutput? with
    | some p => .actionField p.name.tag (BodyShape.forType? p.type)
    | none => .empty

/-- What the documentation calls the primary parameter. -/
def primaryWord (method : Method) : String :=
  match method.primary? with
  | some p => p.name.identifier
  | none => "object"

/-- The documentation of a method that has none. -/
def defaultDoc (method : Method) : String :=
  match method.strategy with
  | .add => "Adds a new `" ++ method.primaryWord ++ "`."
  | .get | .list => "Returns the representation of the object managed by this service."
  | .update => "Updates the `" ++ method.primaryWord ++ "`."
  | .remove => "Deletes the object managed by this service."
  | .action => "Executes the `" ++ method.name.identifier ++ "` method."

/-- The plan of a method. -/
def plan (method : Method) : OperationPlan :=
  { name := method.name
    identifier := method.name.identifier
    strategy := method.strategy
    verb := method.strategy.verb
    actionSegment := if method.strategy = .action then some method.name.segment else none
    successCodes := method.strategy.successCodes
    primary := method.bodyParameter?
    query := method.query
    envelope := method.envelope
    response := method.response
    doc := method.doc.getD method.defaultDoc }

end Method

end ServiceTree
