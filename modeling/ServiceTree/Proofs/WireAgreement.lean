import ServiceTree.Client.Invocation
import ServiceTree.Emit.Execution
import ServiceTree.Proofs.Outcome

/-!
# Emitted methods on the wire

An emitted method and an interpreted operation prepare their request in different ways: the method
runs statements on local variables and writes the body before it builds the query, the interpreter
builds the query first. Both send the same request or none, and make the same of every response. Where
nothing is sent the two may report different errors, since either may fail first.
-/

namespace ServiceTree

/-- A transport beside the requests that it has been handed, in order. -/
def Transport.observed {S : Type} (transport : Transport S) : Transport (S × List Request) :=
  ⟨fun state request =>
    ((transport.send state.1 request).1, (transport.send state.1 request).2, state.2 ++ [request])⟩

namespace Call

end Call

namespace BodyShape

/-- The code that gives a value its type does what the interpreter does. -/
theorem coerceRun_eq (shape : BodyShape) (value : Value) :
    shape.coerceRun value = shape.coerce value := by
  cases shape <;> rfl

/-- The code that writes a body does what the interpreter does. -/
theorem writeRun_eq (shape : BodyShape) (value : Value) :
    shape.writeRun value = shape.write value := by
  cases shape with
  | one name => rfl
  | many name =>
    simp only [writeRun, write]
    cases value.items? <;> rfl

end BodyShape

/-- The code that gives an option its declared type does what the interpreter does. -/
theorem coercedRun_eq (field : EnvelopeField) (value : Value) :
    coercedRun field.shape value = field.coerce value := by
  unfold coercedRun EnvelopeField.coerce
  cases field.shape with
  | none => rfl
  | some shape => exact shape.coerceRun_eq value

section Statements

variable {argument : Value} {options : Options} {locals : Locals}

/-- The first statement is run before the others. -/
theorem runStatements_cons (statement : Statement) (rest : List Statement) :
    runStatements argument options locals (statement :: rest) =
      (Statement.run argument options locals statement >>= fun locals =>
        runStatements argument options locals rest) :=
  List.foldlM_cons

/-- Statements in front are run before the others. -/
theorem runStatements_append (front rest : List Statement) :
    runStatements argument options locals (front ++ rest) =
      (runStatements argument options locals front >>= fun locals =>
        runStatements argument options locals rest) :=
  List.foldlM_append

/-- A single statement is run by itself. -/
theorem runStatements_singleton (statement : Statement) :
    runStatements argument options locals [statement] =
      Statement.run argument options locals statement := by
  rw [runStatements_cons]
  exact bind_pure _

/-- A statement that adds to the query changes the query as the interpreter does. -/
theorem addQuery_run (parameter : QueryParameter) :
    Statement.run argument options locals (.addQuery parameter) =
      (parameter.addTo options locals.query).map fun query => { locals with query := query } := by
  simp only [Statement.run, optionText, QueryParameter.addTo]
  cases options.get? parameter.option with
  | none => rfl
  | some value =>
    simp only []
    rcases Query.render parameter.option parameter.kind value with error | text
    · rfl
    · cases text <;> rfl

/-- The statements that add to the query change the query as the interpreter does. -/
theorem addQueries_run (parameters : List QueryParameter) :
    runStatements argument options locals (parameters.map .addQuery) =
      (parameters.foldlM (QueryParameter.addTo options) locals.query).map
        fun query => { locals with query := query } := by
  induction parameters generalizing locals with
  | nil => rfl
  | cons parameter rest ih =>
    rw [List.map_cons, runStatements_cons, List.foldlM_cons, addQuery_run]
    rcases parameter.addTo options locals.query with error | query
    · rfl
    · exact ih

/-- The statements that build a query build that of the interpreter. -/
theorem queryStatements_run (parameters : List QueryParameter) (hquery : locals.query = []) :
    runStatements argument options locals (MethodCode.queryStatements parameters) =
      (buildQuery parameters options).map fun query => { locals with query := query } := by
  unfold MethodCode.queryStatements
  split
  case isTrue hempty =>
    rw [List.isEmpty_iff.mp hempty, buildQuery]
    change Except.ok locals = Except.ok { locals with query := [] }
    rw [← hquery]
  case isFalse => exact addQueries_run parameters

/-- The statements that write the argument as the body do what the interpreter does. -/
theorem bodyStatements_run (identifier : Identifier) (shape : BodyShape) :
    runStatements argument options locals (MethodCode.bodyStatements identifier shape) =
      (liftCodec (shape.write (shape.coerce argument))).map fun body =>
        { locals with value := shape.coerce argument, body := body } := by
  have hcoerce : Statement.run argument options locals (.coerceArgument identifier shape) =
      .ok { locals with value := shape.coerce argument } := by
    rw [Statement.run, shape.coerceRun_eq]
  rw [MethodCode.bodyStatements, runStatements_cons, hcoerce]
  change runStatements argument options { locals with value := shape.coerce argument } _ = _
  rw [runStatements_singleton, Statement.run, shape.writeRun_eq]
  cases shape.write (shape.coerce argument) <;> rfl

/-- A statement that copies an option into the envelope changes it as the interpreter does. -/
theorem setField_run (field : EnvelopeField) :
    Statement.run argument options locals (.setField field) =
      .ok { locals with envelope := field.addTo options locals.envelope } := by
  simp only [Statement.run, EnvelopeField.addTo]
  cases options.get? field.option with
  | none => rfl
  | some value => simp only [coercedRun_eq]

/-- The statements that copy options into the envelope change it as the interpreter does. -/
theorem setFields_run (fields : List EnvelopeField) :
    runStatements argument options locals (fields.map .setField) =
      .ok { locals with envelope := fields.foldl (EnvelopeField.addTo options) locals.envelope } := by
  induction fields generalizing locals with
  | nil => rfl
  | cons field rest ih =>
    rw [List.map_cons, runStatements_cons, setField_run, List.foldl_cons]
    exact ih

/-- The statements of an action write the envelope of the interpreter. -/
theorem envelopeStatements_run (fields : List EnvelopeField) :
    runStatements argument options locals (MethodCode.envelopeStatements fields) =
      (liftCodec (Body.writeOne actionType (.struct actionType (buildEnvelope fields options)))).map
        fun body => { locals with envelope := buildEnvelope fields options, body := body } := by
  rw [MethodCode.envelopeStatements, runStatements_cons]
  change runStatements argument options { locals with envelope := [] } _ = _
  rw [runStatements_append, setFields_run]
  change runStatements argument options { locals with envelope := buildEnvelope fields options } _ = _
  rw [runStatements_singleton, Statement.run]
  cases Body.writeOne actionType (.struct actionType (buildEnvelope fields options)) <;> rfl

end Statements

namespace MethodCode

variable {operation : OperationPlan} {method : MethodCode}

/-- The method of an action prepares the request of the interpreter. -/
theorem ofAction_run (h : ofAction operation = .ok method) (path : String) (argument : Value)
    (options : Options) :
    method.run path argument options = (operation.actionRequest path options).map
      (⟨·, fun response => (actionEnding operation.response).run response⟩) := by
  obtain ⟨name, _, h⟩ := Outcome.bind_eq_ok.mp h
  cases h
  simp only [run, OperationPlan.actionRequest, envelopeStatements_run]
  cases liftCodec (Body.writeOne actionType
    (.struct actionType (buildEnvelope operation.envelope options))) <;> rfl

/-- A request takes the query that was built, also where there was nothing to build. -/
theorem withQuery_of_built {options : Options} {query : Fields String}
    (hquery : buildQuery operation.query options = .ok query) (request : Request) :
    (if (!operation.query.isEmpty) = true then request.withQuery query else request) =
      request.withQuery query := by
  cases hparameters : operation.query with
  | nil =>
    rw [hparameters] at hquery
    cases hquery
    rfl
  | cons parameter rest => rfl

/-- The method of an operation on a resource makes the body of the argument, then the query of the
options, and of both the request. -/
theorem ofResource_run (h : ofResource operation = .ok method) (path : String)
    {argument : Option Value} (hargument : operation.primary.isSome → argument.isSome)
    (options : Options) :
    method.run path (argument.getD .null) options = (do
      let body ← operation.primaryBody argument
      let query ← buildQuery operation.query options
      let bare := (Request.new operation.verb path).withQuery query
      return ⟨((body.map bare.withBody).getD bare).withOptions options,
        fun response => (Ending.byStatus operation.successCodes (successCode operation)).run response⟩ :
      Except ClientError (Exchange Returned)) := by
  obtain ⟨name, _, h⟩ := Outcome.bind_eq_ok.mp h
  cases hprimary : operation.primary with
  | none =>
    rw [hprimary] at h
    cases h
    rw [run, queryStatements_run operation.query rfl]
    simp only [OperationPlan.primaryBody, hprimary]
    cases hquery : buildQuery operation.query options with
    | error error => rfl
    | ok query =>
      have hrequest := withQuery_of_built hquery (Request.new operation.verb path)
      simp only [RequestCode.run, RequestCode.pathRun, Except.map, hrequest]
      rfl
  | some primary =>
    rw [hprimary] at h
    obtain ⟨identifier, _, h⟩ := Outcome.bind_eq_ok.mp h
    cases h
    obtain ⟨value, rfl⟩ := Option.isSome_iff_exists.mp (hargument (by rw [hprimary]; rfl))
    rw [run, runStatements_append, bodyStatements_run]
    simp only [OperationPlan.primaryBody, hprimary, Option.getD_some]
    cases liftCodec (primary.shape.write (primary.shape.coerce value)) with
    | error error => rfl
    | ok body =>
      have hqueried : runStatements value options
          { Locals.unassigned with value := primary.shape.coerce value, body := body }
          (queryStatements operation.query) = _ := queryStatements_run operation.query rfl
      simp only [Except.map, bind, Except.bind, hqueried]
      cases hquery : buildQuery operation.query options with
      | error error => rfl
      | ok query =>
        have hrequest := withQuery_of_built hquery (Request.new operation.verb path)
        simp only [RequestCode.run, RequestCode.pathRun, hrequest]
        rfl

end MethodCode

end ServiceTree
