import ServiceTree.Client.Invocation
import ServiceTree.Proofs.PlanInvariants

/-!
# What keeps an operation from its result

An operation that cannot be sent fails for one of a few reasons, all found before there is a request:
the method is unknown, the primary argument is missing or cannot be written, an option does not fit, or
an option holds a date that cannot be written at all. An operation that was answered fails for other
reasons: the response reports a fault, or it cannot be read. No reason is one of both kinds.
-/

namespace ServiceTree

/-! ## Dates that are sent -/

namespace Value

/-- Giving a value the type of a structure leaves its dates as they are. -/
theorem isOnCalendar_asStruct (typeName : String) (value : Value) :
    (value.asStruct typeName).isOnCalendar = value.isOnCalendar := by
  cases value <;> rfl

/-- Giving a value the type of a list leaves its dates as they are. -/
theorem isOnCalendar_asList (elementType : String) (value : Value) :
    (value.asList elementType).isOnCalendar = value.isOnCalendar := by
  cases value with
  | sequence items =>
    change itemsOnCalendar (items.map (asStruct elementType)) = itemsOnCalendar items
    induction items with
    | nil => rfl
    | cons item rest ih => rw [List.map_cons, itemsOnCalendar, itemsOnCalendar, ih, isOnCalendar_asStruct]
  | _ => rfl

/-- A field that is bound to a value with dates on the calendar keeps a map on the calendar. -/
theorem fieldsOnCalendar_insert (key : String) {value : Value} (hvalue : value.isOnCalendar = true)
    {fields : Fields Value} (hfields : fieldsOnCalendar fields = true) :
    fieldsOnCalendar (fields.insert key value) = true := by
  induction fields with
  | nil => simpa [Fields.insert, fieldsOnCalendar] using hvalue
  | cons field rest ih =>
    obtain ⟨own, kept⟩ := field
    obtain ⟨hkept, hrest⟩ := Bool.and_eq_true_iff.mp hfields
    rw [Fields.insert]
    split
    · exact Bool.and_eq_true_iff.mpr ⟨hvalue, hrest⟩
    · split
      · exact Bool.and_eq_true_iff.mpr ⟨hvalue, hfields⟩
      · exact Bool.and_eq_true_iff.mpr ⟨hkept, ih hrest⟩

end Value

/-- Coercing an option leaves its dates as they are. -/
theorem EnvelopeField.isOnCalendar_coerce (field : EnvelopeField) (value : Value) :
    (field.coerce value).isOnCalendar = value.isOnCalendar := by
  rw [coerce]
  split
  case h_1 shape _ =>
    cases shape with
    | one name => exact Value.isOnCalendar_asStruct name value
    | many name => exact Value.isOnCalendar_asList name value
  case h_2 => rfl

/-- Whether the calendar covers all dates in the options that are given. -/
def Options.OnCalendar (options : Options) : Prop :=
  ∀ key value, options.get? key = some value → value.isOnCalendar = true

/-- An envelope of options holds no dates but those of the options. -/
theorem buildEnvelope_onCalendar {options : Options} (hoptions : options.OnCalendar)
    (fields : List EnvelopeField) :
    Value.fieldsOnCalendar (buildEnvelope fields options) = true := by
  have hfold (envelope : Fields Value) (henvelope : Value.fieldsOnCalendar envelope = true) :
      Value.fieldsOnCalendar (fields.foldl (EnvelopeField.addTo options) envelope) = true := by
    induction fields generalizing envelope with
    | nil => exact henvelope
    | cons field rest ih =>
      refine ih _ ?_
      rw [EnvelopeField.addTo]
      split
      case h_1 value hvalue =>
        have hcoerced : (field.coerce value).isOnCalendar = true := by
          rw [field.isOnCalendar_coerce]
          exact hoptions _ value hvalue
        exact Value.fieldsOnCalendar_insert field.tag hcoerced henvelope
      case h_2 => exact henvelope
  exact hfold [] rfl

/-! ## Errors of preparing a request -/

/-- A value that cannot be rendered does not fit its option, or holds a date beyond the calendar. -/
theorem Query.render_eq_error {name : String} {kind : Option PrimitiveKind} {value : Value}
    {error : ClientError} (h : Query.render name kind value = .error error) :
    (∃ problem, error = .invalidOption name problem) ∨
      error = .codec .offCalendar ∧ value.isOnCalendar = false := by
  rw [Query.render] at h
  split at h
  · cases h
  · split at h
    · cases h
      exact .inl ⟨_, rfl⟩
    · simp only at h
      split at h
      · split at h
        · cases h
        case isFalse hdate =>
          cases h
          exact .inr ⟨rfl, by simpa using hdate⟩
      · cases h
        exact .inl ⟨_, rfl⟩

/-- A query that cannot be built has an option that does not fit its parameter, or a date beyond the
calendar. -/
theorem buildQuery_eq_error {parameters : List QueryParameter} {options : Options}
    {error : ClientError} (h : buildQuery parameters options = .error error) :
    (∃ parameter ∈ parameters, ∃ problem, error = .invalidOption parameter.option problem) ∨
      error = .codec .offCalendar ∧ ¬ options.OnCalendar := by
  obtain ⟨parameter, hparameter, query, hfails⟩ := Outcome.foldlM_eq_error h
  rw [QueryParameter.addTo] at hfails
  split at hfails
  · cases hfails
  case h_2 value hvalue =>
    rcases Query.render_eq_error (Outcome.map_eq_error.mp hfails) with ⟨problem, rfl⟩ | ⟨rfl, hdate⟩
    · exact .inl ⟨parameter, hparameter, problem, rfl⟩
    · refine .inr ⟨rfl, fun hoptions => ?_⟩
      rw [hoptions _ value hvalue] at hdate
      cases hdate

/-- Why an operation of a service is not sent. -/
inductive Refusal (service : ServicePlan) (spelling : String) (argument : Option Value)
    (options : Options) : ClientError → Prop
  | unknownMethod (typeName method : String) :
      Refusal service spelling argument options (.unknownMethod typeName method)
  | missingArgument (method primary : String) :
      Refusal service spelling argument options (.missingArgument method primary)
  | invalidOption (name problem : String) :
      Refusal service spelling argument options (.invalidOption name problem)
  /-- The primary argument cannot be written as the body of the operation. -/
  | unwritable {operation : OperationPlan} {primary : BodyParameter} {value : Value}
      {cause : CodecError} (hfound : service.operation? (.parse spelling) = some operation)
      (hprimary : operation.primary = some primary) (hargument : argument = some value)
      (hwritten : primary.shape.write (primary.shape.coerce value) = .error cause) :
      Refusal service spelling argument options (.codec cause)
  /-- An option holds a date that the calendar does not cover, for which there is no text. -/
  | offCalendar (hdates : ¬ options.OnCalendar) :
      Refusal service spelling argument options (.codec .offCalendar)

section Preparing

variable {service : ServicePlan} {spelling : String} {argument : Option Value} {options : Options}
  {operation : OperationPlan}

/-- A query that cannot be built keeps an operation from being sent. -/
theorem Refusal.of_buildQuery {parameters : List QueryParameter} {error : ClientError}
    (h : buildQuery parameters options = .error error) :
    Refusal service spelling argument options error := by
  rcases buildQuery_eq_error h with ⟨_, _, problem, rfl⟩ | ⟨rfl, hdates⟩
  · exact .invalidOption _ problem
  · exact .offCalendar hdates

/-- A body cannot be made if the primary argument is missing, or if its shape refuses it. -/
theorem OperationPlan.primaryBody_eq_error {error : ClientError}
    (h : operation.primaryBody argument = .error error) :
    (argument = none ∧ ∃ primary, operation.primary = some primary ∧
      error = .missingArgument operation.identifier primary.identifier) ∨
    ∃ primary value cause, operation.primary = some primary ∧ argument = some value ∧
      primary.shape.write (primary.shape.coerce value) = .error cause ∧ error = .codec cause := by
  rw [primaryBody.eq_def] at h
  split at h
  · cases h
  case h_2 primary hprimary =>
    cases h
    exact .inl ⟨rfl, primary, hprimary, rfl⟩
  case h_3 primary value hprimary =>
    rw [Outcome.map_eq_error, liftCodec] at h
    cases hwritten : primary.shape.write (primary.shape.coerce value) with
    | ok bytes =>
      rw [hwritten] at h
      cases h
    | error cause =>
      rw [hwritten] at h
      cases h
      exact .inr ⟨primary, value, cause, hprimary, rfl, hwritten, rfl⟩

/-- A body that cannot be made of the argument keeps an operation from being sent. -/
theorem Refusal.of_primaryBody (hfound : service.operation? (.parse spelling) = some operation)
    {error : ClientError} (h : operation.primaryBody argument = .error error) :
    Refusal service spelling argument options error := by
  rcases OperationPlan.primaryBody_eq_error h with ⟨_, primary, _, rfl⟩ |
    ⟨primary, value, cause, hprimary, hargument, hwritten, rfl⟩
  · exact .missingArgument _ _
  · exact .unwritable hfound hprimary hargument hwritten

/-- The body of an argument whose shape refuses it cannot be made. -/
theorem OperationPlan.primaryBody_of_unwritable {primary : BodyParameter} {value : Value}
    {cause : CodecError} (hprimary : operation.primary = some primary)
    (hwritten : primary.shape.write (primary.shape.coerce value) = .error cause) :
    operation.primaryBody (some value) = .error (.codec cause) := by
  simp only [OperationPlan.primaryBody, hprimary, hwritten]
  rfl

/-- An envelope that cannot be written keeps an action from being sent. -/
theorem Refusal.of_actionRequest {path : String} {error : ClientError}
    (h : operation.actionRequest path options = .error error) :
    Refusal service spelling argument options error := by
  rcases Outcome.bind_eq_error.mp h with h | ⟨body, _, h⟩
  · rw [liftCodec, Body.writeOne] at h
    split at h
    · cases h
    case isFalse hdates =>
      cases h
      exact .offCalendar fun hoptions => hdates (buildEnvelope_onCalendar hoptions _)
  · cases h

/-- A request that cannot be built keeps an operation on a resource from being sent. -/
theorem Refusal.of_resourceRequest (hfound : service.operation? (.parse spelling) = some operation)
    {path : String} {error : ClientError}
    (h : operation.resourceRequest path argument options = .error error) :
    Refusal service spelling argument options error := by
  rcases Outcome.bind_eq_error.mp h with h | ⟨query, _, h⟩
  · exact .of_buildQuery h
  · rcases Outcome.bind_eq_error.mp h with h | ⟨body, _, h⟩
    · exact .of_primaryBody hfound h
    · cases h

/-- Invoking a method fails without a request only for one of the reasons. -/
theorem Refusal.of_invoke {plan : ClientPlan} {path : String} {error : ClientError}
    (h : Position.invoke ⟨plan, service, path⟩ spelling argument options = .error error) :
    Refusal service spelling argument options error := by
  rw [Position.invoke] at h
  split at h
  · cases h
    exact .unknownMethod _ _
  case h_2 operation hfound =>
    rw [OperationPlan.call] at h
    split at h
    · exact .of_actionRequest (Outcome.map_eq_error.mp h)
    · exact .of_resourceRequest hfound (Outcome.map_eq_error.mp h)

end Preparing

/-- The statuses of success of an action are that one which its envelope is read for, and an action has
no primary argument. -/
theorem Method.plan_of_action {method : Method} (h : method.plan.strategy = .action) :
    method.plan.successCodes = [200] ∧ method.plan.primary = none := by
  change method.strategy = .action at h
  constructor
  · change method.strategy.successCodes = [200]
    rw [h]
    rfl
  · change method.bodyParameter? = none
    rw [bodyParameter?, h]
    rfl

/-! ## Errors of reading a response -/

/-- How a response is judged that is a fault exactly if it is rejected: an accepted one may still be
unreadable, though never for a date, for bodies hold none. -/
inductive Judged {A : Type} (isRejected : Prop) (status : UInt16) : Except ClientError A → Prop
  | fault {fault : Fault} (hrejected : isRejected) (hstatus : fault.status = status) :
      Judged isRejected status (.error (.fault fault))
  | unreadable {cause : CodecError} (haccepted : ¬ isRejected) (hcause : cause ≠ .offCalendar) :
      Judged isRejected status (.error (.codec cause))
  | result (haccepted : ¬ isRejected) (value : A) : Judged isRejected status (.ok value)

namespace Body

variable {bytes : ByteArray} {cause : CodecError}

/-- Bytes that are no document are malformed. -/
theorem decode_eq_error (h : decode bytes = .error cause) : cause = .malformed := by
  rw [decode] at h
  split at h
  · cases h
  · cases h
    rfl

/-- Reading the fields of an instance does not fail for a date. -/
theorem readFields_eq_error {typeName : String} (h : readFields typeName bytes = .error cause) :
    cause ≠ .offCalendar := by
  rcases Outcome.bind_eq_error.mp h with h | ⟨json, _, h⟩
  · rw [decode_eq_error h]
    nofun
  · split at h
    · cases h
    · cases h
      nofun

/-- Reading a body does not fail for a date. -/
theorem read_eq_error {shape : BodyShape} (h : shape.read bytes = .error cause) :
    cause ≠ .offCalendar := by
  cases shape with
  | one name =>
    rcases Outcome.bind_eq_error.mp h with h | ⟨fields, _, h⟩
    · exact readFields_eq_error h
    · cases h
  | many name =>
    rcases Outcome.bind_eq_error.mp (Outcome.map_eq_error.mp h) with h | ⟨json, _, h⟩
    · rw [decode_eq_error h]
      nofun
    · split at h
      · cases h
      · cases h
        nofun

end Body

/-- Whether the response to an action reports a fault: by its status, or inside its envelope by a field
for the fault or by the word for failure. -/
def Response.ReportsFault (response : Response) : Prop :=
  response.status ≠ 200 ∨ ∃ envelope, Body.readFields actionType response.body = .ok envelope ∧
    ((envelope.find? "fault").isSome ∨ envelope.find? "status" = some (.string "failed"))

namespace Response

/-- The fault that a response reports has its status. -/
theorem fault_status (response : Response) : response.fault.status = response.status := by
  rw [fault]
  split
  · rfl
  · split <;> rfl

/-- The fault in an envelope has the status it is given. -/
theorem envelopeFault?_status {status : UInt16} {envelope : Fields Value} {fault : Fault}
    (h : envelopeFault? status envelope = some fault) : fault.status = status := by
  rw [envelopeFault?] at h
  split at h
  · cases h
    rfl
  · cases h
    rfl
  · cases h
    rfl
  · split at h
    · cases h
      rfl
    · cases h

/-- An envelope has a fault exactly if it has a field for one, or the word for failure. -/
theorem envelopeFault?_isSome_iff (status : UInt16) (envelope : Fields Value) :
    (envelopeFault? status envelope).isSome ↔
      (envelope.find? "fault").isSome ∨ envelope.find? "status" = some (.string "failed") := by
  have htext (found : Option Value) :
      found.bind Value.text? = some "failed" ↔ found = some (.string "failed") := by
    cases found with
    | none => simp
    | some value => cases value <;> simp [Value.text?]
  rw [envelopeFault?]
  split
  case h_4 hnone =>
    simp only [hnone, htext, Option.isSome_none, Bool.false_eq_true, false_or]
    split <;> simp_all
  all_goals simp_all

/-- The envelope of a response is judged by how the response reports a fault. -/
theorem envelope_judged (response : Response) :
    Judged response.ReportsFault response.status response.envelope := by
  rw [envelope]
  by_cases hstatus : response.status = 200
  · rw [if_neg (not_not.mpr hstatus)]
    cases hread : Body.readFields actionType response.body with
    | error cause =>
      refine .unreadable ?_ (Body.readFields_eq_error hread)
      rintro (hother | ⟨fields, hfields, _⟩)
      · exact hother hstatus
      · rw [hread] at hfields
        cases hfields
    | ok fields =>
      have hreports : response.ReportsFault ↔ (envelopeFault? response.status fields).isSome := by
        rw [envelopeFault?_isSome_iff, ReportsFault, hread]
        simp [hstatus]
      simp only []
      cases hfault : envelopeFault? response.status fields with
      | none => exact .result (by rw [hreports, hfault]; exact Bool.false_ne_true) fields
      | some fault => exact .fault (by rw [hreports, hfault]; rfl) (envelopeFault?_status hfault)
  · rw [if_pos hstatus]
    exact .fault (.inl hstatus) response.fault_status

end Response

namespace OperationPlan

variable {operation : OperationPlan} {response : Response}

/-- What an operation makes of a response. -/
def complete (operation : OperationPlan) (response : Response) : Except ClientError Value :=
  match operation.strategy with
  | .action => operation.actionResult response
  | _ => operation.resourceResult response

/-- Whether an operation takes a response for a fault. -/
def Rejects (operation : OperationPlan) (response : Response) : Prop :=
  match operation.strategy with
  | .action => response.ReportsFault
  | _ => response.status ∉ operation.successCodes

/-- The response to an operation on a resource is judged by its status. -/
theorem resourceResult_judged (operation : OperationPlan) (response : Response) :
    Judged (response.status ∉ operation.successCodes) response.status
      (operation.resourceResult response) := by
  rw [resourceResult]
  by_cases hcode : response.status ∈ operation.successCodes
  · rw [if_neg (by simpa using hcode)]
    split
    case h_1 shape _ =>
      split
      · exact .result (not_not.mpr hcode) _
      · cases hread : shape.read response.body with
        | error cause => exact .unreadable (not_not.mpr hcode) (Body.read_eq_error hread)
        | ok value => exact .result (not_not.mpr hcode) value
    case h_2 => exact .result (not_not.mpr hcode) _
  · rw [if_pos (by simpa using hcode)]
    exact .fault hcode response.fault_status

/-- The response to an action is judged as its envelope is. -/
theorem actionResult_judged (operation : OperationPlan) (response : Response) :
    Judged response.ReportsFault response.status (operation.actionResult response) := by
  have henvelope := response.envelope_judged
  rw [actionResult]
  generalize response.envelope = judged at henvelope ⊢
  cases henvelope with
  | fault hrejected hstatus => exact .fault hrejected hstatus
  | unreadable haccepted hcause => exact .unreadable haccepted hcause
  | result haccepted envelope =>
    cases operation.response with
    | empty | body _ => exact .result haccepted Value.null
    | actionField tag shape => exact .result haccepted (takeField envelope tag shape)

/-- Every operation ends in a fault exactly if it rejects the response. -/
theorem complete_judged (operation : OperationPlan) (response : Response) :
    Judged (operation.Rejects response) response.status (operation.complete response) := by
  rw [complete, Rejects.eq_def]
  split
  · exact operation.actionResult_judged response
  · exact operation.resourceResult_judged response

/-- The exchange of an operation makes of a response what the operation does, and the body of the
request was made of the argument unless the operation is an action. -/
theorem call_eq_ok {path : String} {argument : Option Value} {options : Options}
    {exchange : Exchange Value} (h : operation.call path argument options = .ok exchange) :
    exchange.complete = operation.complete ∧
      (operation.strategy = .action ∨ ∃ body, operation.primaryBody argument = .ok body) := by
  rw [call] at h
  split at h
  case h_1 hstrategy =>
    obtain ⟨request, _, rfl⟩ := Outcome.map_eq_ok.mp h
    refine ⟨?_, .inl hstrategy⟩
    funext response
    rw [complete, hstrategy]
  case h_2 hstrategy =>
    obtain ⟨request, hrequest, rfl⟩ := Outcome.map_eq_ok.mp h
    obtain ⟨query, _, hrequest⟩ := Outcome.bind_eq_ok.mp hrequest
    obtain ⟨body, hbody, _⟩ := Outcome.bind_eq_ok.mp hrequest
    refine ⟨?_, .inr ⟨body, hbody⟩⟩
    funext response
    rw [complete.eq_def]
    split
    case h_1 haction => exact absurd haction hstrategy
    case h_2 => rfl

end OperationPlan

/-- Only the method of an operation has a request to send, which is that of the operation. -/
theorem Position.invoke_eq_ok {position : Position} {spelling : String} {argument : Option Value}
    {options : Options} {exchange : Exchange Value}
    (h : position.invoke spelling argument options = .ok exchange) :
    ∃ operation, position.service.operation? (.parse spelling) = some operation ∧
      operation.call position.path argument options = .ok exchange := by
  rw [invoke] at h
  split at h
  · cases h
  case h_2 operation hfound => exact ⟨operation, hfound, h⟩

end ServiceTree
