import ServiceTree.Proofs.CallErrors
import ServiceTree.Proofs.ClientAgreement

/-!
# Accounting for requests and responses

A recording keeps every request and gives every waiting response once. So it shows what an operation
does with a transport: one that fails in time leaves no trace, and any other sends one request, takes
the response that has waited longest, and ends in a fault exactly if it has to reject that response.
-/

namespace ServiceTree

/-- How an operation ends on a recording. It was not sent, or its request found no response, or the
request found one, which the operation completes with. -/
inductive Recording.Trace {A : Type} (recording : Recording) (connection : Connection) :
    Call A → Except ClientError A × Recording → Prop
  | unsent (error : ClientError) : Trace recording connection (.error error) (.error error, recording)
  | unanswered {exchange : Exchange A} (hqueue : recording.queue = []) :
      Trace recording connection (.ok exchange)
        (.error (.transport (exhausted (connection.outgoing exchange.request))),
          ⟨[], recording.log ++ [connection.outgoing exchange.request]⟩)
  | answered {exchange : Exchange A} {response : Response} {rest : List Response}
      (hqueue : recording.queue = response :: rest) :
      Trace recording connection (.ok exchange) (exchange.complete response,
        ⟨rest, recording.log ++ [connection.outgoing exchange.request]⟩)

/-- Every operation leaves a trace. -/
theorem Recording.trace_of_run {A : Type} (recording : Recording) (connection : Connection)
    (call : Call A) :
    recording.Trace connection call (call.run Recording.transport connection recording) := by
  obtain ⟨queue, log⟩ := recording
  cases call with
  | error error => exact .unsent error
  | ok exchange =>
    cases queue with
    | nil => exact .unanswered rfl
    | cons response rest => exact .answered rfl

/-- A recording with one more request is another one. -/
theorem Recording.ne_of_log {recording : Recording} {queue : List Response} {request : Request} :
    (⟨queue, recording.log ++ [request]⟩ : Recording) ≠ recording := by
  intro h
  have hlog : recording.log ++ [request] = recording.log := congrArg Recording.log h
  simp at hlog

section

variable {model : Model} {plan : ClientPlan} {service : ServicePlan} {operation : OperationPlan}

/-- The operations of a plan are the plans of methods. -/
theorem Model.operation_of_plan (hplan : model.plan = .ok plan) (hservice : service ∈ plan.services)
    {name : Name} (hfound : service.operation? name = some operation) :
    ∃ method : Method, method.plan = operation := by
  obtain ⟨declaring, bases, hplanned⟩ := planned_of_plan hplan service hservice
  obtain ⟨_, _, _, method, _, hmethod⟩ := hplanned.operation_declared (List.mem_of_find?_eq_some hfound)
  exact ⟨method, hmethod⟩

/-- What a planned operation does not reject has a status of success. -/
theorem OperationPlan.success_of_accepted {method : Method} {response : Response}
    (haccepted : ¬ method.plan.Rejects response) : response.status ∈ method.plan.successCodes := by
  rw [Rejects.eq_def] at haccepted
  split at haccepted
  case h_1 hstrategy =>
    have hstatus : response.status = 200 := by
      by_contra hother
      exact haccepted (.inl hother)
    rw [(Method.plan_of_action hstrategy).1, hstatus]
    exact List.mem_singleton_self _
  case h_2 => exact not_not.mp haccepted

/-- An error after the request of an operation was sent is no reason for not sending it. -/
theorem Refusal.not_of_judged {spelling : String} {argument : Option Value} {options : Options}
    {method : Method} (hfound : service.operation? (.parse spelling) = some method.plan)
    (hbody : method.plan.strategy = .action ∨ ∃ body, method.plan.primaryBody argument = .ok body)
    {isRejected : Prop} {status : UInt16} {error : ClientError}
    (hjudged : Judged isRejected status (A := Value) (.error error)) :
    ¬ Refusal service spelling argument options error := by
  intro hrefusal
  cases hrefusal with
  | unknownMethod | missingArgument | invalidOption => cases hjudged
  | unwritable hother hprimary hargument hwritten =>
    rw [hfound] at hother
    cases hother
    rcases hbody with haction | ⟨body, hbody⟩
    · rw [(Method.plan_of_action haction).2] at hprimary
      cases hprimary
    · rw [hargument, OperationPlan.primaryBody_of_unwritable hprimary hwritten] at hbody
      cases hbody
  | offCalendar _ =>
    cases hjudged with
    | unreadable _ hcause => exact hcause rfl

end

/-- Whether an outcome is a fault with a status. -/
def EndsInFault (status : UInt16) (outcome : Except ClientError Value) : Prop :=
  ∃ fault, outcome = .error (.fault fault) ∧ fault.status = status

/-- A response that was judged ends in a fault with its status exactly if it was rejected. -/
theorem Judged.endsInFault_iff {isRejected : Prop} {status : UInt16}
    {outcome : Except ClientError Value} (h : Judged isRejected status outcome) :
    EndsInFault status outcome ↔ isRejected := by
  constructor
  · rintro ⟨fault, rfl, _⟩
    cases h with
    | fault hrejected _ => exact hrejected
  · intro hrejected
    cases h with
    | @fault fault _ hstatus => exact ⟨fault, rfl, hstatus⟩
    | unreadable haccepted _ => exact absurd hrejected haccepted
    | result haccepted _ => exact absurd hrejected haccepted

/-- An invoked method sends one request unless it is refused, takes the response that waits for it, and ends in
a fault exactly if the operation rejects that response. -/
theorem invoke_accounts {model : Model} {plan : ClientPlan} {service : ServicePlan}
    (hplan : model.plan = .ok plan) (hservice : service ∈ plan.services) (path spelling : String)
    (argument : Option Value) (options : Options) (connection : Connection) (recording : Recording) :
    let outcome := (Position.invoke ⟨plan, service, path⟩ spelling argument options).run
      Recording.transport connection recording
    (outcome.2 = recording ↔
      ∃ error, outcome.1 = .error error ∧ Refusal service spelling argument options error) ∧
    (outcome.2 ≠ recording → ∃ operation request,
      service.operation? (.parse spelling) = some operation ∧
      outcome.2.log = recording.log ++ [request] ∧
      (recording.queue = [] → outcome.2.queue = [] ∧
        outcome.1 = .error (.transport (Recording.exhausted request))) ∧
      ∀ response rest, recording.queue = response :: rest → outcome.2.queue = rest ∧
        (EndsInFault response.status outcome.1 ↔ operation.Rejects response)) ∧
    ∀ value, outcome.1 = .ok value → ∃ operation request response,
      service.operation? (.parse spelling) = some operation ∧
      outcome.2.log = recording.log ++ [request] ∧
      recording.queue = response :: outcome.2.queue ∧ response.status ∈ operation.successCodes := by
  intro outcome
  have htrace : recording.Trace connection _ outcome := recording.trace_of_run connection _
  generalize hcall : Position.invoke ⟨plan, service, path⟩ spelling argument options = call at htrace
  generalize outcome = outcome at htrace ⊢
  cases htrace with
  | unsent error =>
    exact ⟨⟨fun _ => ⟨error, rfl, .of_invoke hcall⟩, fun _ => rfl⟩, fun hsent => absurd rfl hsent, nofun⟩
  | @unanswered exchange hqueue =>
    obtain ⟨operation, hfound, _⟩ := Position.invoke_eq_ok hcall
    refine ⟨⟨fun hsame => absurd hsame Recording.ne_of_log, ?_⟩, fun _ => ?_, nofun⟩
    · rintro ⟨error, herror, hrefusal⟩
      cases herror
      cases hrefusal
    · refine ⟨operation, _, hfound, rfl, fun _ => ⟨rfl, rfl⟩, fun response rest hother => ?_⟩
      rw [hqueue] at hother
      cases hother
  | @answered exchange response rest hqueue =>
    obtain ⟨operation, hfound, hexchange⟩ := Position.invoke_eq_ok hcall
    obtain ⟨hcomplete, hbody⟩ := OperationPlan.call_eq_ok hexchange
    obtain ⟨method, rfl⟩ := Model.operation_of_plan hplan hservice hfound
    have hjudged := method.plan.complete_judged response
    rw [hcomplete]
    refine ⟨⟨fun hsame => absurd hsame Recording.ne_of_log, ?_⟩, fun _ => ?_, fun value hvalue => ?_⟩
    · rintro ⟨error, herror, hrefusal⟩
      simp only at herror
      rw [herror] at hjudged
      exact absurd hrefusal (Refusal.not_of_judged hfound hbody hjudged)
    · refine ⟨method.plan, _, hfound, rfl, fun hempty => ?_, fun other behind hother => ?_⟩
      · rw [hqueue] at hempty
        cases hempty
      · rw [hqueue] at hother
        cases hother
        exact ⟨rfl, hjudged.endsInFault_iff⟩
    · simp only at hvalue
      rw [hvalue] at hjudged
      cases hjudged with
      | result haccepted _ =>
        exact ⟨method.plan, _, response, hfound, rfl, hqueue, OperationPlan.success_of_accepted haccepted⟩

/-- Adding an item to the shop sends one request, takes the response that waits and reports its status;
adding nothing is refused. -/
theorem shopModel_accounts :
    (∃ request,
      ((Position.invoke ⟨shopPlan, shopServicePlan, "box"⟩ "Add" (some (.mapping [])) .empty).run
        Recording.transport .standard ⟨[⟨404, [], .empty⟩], []⟩).2 = ⟨[], [request]⟩) ∧
    EndsInFault 404
      ((Position.invoke ⟨shopPlan, shopServicePlan, "box"⟩ "Add" (some (.mapping [])) .empty).run
        Recording.transport .standard ⟨[⟨404, [], .empty⟩], []⟩).1 ∧
    ((Position.invoke ⟨shopPlan, shopServicePlan, "box"⟩ "Add" none .empty).run
      Recording.transport .standard ⟨[], []⟩).2 = ⟨[], []⟩ := by
  have hspelling : Name.parse "Add" = addOperation.name := by decide +kernel
  have hinvoke (argument : Option Value) :
      Position.invoke ⟨shopPlan, shopServicePlan, "box"⟩ "Add" argument .empty =
        addOperation.call "box" argument .empty := by
    rw [Position.invoke, hspelling]
    rfl
  have hsendable : ∃ exchange, addOperation.call "box" (some (.mapping [])) .empty = .ok exchange := ⟨_, rfl⟩
  obtain ⟨exchange, hexchange⟩ := hsendable
  obtain ⟨_, hsent, _⟩ := invoke_accounts shopModel_plan List.mem_cons_self "box" "Add"
    (some (.mapping [])) .empty .standard ⟨[⟨404, [], .empty⟩], []⟩
  obtain ⟨hrefused, _, _⟩ := invoke_accounts shopModel_plan List.mem_cons_self "box" "Add"
    none .empty .standard ⟨[], []⟩
  rw [hinvoke, hexchange] at hsent ⊢
  rw [hinvoke] at hrefused ⊢
  obtain ⟨_, _, hfound, _, _, hanswered⟩ := hsent Recording.ne_of_log
  rw [hspelling] at hfound
  cases hfound
  have hstatus : (404 : UInt16) ∉ addOperation.successCodes := by decide
  obtain ⟨_, hrejects⟩ := hanswered _ _ rfl
  exact ⟨⟨_, rfl⟩, hrejects.mpr hstatus, hrefused.mpr ⟨_, rfl, .missingArgument "add" "item"⟩⟩

end ServiceTree
