import ServiceTree.Proofs.CallErrors
import ServiceTree.Proofs.ClientAgreement

/-!
# Which error is reported

An emitted method writes the argument as the body before it builds the query, and the interpreter builds
the query first. So both fail for the same calls, and report the same error unless the argument and an
option are at fault at once. Then the method reports the argument, and the interpreter the option.
-/

namespace ServiceTree

open Outcome (failure?)

variable {operation : OperationPlan} {method : MethodCode} {argument : Option Value} {options : Options}

namespace OperationPlan

/-- An interpreted operation on a resource reports its query before its body. -/
theorem resourceRequest_failure? (path : String) :
    failure? (operation.resourceRequest path argument options) =
      (failure? (buildQuery operation.query options)).or (failure? (operation.primaryBody argument)) := by
  rw [resourceRequest]
  cases buildQuery operation.query options with
  | error misfit => rfl
  | ok query => cases operation.primaryBody argument <;> rfl

end OperationPlan

namespace MethodCode

/-- The method of an operation on a resource reports its body before its query. -/
theorem ofResource_failure? (h : ofResource operation = .ok method) (path : String)
    (hargument : operation.primary.isSome → argument.isSome) :
    failure? (method.run path (argument.getD .null) options) =
      (failure? (operation.primaryBody argument)).or (failure? (buildQuery operation.query options)) := by
  rw [ofResource_run h path hargument]
  cases operation.primaryBody argument with
  | error refusal => rfl
  | ok body => cases buildQuery operation.query options <;> rfl

/-- The method of an action fails as the interpreted action does. -/
theorem ofAction_failure? (h : ofAction operation = .ok method) (path : String) (value : Value) :
    failure? (method.run path value options) = failure? (operation.actionRequest path options) := by
  rw [ofAction_run h, Outcome.failure?_map]

end MethodCode

/-- An action has no body to be made of an argument. -/
theorem Method.primaryBody_of_action {method : Method} (h : method.plan.strategy = .action)
    (argument : Option Value) : method.plan.primaryBody argument = .ok none := by
  rw [OperationPlan.primaryBody.eq_def, (Method.plan_of_action h).2]

/-- The method of a planned operation and the interpreter fail for the same calls, in the one order or in
the other. -/
theorem OperationPlan.failure?_of_plan {declared : Method}
    (hmethod : MethodCode.ofPlan declared.plan = .ok method) (path : String)
    (hargument : declared.plan.primary.isSome → argument.isSome) (options : Options) :
    failure? (method.run path (argument.getD .null) options) =
        failure? (declared.plan.call path argument options) ∧
      failure? (declared.plan.primaryBody argument) = none ∨
    failure? (method.run path (argument.getD .null) options) =
        (failure? (declared.plan.primaryBody argument)).or
          (failure? (buildQuery declared.plan.query options)) ∧
      failure? (declared.plan.call path argument options) =
        (failure? (buildQuery declared.plan.query options)).or
          (failure? (declared.plan.primaryBody argument)) := by
  cases hstrategy : declared.plan.strategy with
  | action =>
    rw [MethodCode.ofPlan, hstrategy] at hmethod
    rw [OperationPlan.call, hstrategy, Outcome.failure?_map, Method.primaryBody_of_action hstrategy]
    exact .inl ⟨MethodCode.ofAction_failure? hmethod path _, rfl⟩
  | add | get | list | update | remove =>
    rw [MethodCode.ofPlan, hstrategy] at hmethod
    rw [OperationPlan.call, hstrategy, Outcome.failure?_map]
    exact .inr ⟨MethodCode.ofResource_failure? hmethod path hargument,
      OperationPlan.resourceRequest_failure? path⟩

/-- Of an argument and a query that both fail, the errors differ unless both are dates that cannot be
written. -/
theorem OperationPlan.offCalendar_of_same (hargument : operation.primary.isSome → argument.isSome)
    {error : ClientError} (hbody : operation.primaryBody argument = .error error)
    (hquery : buildQuery operation.query options = .error error) : error = .codec .offCalendar := by
  rcases primaryBody_eq_error hbody with ⟨rfl, primary, hprimary, _⟩ | ⟨_, _, cause, _, _, _, rfl⟩
  · rw [hprimary] at hargument
    cases hargument rfl
  · rcases buildQuery_eq_error hquery with ⟨_, _, _, hother⟩ | ⟨hsame, _⟩
    · cases hother
    · exact hsame

/-- An emitted method and the interpreter send nothing for the same calls, and report different errors exactly
where the argument and the query both fail, unless both hold a date that cannot be written. -/
theorem unsent_errors {model : Model} {plan : ClientPlan} {service : ServicePlan}
    (hplan : model.plan = .ok plan) (hservice : service ∈ plan.services)
    (hoperation : operation ∈ service.operations) (hmethod : MethodCode.ofPlan operation = .ok method)
    {spelling : String} (hspelling : Name.parse spelling = operation.name)
    (hargument : operation.primary.isSome → argument.isSome) (path : String) (options : Options) :
    let emitted := method.run path (argument.getD .null) options
    let interpreted := Position.invoke ⟨plan, service, path⟩ spelling argument options
    ((∃ error, emitted = .error error) ↔ ∃ error, interpreted = .error error) ∧
    (∀ refusal misfit, operation.primaryBody argument = .error refusal →
      buildQuery operation.query options = .error misfit →
        emitted = .error refusal ∧ interpreted = .error misfit ∧
          (refusal = misfit → refusal = .codec .offCalendar)) ∧
    ∀ first second, emitted = .error first → interpreted = .error second → first ≠ second →
      operation.primaryBody argument = .error first ∧
        buildQuery operation.query options = .error second := by
  intro emitted interpreted
  obtain ⟨_, _, hplanned⟩ := Model.planned_of_plan hplan service hservice
  obtain ⟨hfound, _, _, declared, _, rfl⟩ := hplanned.operation_declared hoperation
  have hcall : interpreted = declared.plan.call path argument options := by
    change Position.invoke _ _ _ _ = _
    rw [Position.invoke, hspelling, hfound]
  have hfailures := OperationPlan.failure?_of_plan hmethod path hargument options
  rw [← hcall] at hfailures
  change failure? emitted = _ ∧ _ ∨ failure? emitted = _ ∧ _ at hfailures
  have hdate (error : ClientError) (hbody : declared.plan.primaryBody argument = .error error) :
      buildQuery declared.plan.query options = .error error → error = .codec .offCalendar :=
    OperationPlan.offCalendar_of_same hargument hbody
  simp only [← Outcome.failure?_eq_some_iff] at hdate ⊢
  generalize failure? (declared.plan.primaryBody argument) = refusal? at hfailures hdate ⊢
  generalize failure? (buildQuery declared.plan.query options) = misfit? at hfailures hdate ⊢
  rcases hfailures with ⟨hsame, rfl⟩ | ⟨hemitted, hinterpreted⟩
  · rw [hsame]
    refine ⟨Iff.rfl, ?_, fun first second hfirst hsecond hne => ?_⟩
    · intro refusal misfit hrefusal
      cases hrefusal
    · rw [hfirst] at hsecond
      exact absurd (Option.some.inj hsecond) hne
  · rw [hemitted, hinterpreted]
    refine ⟨?_, ?_, fun first second hfirst hsecond hne => ?_⟩
    · cases refusal? <;> cases misfit? <;> simp
    · rintro refusal misfit rfl rfl
      exact ⟨rfl, rfl, fun hsame => hdate refusal rfl (congrArg some hsame.symm)⟩
    · -- with only one of the two at fault, both sides report that one
      cases refusal? with
      | none =>
        rw [Option.none_or] at hfirst
        rw [Option.or_none, hfirst] at hsecond
        exact absurd (Option.some.inj hsecond) hne
      | some refusal =>
        cases misfit? with
        | none =>
          rw [Option.or_none] at hfirst
          rw [Option.none_or, hfirst] at hsecond
          exact absurd (Option.some.inj hsecond) hne
        | some misfit => exact ⟨hfirst, hsecond⟩

/-- A method that adds an item and may notify somebody. -/
def noticeMethod : Method :=
  ⟨⟨["add"]⟩, [⟨⟨["item"]⟩, .struct ⟨["item"]⟩, true, true, none⟩,
    ⟨⟨["notify"]⟩, .primitive .boolean, true, false, none⟩], none⟩

/-- A service with this method alone. -/
def noticeService : Service := ⟨⟨["root"]⟩, none, [noticeMethod], [], none⟩

/-- A model of this service alone. -/
def noticeModel : Model := ⟨⟨["shop"]⟩, ⟨["root"]⟩, [noticeService]⟩

/-- The plan of the method: the item is the body, and the rest is the query. -/
def noticeOperation : OperationPlan := { addOperation with query := [⟨"notify", "notify", some .boolean⟩] }

/-- The plan of the service. -/
def noticeServicePlan : ServicePlan where
  name := ⟨["root"]⟩
  typeName := "RootService"
  base := none
  doc := none
  operations := [noticeOperation]
  locators := []
  router := ⟨[], none⟩

/-- The plan of the model. -/
def noticePlan : ClientPlan := ⟨"Shop", 0, [noticeServicePlan]⟩

/-- The method is planned with a body and a query. -/
theorem noticeMethod_plan : noticeMethod.plan = noticeOperation := by
  have hquery : noticeMethod.query = noticeOperation.query := by
    have hone : (noticeMethod.parameters.filter fun p => p.isIn && !p.isOut && p.type.isPrimitive) =
        [⟨⟨["notify"]⟩, .primitive .boolean, true, false, none⟩] := by
      decide
    change queryParameters (Method.sortedByName _) = _
    rw [hone, Method.sortedByName, List.mergeSort_singleton]
    decide +kernel
  rw [Method.plan, hquery]
  decide +kernel

/-- The model is planned with its one service. -/
theorem noticeModel_plan : noticeModel.plan = .ok noticePlan := by
  have hoperations : mergeMembers OperationPlan.name [] (noticeService.methods.map Method.plan) =
      noticeServicePlan.operations := by
    change List.mergeSort [noticeMethod.plan] _ = _
    rw [List.mergeSort_singleton, noticeMethod_plan]
    rfl
  have hservice : noticeService.plan noticeModel none = .ok noticeServicePlan := by
    have hplan : noticeService.plan noticeModel none = .ok _ :=
      Service.plan_of_merged rfl hoperations List.mergeSort_nil (by decide)
    exact hplan.trans (by decide +kernel)
  have hname : (⟨["shop"]⟩ : Name).camelCase = "Shop" := by decide +kernel
  have hplan : noticeModel.plan = .ok ⟨(⟨["shop"]⟩ : Name).camelCase, 0, [noticeServicePlan]⟩ :=
    Model.plan_alone rfl hservice
  rwa [hname] at hplan

/-- Options with a word where a truth value is expected. -/
def misfittingOptions : Options := ⟨[("notify", .string "maybe")], [], []⟩

/-- The method can be emitted. -/
theorem noticeOperation_emitted : ∃ method, MethodCode.ofPlan noticeOperation = .ok method :=
  Outcome.exists_of_isSome (by decide +kernel)

/-- The method can be invoked by a spelling of its name. -/
theorem noticeOperation_spelled : Name.parse "Add" = noticeOperation.name := by decide +kernel

/-- Adding a number with a misfitting option, the emitted method reports the number and the interpreter
the option. -/
theorem noticeModel_reports : ∃ method, MethodCode.ofPlan noticeOperation = .ok method ∧
    method.run "" (.integer 3) misfittingOptions =
      .error (.codec (.unexpectedShape "Item" "a struct" "integer")) ∧
    Position.invoke ⟨noticePlan, noticeServicePlan, ""⟩ "Add" (some (.integer 3)) misfittingOptions =
      .error (.invalidOption "notify" "expected a boolean value, got a string") := by
  obtain ⟨method, hmethod⟩ := noticeOperation_emitted
  have hargument : noticeOperation.primary.isSome → (some (Value.integer 3)).isSome := fun _ => rfl
  obtain ⟨_, hboth, _⟩ := unsent_errors noticeModel_plan List.mem_cons_self List.mem_cons_self hmethod
    noticeOperation_spelled hargument "" misfittingOptions
  obtain ⟨hemitted, hinterpreted, _⟩ := hboth _ _ rfl rfl
  exact ⟨method, hmethod, hemitted, hinterpreted⟩

/-- The emitted client and the interpreter do not always report the same error. -/
theorem noticeModel_errors_differ :
    ¬ ∀ (model : Model) (plan : ClientPlan) (service : ServicePlan) (operation : OperationPlan)
      (method : MethodCode) (path spelling : String) (argument : Option Value) (options : Options)
      (emitted interpreted : ClientError), model.plan = .ok plan → service ∈ plan.services →
        operation ∈ service.operations → MethodCode.ofPlan operation = .ok method →
        Name.parse spelling = operation.name → (operation.primary.isSome → argument.isSome) →
        method.run path (argument.getD .null) options = .error emitted →
        Position.invoke ⟨plan, service, path⟩ spelling argument options = .error interpreted →
          emitted = interpreted := by
  intro h
  obtain ⟨method, hmethod⟩ := noticeOperation_emitted
  have hargument : noticeOperation.primary.isSome → (some (Value.integer 3)).isSome := fun _ => rfl
  have hemitted : method.run "" (.integer 3) misfittingOptions =
      .error (.codec (.unexpectedShape "Item" "a struct" "integer")) :=
    Outcome.failure?_eq_some_iff.mp (MethodCode.ofResource_failure? hmethod "" hargument)
  have hinterpreted :
      Position.invoke ⟨noticePlan, noticeServicePlan, ""⟩ "Add" (some (.integer 3)) misfittingOptions =
        .error (.invalidOption "notify" "expected a boolean value, got a string") := by
    rw [Position.invoke, noticeOperation_spelled]
    rfl
  have hsame := h noticeModel noticePlan noticeServicePlan noticeOperation method "" "Add"
    (some (.integer 3)) misfittingOptions _ _ noticeModel_plan List.mem_cons_self List.mem_cons_self
    hmethod noticeOperation_spelled hargument hemitted hinterpreted
  cases hsame

end ServiceTree
