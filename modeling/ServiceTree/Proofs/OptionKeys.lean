import ServiceTree.Proofs.ParameterRoles

/-!
# The options of operations

Which of its inputs an operation looks up among the options. Every input of a reading, a removal or an
action is looked up there. An addition or an update sends its primary parameter as the body and looks up the
scalars that are only given: all other inputs, those that are returned as well or are no scalars, are left
out.
-/

namespace ServiceTree

namespace Method

/-- Whether a method looks up a parameter among the options. -/
def TakesOption (method : Method) (p : Parameter) : Prop :=
  match method.strategy with
  | .add | .update => p.IsScalarInput
  | .get | .list | .remove => p.isIn
  | .action => True

/-- Whether a method sends a parameter as the body. -/
def SendsAsBody (method : Method) (p : Parameter) : Prop :=
  method.strategy.sendsPrimary ∧ FirstWith Parameter.IsBody method.parameters p

variable {method : Method}

/-- The query of sorted parameters looks up those that pass the test. -/
theorem mem_queryOptions_iff {P : Parameter → Prop} {test : Parameter → Bool}
    (htest : ∀ p, test p = true ↔ P p) {parameters : List Parameter} {key : String} :
    key ∈ (queryParameters (sortedByName (parameters.filter test))).map QueryParameter.option ↔
      ∃ p ∈ parameters, P p ∧ p.name.identifier = key := by
  simp [queryParameters, sortedByName, htest, and_assoc]

/-- An operation that is no action looks up what it sends in the query. -/
theorem optionKeys_of_query (hstrategy : method.strategy ≠ .action) :
    method.plan.optionKeys = method.query.map QueryParameter.option := by
  simp [OperationPlan.optionKeys, plan, hstrategy]

/-- The option keys of an operation are the identifiers of the parameters that it looks up. -/
theorem mem_optionKeys_iff {key : String} : key ∈ method.plan.optionKeys ↔
    ∃ p ∈ method.parameters, method.TakesOption p ∧ p.name.identifier = key := by
  simp only [TakesOption]
  cases hstrategy : method.strategy with
  | action =>
    have hkeys : method.plan.optionKeys = method.envelope.map EnvelopeField.option := by
      simp only [OperationPlan.optionKeys, plan, hstrategy]
    simp [hkeys, envelope, hstrategy]
  | add | update =>
    rw [optionKeys_of_query (by simp [hstrategy]), query, hstrategy]
    exact mem_queryOptions_iff isScalarInput_iff
  | get | list | remove =>
    rw [optionKeys_of_query (by simp [hstrategy]), query, hstrategy]
    exact mem_queryOptions_iff fun _ => Iff.rfl

/-- The parameter that is sent as the body is the primary parameter of the plan. -/
theorem SendsAsBody.primary {p : Parameter} (h : method.SendsAsBody p) :
    ∃ shape, BodyShape.forType? p.type = some shape ∧
      method.plan.primary = some ⟨p.name.identifier, shape⟩ := by
  obtain ⟨hsends, hfirst⟩ := h
  have hshaped : BodyShape.forType? p.type ≠ none :=
    mt BodyShape.forType?_eq_none_iff.mp hfirst.1.2.2
  obtain ⟨shape, hshape⟩ := Option.ne_none_iff_exists'.mp hshaped
  refine ⟨shape, hshape, ?_⟩
  change method.bodyParameter? = _
  simp [bodyParameter?, hsends, primary?_eq_some_iff.mpr hfirst, hshape]

/-- A method that sends no primary parameter looks up all that is given. -/
theorem takesOption_of_isIn (hsends : method.strategy.sendsPrimary = false) {p : Parameter}
    (hin : p.isIn = true) : method.TakesOption p := by
  cases hstrategy : method.strategy <;>
    simp_all [TakesOption, Strategy.sendsPrimary]

/-- A method that sends its primary parameter looks up the scalars that are only given. -/
theorem takesOption_iff_isScalarInput (hsends : method.strategy.sendsPrimary = true) {p : Parameter} :
    method.TakesOption p ↔ p.IsScalarInput := by
  cases hstrategy : method.strategy <;>
    simp_all [TakesOption, Strategy.sendsPrimary]

end Method

/-- An input can be sent exactly if the method is neither an addition nor an update, or it is their primary
parameter, or a scalar that is only given and goes by its identifier. -/
theorem input_sendable_iff (method : Method) {p : Parameter} (hmem : p ∈ method.parameters)
    (hin : p.isIn = true) :
    (method.SendsAsBody p → ∃ shape, BodyShape.forType? p.type = some shape ∧
      method.plan.primary = some ⟨p.name.identifier, shape⟩) ∧
    (method.SendsAsBody p ∨ p.name.identifier ∈ method.plan.optionKeys ↔
      (method.strategy = .add ∨ method.strategy = .update → method.SendsAsBody p ∨
        ∃ other ∈ method.parameters, other.IsScalarInput ∧
          other.name.identifier = p.name.identifier)) := by
  refine ⟨Method.SendsAsBody.primary, ?_⟩
  have hstrategy : method.strategy.sendsPrimary = true ↔
      method.strategy = .add ∨ method.strategy = .update := by
    cases method.strategy <;> simp [Strategy.sendsPrimary]
  rw [← hstrategy, Method.mem_optionKeys_iff]
  cases hsends : method.strategy.sendsPrimary with
  | true => simp [Method.takesOption_iff_isScalarInput hsends]
  | false =>
    have hlooked : ∃ q ∈ method.parameters, method.TakesOption q ∧
        q.name.identifier = p.name.identifier :=
      ⟨p, hmem, Method.takesOption_of_isIn hsends hin, rfl⟩
    simp [hlooked]

/-- The second parameter of the stock method that can be the body. -/
def boxParameter : Parameter := wordParameter "box" (.list (.struct ⟨["box"]⟩)) true true

/-- A scalar of the stock method that is only given. -/
def notifyParameter : Parameter := wordParameter "notify" (.primitive .boolean) true false

/-- The stock method can send its scalar, but not its second body. -/
theorem stockMethod_sendable :
    ¬ (stockMethod.SendsAsBody boxParameter ∨
      boxParameter.name.identifier ∈ stockMethod.plan.optionKeys) ∧
    (stockMethod.SendsAsBody notifyParameter ∨
      notifyParameter.name.identifier ∈ stockMethod.plan.optionKeys) := by
  have hbox : boxParameter ∈ stockMethod.parameters := by decide
  have hnotify : notifyParameter ∈ stockMethod.parameters := by decide
  constructor
  · intro hsent
    rcases (input_sendable_iff stockMethod hbox rfl).2.mp hsent (.inl (by decide)) with hbody | hscalar
    · have hprimary : stockMethod.primary? = some boxParameter :=
        Method.primary?_eq_some_iff.mpr hbody.2
      exact absurd hprimary (by decide)
    · exact absurd hscalar (by decide)
  · exact (input_sendable_iff stockMethod hnotify rfl).2.mpr fun _ =>
      .inr ⟨notifyParameter, hnotify, by decide, rfl⟩

/-- A method that adds an object from a structure that it does not return. -/
def templateMethod : Method where
  name := ⟨["add"]⟩
  parameters := [wordParameter "template" (.struct ⟨["template"]⟩) true false]
  doc := none

/-- The only input of the template method is neither its body nor among its options. -/
theorem templateMethod_unsendable :
    templateMethod.plan.primary = none ∧ templateMethod.plan.optionKeys = [] ∧
    ¬ ∀ p ∈ templateMethod.parameters, p.isIn = true →
      templateMethod.SendsAsBody p ∨ p.name.identifier ∈ templateMethod.plan.optionKeys := by
  have hprimary : templateMethod.plan.primary = none := by decide
  have hkeys : templateMethod.plan.optionKeys = [] := by
    refine List.eq_nil_iff_forall_not_mem.mpr fun key hkey => ?_
    obtain ⟨p, hmem, htakes, -⟩ := Method.mem_optionKeys_iff.mp hkey
    have hscalar := (Method.takesOption_iff_isScalarInput (by decide)).mp htakes
    rw [List.mem_singleton.mp hmem] at hscalar
    exact absurd hscalar (by decide)
  refine ⟨hprimary, hkeys, fun hall => ?_⟩
  rcases hall _ List.mem_cons_self rfl with hbody | hkey
  · obtain ⟨shape, -, hsent⟩ := hbody.primary
    exact absurd (hprimary.symm.trans hsent) nofun
  · exact absurd (hkeys ▸ hkey) List.not_mem_nil

end ServiceTree
