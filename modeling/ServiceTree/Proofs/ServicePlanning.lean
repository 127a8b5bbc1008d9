import ServiceTree.Proofs.BaseOrder
import ServiceTree.Proofs.MemberMerge

/-!
# Planning service by service

What a successful run of the planner consists of: every service has been given a plan made from the
plan of its base, which was planned before. The relation `Planned` records these steps along the
whole chain of bases, so that what holds of every plan is proved by induction on the chain. A run that
fails stops at one service, and the reason is found there.
-/

namespace ServiceTree

variable {model : Model}

namespace Locator

/-- A planned locator targets a declared service and takes its name and its type. -/
theorem plan_target {locator : Locator} {plan : LocatorPlan} (h : locator.plan model = .ok plan) :
    ∃ target, model.find? locator.service = some target ∧ plan.target = target.name ∧
      plan.targetType = target.name.serviceType := by
  unfold Locator.plan at h
  split at h
  · cases h
  case h_2 target htarget =>
    cases h
    exact ⟨target, htarget, rfl, rfl⟩

/-- A planned locator keeps its name, takes an argument if it did before, and has the accessor and the
segment of its name. -/
theorem plan_name {locator : Locator} {plan : LocatorPlan} (h : locator.plan model = .ok plan) :
    plan.name = locator.name ∧ plan.isParameterized = locator.isParameterized ∧
      plan.accessor = locator.name.accessor ∧ plan.segment = locator.name.segment := by
  unfold Locator.plan at h
  split at h
  · cases h
  · cases h
    refine ⟨rfl, ?_, rfl, rfl⟩
    exact Option.isSome_map

/-- A locator is planned exactly if its target is declared. -/
theorem plan_isOk_iff {locator : Locator} :
    (∃ plan, locator.plan model = .ok plan) ↔
      ∃ target ∈ model.services, target.name = locator.service := by
  have hfind : (model.find? locator.service).isSome ↔
      ∃ target ∈ model.services, target.name = locator.service := by
    simp [Model.find?, List.find?_isSome]
  rw [← hfind, Option.isSome_iff_exists]
  constructor
  · rintro ⟨plan, h⟩
    obtain ⟨target, htarget, _⟩ := plan_target h
    exact ⟨target, htarget⟩
  · rintro ⟨target, htarget⟩
    unfold Locator.plan
    rw [htarget]
    exact ⟨_, rfl⟩

end Locator

namespace Service

/-- The members that a service takes over from its base. -/
def inheritedOperations (base : Option ServicePlan) : List OperationPlan :=
  (base.map ServicePlan.operations).getD []

/-- The locators that a service takes over from its base. -/
def inheritedLocators (base : Option ServicePlan) : List LocatorPlan :=
  (base.map ServicePlan.locators).getD []

/-- The plan of a service whose declared locators have the given plans. -/
def assemble (service : Service) (base : Option ServicePlan) (declared : List LocatorPlan) :
    ServicePlan :=
  { name := service.name
    typeName := service.name.serviceType
    base := service.base
    doc := service.doc
    operations := mergeMembers OperationPlan.name (inheritedOperations base)
      (service.methods.map Method.plan)
    locators := mergeMembers LocatorPlan.name (inheritedLocators base) declared
    router := Router.ofLocators (mergeMembers LocatorPlan.name (inheritedLocators base) declared) }

/-- A service is planned exactly if its locators are and at most one of all its locators takes an
argument. -/
theorem plan_eq_ok {service : Service} {base : Option ServicePlan} {plan : ServicePlan} :
    service.plan model base = .ok plan ↔
      ∃ declared, service.locators.mapM (Locator.plan model) = .ok declared ∧
        ((service.assemble base declared).locators.filter LocatorPlan.isParameterized).length ≤ 1 ∧
        plan = service.assemble base declared := by
  unfold Service.plan
  rw [Outcome.bind_eq_ok]
  refine exists_congr fun declared => and_congr_right fun _ => ?_
  change (if ((service.assemble base declared).locators.filter
    LocatorPlan.isParameterized).length > 1 then _ else _) = _ ↔ _
  split
  case isTrue hmany =>
    constructor
    · intro h
      cases h
    · rintro ⟨hfew, _⟩
      omega
  case isFalse hfew =>
    constructor
    · intro h
      cases h
      exact ⟨by omega, rfl⟩
    · rintro ⟨_, rfl⟩
      rfl

/-- A service whose locators are planned is planned with all its members merged, if at most one locator
among them takes an argument. -/
theorem plan_of_merged {service : Service} {base : Option ServicePlan} {operations : List OperationPlan}
    {declared locators : List LocatorPlan}
    (hdeclared : service.locators.mapM (Locator.plan model) = .ok declared)
    (hoperations : mergeMembers OperationPlan.name (inheritedOperations base)
      (service.methods.map Method.plan) = operations)
    (hlocators : mergeMembers LocatorPlan.name (inheritedLocators base) declared = locators)
    (hfew : (locators.filter LocatorPlan.isParameterized).length ≤ 1) :
    service.plan model base = .ok
      { name := service.name
        typeName := service.name.serviceType
        base := service.base
        doc := service.doc
        operations := operations
        locators := locators
        router := Router.ofLocators locators } := by
  subst hoperations hlocators
  exact plan_eq_ok.mpr ⟨declared, hdeclared, hfew, rfl⟩

/-- A service that is not planned has a locator that is not, or several locators that take an
argument. -/
theorem plan_eq_error {service : Service} {base : Option ServicePlan} {error : GenerationError}
    (h : service.plan model base = .error error) :
    (∃ locator ∈ service.locators, locator.plan model = .error error) ∨
      ∃ declared, service.locators.mapM (Locator.plan model) = .ok declared ∧
        1 < ((service.assemble base declared).locators.filter
          LocatorPlan.isParameterized).length ∧
        error = .model (.severalParameterized service.name.camelCase
          (((service.assemble base declared).locators.filter LocatorPlan.isParameterized).map
            fun locator => locator.name.camelCase)) := by
  unfold Service.plan at h
  rcases Outcome.bind_eq_error.mp h with hlocators | ⟨declared, hdeclared, h⟩
  · exact .inl (Outcome.mapM_eq_error hlocators)
  · right
    refine ⟨declared, hdeclared, ?_⟩
    change (if ((service.assemble base declared).locators.filter
      LocatorPlan.isParameterized).length > 1 then _ else _) = _ at h
    split at h
    case isTrue hmany =>
      cases h
      exact ⟨hmany, rfl⟩
    case isFalse => cases h

end Service

/-- A base that is found among the plans is the plan of that name. -/
theorem basePlan_eq_some {planned : List ServicePlan} {service : Service} {plan : ServicePlan}
    (h : basePlan planned service = .ok (some plan)) :
    plan ∈ planned ∧ service.base = some plan.name := by
  unfold basePlan at h
  split at h
  · cases h
  case h_2 base hbase =>
    split at h
    case h_1 found hfound =>
      cases h
      have hname : plan.name = base := by simpa using List.find?_some hfound
      exact ⟨List.mem_reverse.mp (List.mem_of_find?_eq_some hfound), by rw [hbase, hname]⟩
    · cases h

/-- A service without a base among the plans has none at all. -/
theorem basePlan_eq_none {planned : List ServicePlan} {service : Service}
    (h : basePlan planned service = .ok none) : service.base = none := by
  unfold basePlan at h
  split at h
  case h_1 hbase => exact hbase
  · split at h <;> cases h

/-- The base of a service is found if a plan has its name. -/
theorem basePlan_isOk {planned : List ServicePlan} {service : Service}
    (h : isReady (planned.map ServicePlan.name) service = true) :
    ∃ base, basePlan planned service = .ok base := by
  rw [isReady_iff] at h
  unfold basePlan
  split
  · exact ⟨none, rfl⟩
  case h_2 base hbase =>
    obtain ⟨plan, hplan, hname⟩ := List.mem_map.mp (h base hbase)
    have hsome : (planned.reverse.find? fun plan => plan.name = base).isSome :=
      List.find?_isSome.mpr ⟨plan, List.mem_reverse.mpr hplan, by simpa using hname⟩
    obtain ⟨found, hfound⟩ := Option.isSome_iff_exists.mp hsome
    rw [hfound]
    exact ⟨some found, rfl⟩

/-- The services met when following bases from a service, nearest first, until one has no base. -/
inductive BaseChain (model : Model) : Service → List Service → Prop
  | root {service : Service} (hmem : service ∈ model.services) (hbase : service.base = none) :
      BaseChain model service []
  | derived {service base : Service} {bases : List Service} (hmem : service ∈ model.services)
      (hbase : service.base = some base.name) (hchain : BaseChain model base bases) :
      BaseChain model service (base :: bases)

/-- A chain of bases meets declared services only. -/
theorem BaseChain.subset {service : Service} {bases : List Service}
    (h : BaseChain model service bases) : service :: bases ⊆ model.services := by
  induction h with
  | root hmem _ => simpa using hmem
  | derived hmem _ _ ih => exact List.cons_subset.mpr ⟨hmem, ih⟩

/-- A service, the bases it leads to, and the plan made along them. -/
inductive Planned (model : Model) : Service → List Service → ServicePlan → Prop
  | root {service : Service} {plan : ServicePlan} (hmem : service ∈ model.services)
      (hbase : service.base = none) (hplan : service.plan model none = .ok plan) :
      Planned model service [] plan
  | derived {service base : Service} {bases : List Service} {plan inherited : ServicePlan}
      (hmem : service ∈ model.services) (hbase : service.base = some base.name)
      (hinherited : Planned model base bases inherited)
      (hplan : service.plan model (some inherited) = .ok plan) :
      Planned model service (base :: bases) plan

/-- What the planner takes over for a service: nothing where it has no base, and else the plan of the
base, made along the bases of that. -/
inductive PlannedBase (model : Model) (service : Service) :
    List Service → Option ServicePlan → Prop
  | root (hbase : service.base = none) : PlannedBase model service [] none
  | derived {base : Service} {bases : List Service} {inherited : ServicePlan}
      (hbase : service.base = some base.name) (hinherited : Planned model base bases inherited) :
      PlannedBase model service (base :: bases) (some inherited)

namespace Planned

variable {service : Service} {bases : List Service} {plan : ServicePlan}

/-- Plans are made along complete chains of bases. -/
theorem baseChain (h : Planned model service bases plan) : BaseChain model service bases := by
  induction h with
  | root hmem hbase _ => exact .root hmem hbase
  | derived hmem hbase _ _ ih => exact .derived hmem hbase ih

/-- The last step of making a plan. -/
theorem last_step (h : Planned model service bases plan) :
    ∃ base, PlannedBase model service bases base ∧ service.plan model base = .ok plan := by
  cases h with
  | root _ hbase hplan => exact ⟨none, .root hbase, hplan⟩
  | derived _ hbase hinherited hplan => exact ⟨some _, .derived hbase hinherited, hplan⟩

/-- A plan has the name, the type name and the base of its service. -/
theorem header (h : Planned model service bases plan) :
    plan.name = service.name ∧ plan.typeName = service.name.serviceType ∧
      plan.base = service.base := by
  obtain ⟨base, _, hplan⟩ := h.last_step
  obtain ⟨declared, _, _, rfl⟩ := Service.plan_eq_ok.mp hplan
  exact ⟨rfl, rfl, rfl⟩

/-- The edges of a plan are those of its locators. -/
theorem router_eq (h : Planned model service bases plan) :
    plan.router = Router.ofLocators plan.locators := by
  obtain ⟨base, _, hplan⟩ := h.last_step
  obtain ⟨declared, _, _, rfl⟩ := Service.plan_eq_ok.mp hplan
  rfl

/-- At most one locator of a plan takes an argument. -/
theorem parameterized_le_one (h : Planned model service bases plan) :
    (plan.locators.filter LocatorPlan.isParameterized).length ≤ 1 := by
  obtain ⟨base, _, hplan⟩ := h.last_step
  obtain ⟨declared, _, hfew, rfl⟩ := Service.plan_eq_ok.mp hplan
  exact hfew

end Planned

/-- Planning a service from what it takes over continues the chain of its bases. -/
theorem PlannedBase.planned {service : Service} {bases : List Service} {base : Option ServicePlan}
    {plan : ServicePlan} (h : PlannedBase model service bases base) (hmem : service ∈ model.services)
    (hplan : service.plan model base = .ok plan) : Planned model service bases plan := by
  cases h with
  | root hbase => exact .root hmem hbase hplan
  | derived hbase hinherited => exact .derived hmem hbase hinherited hplan

/-- The base found among plans made along chains of bases continues one of these chains. -/
theorem plannedBase_of_basePlan {planned : List ServicePlan} {service : Service}
    {base : Option ServicePlan}
    (hplanned : ∀ earlier ∈ planned, ∃ declared bases, Planned model declared bases earlier)
    (hbase : basePlan planned service = .ok base) :
    ∃ bases, PlannedBase model service bases base := by
  cases base with
  | none => exact ⟨[], .root (basePlan_eq_none hbase)⟩
  | some inherited =>
    obtain ⟨hearlier, hname⟩ := basePlan_eq_some hbase
    obtain ⟨declared, bases, hinherited⟩ := hplanned inherited hearlier
    rw [hinherited.header.1] at hname
    exact ⟨declared :: bases, .derived hname hinherited⟩

/-- Plans made one for each service have the names and bases of the services. -/
theorem headers_of_made {services : List Service} {plans : List ServicePlan}
    (h : List.Forall₂ (fun service plan => ∃ bases, Planned model service bases plan)
      services plans) :
    (services.map fun service => (service.name, service.base)) =
      plans.map fun plan => (plan.name, plan.base) := by
  refine Outcome.map_eq_map h ?_
  rintro service plan ⟨bases, hmade⟩
  rw [hmade.header.1, hmade.header.2.2]

/-- Plans made one for each service have the names of the services. -/
theorem names_of_made {services : List Service} {plans : List ServicePlan}
    (h : List.Forall₂ (fun service plan => ∃ bases, Planned model service bases plan)
      services plans) : services.map Service.name = plans.map ServicePlan.name := by
  refine Outcome.map_eq_map h ?_
  rintro service plan ⟨bases, hmade⟩
  rw [hmade.header.1]

/-- Each of several plans made one for each service was made along the bases of one of them. -/
theorem planned_of_made {services : List Service} {plans : List ServicePlan}
    (h : List.Forall₂ (fun service plan => ∃ bases, Planned model service bases plan)
      services plans) :
    ∀ made ∈ plans, ∃ service bases, Planned model service bases made := by
  intro made hmem
  obtain ⟨service, _, hmade⟩ := Outcome.exists_of_mem_right h hmem
  exact ⟨service, hmade⟩

/-- A run that succeeds keeps the plans made before and makes one plan for each service. -/
theorem planServices_ok {planned result : List ServicePlan} {services : List Service}
    (hsub : services ⊆ model.services)
    (hplanned : ∀ earlier ∈ planned, ∃ declared bases, Planned model declared bases earlier)
    (h : planServices model planned services = .ok result) :
    ∃ plans, result = planned ++ plans ∧
      List.Forall₂ (fun service plan => ∃ bases, Planned model service bases plan)
        services plans := by
  induction services generalizing planned with
  | nil =>
    cases h
    exact ⟨[], by simp, .nil⟩
  | cons service rest ih =>
    rw [planServices, Outcome.bind_eq_ok] at h
    obtain ⟨base, hbase, h⟩ := h
    obtain ⟨plan, hplan, h⟩ := Outcome.bind_eq_ok.mp h
    obtain ⟨bases, htaken⟩ := plannedBase_of_basePlan hplanned hbase
    have hstep : Planned model service bases plan := htaken.planned (hsub List.mem_cons_self) hplan
    -- the plan just made is one of those that later services may take over
    have hnext : ∀ earlier ∈ planned ++ [plan],
        ∃ declared bases, Planned model declared bases earlier := by
      intro earlier hearlier
      rcases List.mem_append.mp hearlier with hold | hnew
      · exact hplanned earlier hold
      · rw [List.mem_singleton.mp hnew]
        exact ⟨service, bases, hstep⟩
    obtain ⟨plans, rfl, hplans⟩ := ih (fun _ hother => hsub (List.mem_cons_of_mem _ hother)) hnext h
    exact ⟨plan :: plans, by simp, .cons ⟨bases, hstep⟩ hplans⟩

/-- A run that fails does so at one service, after planning all services before it. -/
theorem planServices_error {planned : List ServicePlan} {services : List Service}
    {error : GenerationError} (h : planServices model planned services = .error error) :
    ∃ before service after earlier, services = before ++ service :: after ∧
      planServices model planned before = .ok earlier ∧
      (basePlan earlier service = .error error ∨
        ∃ base, basePlan earlier service = .ok base ∧ service.plan model base = .error error) := by
  induction services generalizing planned with
  | nil => cases h
  | cons service rest ih =>
    rw [planServices, Outcome.bind_eq_error] at h
    rcases h with hbase | ⟨base, hbase, h⟩
    · exact ⟨[], service, rest, planned, rfl, rfl, .inl hbase⟩
    · rcases Outcome.bind_eq_error.mp h with hplan | ⟨plan, hplan, h⟩
      · exact ⟨[], service, rest, planned, rfl, rfl, .inr ⟨base, hbase, hplan⟩⟩
      · obtain ⟨before, failing, after, earlier, rfl, hbefore, hfailing⟩ := ih h
        refine ⟨service :: before, failing, after, earlier, rfl, ?_, hfailing⟩
        rw [planServices, Outcome.bind_eq_ok]
        exact ⟨base, hbase, Outcome.bind_eq_ok.mpr ⟨plan, hplan, hbefore⟩⟩

/-- A model is not planned because its services cannot be put in order, because planning one of them
fails, or because none of them is the root. -/
theorem Model.plan_eq_error {error : GenerationError} (h : model.plan = .error error) :
    orderServices model.services = .error error ∨
      ∃ ordered, orderServices model.services = .ok ordered ∧
        (planServices model [] ordered = .error error ∨
          ∃ services, planServices model [] ordered = .ok services ∧
            model.root ∉ services.map ServicePlan.name) := by
  unfold Model.plan at h
  rcases Outcome.bind_eq_error.mp h with hordered | ⟨ordered, hordered, h⟩
  · exact .inl hordered
  · rcases Outcome.bind_eq_error.mp h with hservices | ⟨services, hservices, h⟩
    · exact .inr ⟨ordered, hordered, .inl hservices⟩
    · refine .inr ⟨ordered, hordered, .inr ⟨services, hservices, ?_⟩⟩
      split at h
      case h_1 hnone => simpa using hnone
      case h_2 => cases h

/-- What a plan of a model consists of: its services in an order with bases first, one plan for each,
and the position of the root. -/
theorem Model.plan_eq_ok {plan : ClientPlan} (h : model.plan = .ok plan) :
    ∃ ordered, ordered.Perm model.services ∧ BaseFirst [] ordered ∧
      List.Forall₂ (fun service made => ∃ bases, Planned model service bases made)
        ordered plan.services ∧
      plan.services.findIdx? (fun service => service.name = model.root) = some plan.root := by
  unfold Model.plan at h
  obtain ⟨ordered, hordered, h⟩ := Outcome.bind_eq_ok.mp h
  obtain ⟨services, hservices, h⟩ := Outcome.bind_eq_ok.mp h
  obtain ⟨hperm, hfirst⟩ := orderServices_ok hordered
  obtain ⟨plans, rfl, hplans⟩ := planServices_ok hperm.subset (by simp) hservices
  split at h
  · cases h
  case h_2 root hroot =>
    cases h
    exact ⟨ordered, hperm, hfirst, hplans, hroot⟩

/-- In a plan every service of the model has its own. -/
theorem Model.planned_of_mem {plan : ClientPlan} (hplan : model.plan = .ok plan) {service : Service}
    (hmem : service ∈ model.services) :
    ∃ bases, ∃ made ∈ plan.services, Planned model service bases made := by
  obtain ⟨ordered, hperm, _, hplans, _⟩ := plan_eq_ok hplan
  obtain ⟨made, hmade, bases, hplanned⟩ := Outcome.exists_of_mem_left hplans (hperm.mem_iff.mpr hmem)
  exact ⟨bases, made, hmade, hplanned⟩

/-- A model of one service without a base is planned with the plan of that service. -/
theorem Model.plan_alone {name : Name} {service : Service} {made : ServicePlan}
    (hbase : service.base = none)
    (hmade : service.plan ⟨name, service.name, [service]⟩ none = .ok made) :
    Model.plan ⟨name, service.name, [service]⟩ = .ok ⟨name.camelCase, 0, [made]⟩ := by
  have hordered : orderServices [service] = .ok [service] := by
    have hready : isReady [] service = true := by simp [isReady, hbase]
    rw [orderServices, sortServices, List.mergeSort_singleton, placeServices, if_pos hready]
    simp only [List.append_nil, placeServices]
    rfl
  have hservices : planServices ⟨name, service.name, [service]⟩ [] [service] = .ok [made] := by
    have hnone : basePlan [] service = .ok none := by rw [basePlan, hbase]
    rw [planServices, hnone]
    change (service.plan _ none >>= _) = _
    rw [hmade]
    rfl
  obtain ⟨declared, _, _, rfl⟩ := Service.plan_eq_ok.mp hmade
  simp [Model.plan, hordered, hservices, bind, Except.bind, List.findIdx?_cons, Service.assemble]

end ServiceTree
