import ServiceTree.Proofs.ValidPlanning

/-!
# What every plan keeps

Plans are made for models whose services have different names, valid or not. In such a plan every
service has its members by the nearest declaration along its chain of bases, and all that a service
refers to is part of the plan: its base stands before it, the targets of its locators are planned, and
its edges are those of its locators.
-/

namespace ServiceTree

variable {model : Model} {plan : ClientPlan}

namespace Planned

variable {service : Service} {bases : List Service} {made : ServicePlan}

/-- Every operation of a plan is found by its name, and was planned for a method that is declared along
the chain of bases. -/
theorem operation_declared (h : Planned model service bases made) {operation : OperationPlan}
    (hoperation : operation ∈ made.operations) :
    made.operation? operation.name = some operation ∧
      ∃ declaring ∈ service :: bases, ∃ method ∈ declaring.methods, method.plan = operation := by
  have hfound : made.operation? operation.name = some operation :=
    (find?_eq_some_iff_mem (nodup_of_increasing h.merged.operations) _ _).mpr ⟨hoperation, rfl⟩
  refine ⟨hfound, ?_⟩
  rw [h.operation?_eq, Option.map_eq_some_iff] at hfound
  obtain ⟨method, hmethod, hplan⟩ := hfound
  obtain ⟨declaring, hchain, hmem, _⟩ := nearest?_mem hmethod
  exact ⟨declaring, hchain, method, hmem, hplan⟩

/-- Every locator of a plan is found by its name. -/
theorem locator?_of_mem (h : Planned model service bases made) {locator : LocatorPlan}
    (hlocator : locator ∈ made.locators) : made.locator? locator.name = some locator :=
  (find?_eq_some_iff_mem (nodup_of_increasing h.merged.locators) _ _).mpr ⟨hlocator, rfl⟩

/-- Every locator of a plan was planned for a locator that is declared along the chain of bases. -/
theorem locator_declared (h : Planned model service bases made) {locator : LocatorPlan}
    (hlocator : locator ∈ made.locators) :
    ∃ declaring ∈ service :: bases, ∃ declared ∈ declaring.locators,
      declared.plan model = .ok locator := by
  have hnearest := h.locator?_eq locator.name
  rw [h.locator?_of_mem hlocator, Option.map_some, eq_comm, Option.map_eq_some_iff] at hnearest
  obtain ⟨declared, hdeclared, hplan⟩ := hnearest
  obtain ⟨declaring, hchain, hmem, _⟩ := nearest?_mem hdeclared
  exact ⟨declaring, hchain, declared, hmem, hplan⟩

/-- A plan has a literal edge exactly for each of its locators without an argument. -/
theorem literal_iff (h : Planned model service bases made) {edge : RouteEdge} :
    edge ∈ made.router.literals ↔
      ∃ locator ∈ made.locators, locator.argument = none ∧ edge = locator.edge := by
  rw [h.router_eq, Router.ofLocators, List.mem_map]
  simp only [List.mem_filter, LocatorPlan.isParameterized, Bool.not_eq_true',
    Option.isSome_eq_false_iff, Option.isNone_iff_eq_none]
  constructor
  · rintro ⟨locator, ⟨hmem, hliteral⟩, rfl⟩
    exact ⟨locator, hmem, hliteral, rfl⟩
  · rintro ⟨locator, hmem, hliteral, rfl⟩
    exact ⟨locator, ⟨hmem, hliteral⟩, rfl⟩

/-- The literal edges of a plan increase strictly by name. -/
theorem literals_increasing (h : Planned model service bases made) :
    made.router.literals.Pairwise fun a b => a.locator < b.locator := by
  rw [h.router_eq, Router.ofLocators, List.pairwise_map]
  exact h.merged.locators.filter _

/-- The wildcard edge of a plan is that of its locator with an argument, the only one. -/
theorem wildcard_iff (h : Planned model service bases made) {edge : RouteEdge} :
    made.router.wildcard = some edge ↔
      ∃ locator ∈ made.locators, locator.argument.isSome ∧ edge = locator.edge := by
  rw [h.router_eq, Router.ofLocators, Option.map_eq_some_iff]
  constructor
  · rintro ⟨locator, hfound, rfl⟩
    have hargument : locator.isParameterized = true := List.find?_some hfound
    exact ⟨locator, List.mem_of_find?_eq_some hfound, hargument, rfl⟩
  · rintro ⟨locator, hmem, hparameterized, rfl⟩
    refine ⟨locator, ?_, rfl⟩
    have hfew := h.parameterized_le_one
    have hfiltered : locator ∈ made.locators.filter LocatorPlan.isParameterized :=
      List.mem_filter.mpr ⟨hmem, hparameterized⟩
    -- a list of at most one member that contains the locator is the locator alone
    obtain ⟨only, honly⟩ := List.length_eq_one_iff.mp
      (le_antisymm hfew (List.length_pos_of_mem hfiltered))
    rw [honly, List.mem_singleton] at hfiltered
    rw [← List.head?_filter, honly, hfiltered]
    rfl

end Planned

namespace Model

/-- A plan has the services of its model, each with its base, in an order of its own. -/
theorem plan_headers_perm (hplan : model.plan = .ok plan) :
    (plan.services.map fun made => (made.name, made.base)).Perm
      (model.services.map fun service => (service.name, service.base)) := by
  obtain ⟨ordered, hperm, _, hmade, _⟩ := plan_eq_ok hplan
  rw [← headers_of_made hmade]
  exact hperm.map _

/-- A plan has the services of its model. -/
theorem plan_names_perm (hplan : model.plan = .ok plan) :
    (plan.services.map ServicePlan.name).Perm (model.services.map Service.name) := by
  have hnames := (plan_headers_perm hplan).map Prod.fst
  simpa only [List.map_map, Function.comp_def] using hnames

/-- Planning keeps services of different names apart. -/
theorem plan_names_nodup (hnames : (model.services.map Service.name).Nodup)
    (hplan : model.plan = .ok plan) : (plan.services.map ServicePlan.name).Nodup :=
  (plan_names_perm hplan).nodup_iff.mpr hnames

/-- Every service of a plan was made along the bases of a declared service. -/
theorem planned_of_plan (hplan : model.plan = .ok plan) :
    ∀ made ∈ plan.services, ∃ service bases, Planned model service bases made := by
  obtain ⟨ordered, _, _, hmade, _⟩ := plan_eq_ok hplan
  exact planned_of_made hmade

/-- In a plan every declared service is found by its name. -/
theorem plan_service? (hnames : (model.services.map Service.name).Nodup)
    (hplan : model.plan = .ok plan) {service : Service} (hmem : service ∈ model.services) :
    ∃ bases made, Planned model service bases made ∧ made ∈ plan.services ∧
      plan.service? service.name = some made := by
  obtain ⟨bases, made, hmember, hplanned⟩ := planned_of_mem hplan hmem
  refine ⟨bases, made, hplanned, hmember, ?_⟩
  exact (find?_eq_some_iff_mem (plan_names_nodup hnames hplan) _ _).mpr
    ⟨hmember, hplanned.header.1⟩

/-- In a plan every service stands after its base. -/
theorem plan_base_before (hplan : model.plan = .ok plan) {before after : List ServicePlan}
    {made : ServicePlan} (hsplit : plan.services = before ++ made :: after) {base : Name}
    (hbase : made.base = some base) : ∃ earlier ∈ before, earlier.name = base := by
  obtain ⟨ordered, _, hfirst, hmade, _⟩ := plan_eq_ok hplan
  -- the order of the services is that of their plans, so that it splits at the same place
  have hheaders := headers_of_made hmade
  rw [hsplit, List.map_append, List.map_cons, List.map_eq_append_iff] at hheaders
  obtain ⟨placed, rest, rfl, hplaced, hrest⟩ := hheaders
  obtain ⟨service, others, rfl, hservice, _⟩ := List.map_eq_cons_iff.mp hrest
  obtain ⟨_, hsame⟩ := Prod.mk.inj hservice
  have hready : base ∈ placed.map Service.name :=
    List.mem_map.mpr (hfirst.base_before (hsame.trans hbase))
  have hnames : placed.map Service.name = before.map ServicePlan.name := by
    have hfst := congrArg (List.map Prod.fst) hplaced
    simpa only [List.map_map, Function.comp_def] using hfst
  rw [hnames] at hready
  exact List.mem_map.mp hready

/-- The root of a plan is the service that the model names as its root. -/
theorem plan_root (hplan : model.plan = .ok plan) :
    ∃ root, plan.rootService? = some root ∧ root.name = model.root := by
  obtain ⟨ordered, _, _, _, hroot⟩ := plan_eq_ok hplan
  obtain ⟨hrange, hname, _⟩ := List.findIdx?_eq_some_iff_getElem.mp hroot
  refine ⟨plan.services[plan.root], List.getElem?_eq_getElem hrange, ?_⟩
  simpa using hname

/-- The locators of a plan lead to services of the plan, of the type that they say. -/
theorem plan_target (hnames : (model.services.map Service.name).Nodup)
    (hplan : model.plan = .ok plan) {made : ServicePlan} (hmade : made ∈ plan.services)
    {locator : LocatorPlan} (hlocator : locator ∈ made.locators) :
    ∃ target ∈ plan.services, plan.service? locator.target = some target ∧
      target.name = locator.target ∧ target.typeName = locator.targetType := by
  obtain ⟨service, bases, hplanned⟩ := planned_of_plan hplan made hmade
  obtain ⟨_, _, declared, _, hdeclared⟩ := hplanned.locator_declared hlocator
  obtain ⟨declaredTarget, hfound, htarget, htype⟩ := Locator.plan_target hdeclared
  obtain ⟨_, target, htargetPlan, hmem, hservice⟩ :=
    plan_service? hnames hplan (List.mem_of_find?_eq_some hfound)
  refine ⟨target, hmem, ?_, ?_, ?_⟩
  · rw [htarget, hservice]
  · rw [htarget, htargetPlan.header.1]
  · rw [htype, htargetPlan.header.2.1]

end Model

/-- In a plan the members of a service are those that are declared nearest along its chain of bases,
each planned by itself, in strictly increasing order of their names. -/
theorem plan_nearest_declaration (hnames : (model.services.map Service.name).Nodup)
    (hplan : model.plan = .ok plan) :
    (∀ service ∈ model.services, ∃ bases made, BaseChain model service bases ∧
      plan.service? service.name = some made ∧
      ∀ sought,
        ((made.operation? sought).isSome ↔
          ∃ declaring ∈ service :: bases, ∃ method ∈ declaring.methods, method.name = sought) ∧
        made.operation? sought =
          (nearest? Method.name Service.methods (service :: bases) sought).map Method.plan ∧
        ((made.locator? sought).isSome ↔
          ∃ declaring ∈ service :: bases, ∃ locator ∈ declaring.locators, locator.name = sought) ∧
        (made.locator? sought).map Except.ok =
          (nearest? Locator.name Service.locators (service :: bases) sought).map
            (Locator.plan model)) ∧
    ∀ made ∈ plan.services,
      made.operations.Pairwise (fun a b => a.name < b.name) ∧
        made.locators.Pairwise fun a b => a.name < b.name := by
  constructor
  · intro service hmem
    obtain ⟨bases, made, hplanned, _, hfound⟩ := Model.plan_service? hnames hplan hmem
    refine ⟨bases, made, hplanned.baseChain, hfound, fun sought => ?_⟩
    have hoperation := hplanned.operation?_eq sought
    have hlocator := hplanned.locator?_eq sought
    refine ⟨?_, hoperation, ?_, hlocator⟩
    · rw [hoperation, Option.isSome_map, nearest?_isSome_iff]
    · have hsome := congrArg Option.isSome hlocator
      rw [Option.isSome_map, Option.isSome_map] at hsome
      rw [hsome, nearest?_isSome_iff]
  · intro made hmade
    obtain ⟨service, bases, hplanned⟩ := Model.planned_of_plan hplan made hmade
    exact ⟨hplanned.merged.operations, hplanned.merged.locators⟩

/-- In the plan of the redeclaring model a redeclared locator stands in place of the inherited one. -/
theorem redeclaringModel_nearest : ∃ plan made locator, redeclaringModel.plan = .ok plan ∧
    plan.service? redeclaringService.name = some made ∧ made.locator? ⟨["item"]⟩ = some locator ∧
    (literalLocator ⟨["item"]⟩ ⟨["root"]⟩).plan redeclaringModel = .ok locator := by
  have hvalid : redeclaringModel.Valid := Model.validate_eq_ok_iff.mp (by decide)
  obtain ⟨plan, hplan⟩ := hvalid.plan_isOk (by decide)
  obtain ⟨bases, made, _, hfound, hmembers⟩ :=
    (plan_nearest_declaration hvalid.names hplan).1 redeclaringService List.mem_cons_self
  obtain ⟨_, _, _, hlocator⟩ := hmembers ⟨["item"]⟩
  have hown : latest? Locator.name redeclaringService.locators ⟨["item"]⟩ =
      some (literalLocator ⟨["item"]⟩ ⟨["root"]⟩) := by decide
  rw [nearest?_cons, hown, Option.some_or, Option.map_some, Option.map_eq_some_iff] at hlocator
  obtain ⟨locator, hlocator, heq⟩ := hlocator
  exact ⟨plan, made, locator, hplan, hfound, hlocator, heq.symm⟩

/-- A plan refers to nothing outside of it: its services are those of the model, each after its base, its
locators lead to them, and its edges are those of its locators in order. -/
theorem plan_closed (hnames : (model.services.map Service.name).Nodup)
    (hplan : model.plan = .ok plan) :
    (plan.services.map ServicePlan.name).Perm (model.services.map Service.name) ∧
    (plan.services.map fun made => (made.name, made.base)).Perm
      (model.services.map fun service => (service.name, service.base)) ∧
    (∀ before made after, plan.services = before ++ made :: after →
      ∀ base, made.base = some base → ∃ earlier ∈ before, earlier.name = base) ∧
    (∃ root, plan.services[plan.root]? = some root ∧ root.name = model.root) ∧
    ∀ made ∈ plan.services,
      (∀ locator ∈ made.locators, ∃ target ∈ plan.services,
        plan.service? locator.target = some target ∧
          target.name = locator.target ∧ target.typeName = locator.targetType) ∧
      (∀ edge, edge ∈ made.router.literals ↔ ∃ locator ∈ made.locators,
        locator.argument = none ∧ edge = ⟨locator.name, locator.segment, locator.target⟩) ∧
      made.router.literals.Pairwise (fun a b => a.locator < b.locator) ∧
      (made.locators.filter LocatorPlan.isParameterized).length ≤ 1 ∧
      (∀ edge, made.router.wildcard = some edge ↔ ∃ locator ∈ made.locators,
        locator.argument.isSome ∧ edge = ⟨locator.name, locator.segment, locator.target⟩) ∧
      (made.router.wildcard.isSome ↔ ∃ locator ∈ made.locators, locator.argument.isSome) := by
  refine ⟨Model.plan_names_perm hplan, Model.plan_headers_perm hplan, ?_, Model.plan_root hplan, ?_⟩
  · intro before made after hsplit base hbase
    exact Model.plan_base_before hplan hsplit hbase
  · intro made hmade
    obtain ⟨service, bases, hplanned⟩ := Model.planned_of_plan hplan made hmade
    refine ⟨fun locator => Model.plan_target hnames hplan hmade, fun edge => hplanned.literal_iff,
      hplanned.literals_increasing, hplanned.parameterized_le_one, fun edge => hplanned.wildcard_iff,
      ?_⟩
    rw [Option.isSome_iff_exists]
    constructor
    · rintro ⟨edge, hedge⟩
      obtain ⟨locator, hmem, hargument, _⟩ := hplanned.wildcard_iff.mp hedge
      exact ⟨locator, hmem, hargument⟩
    · rintro ⟨locator, hmem, hargument⟩
      exact ⟨locator.edge, hplanned.wildcard_iff.mpr ⟨locator, hmem, hargument, rfl⟩⟩

/-- In the plan of the redeclaring model the base stands before the service that extends it, and the
root is that service. -/
theorem redeclaringModel_closed : ∃ plan, redeclaringModel.plan = .ok plan ∧
    (plan.services.map ServicePlan.name).Perm [⟨["root"]⟩, ⟨["shelf"]⟩] ∧
    (∀ before made after, plan.services = before ++ made :: after → made.base = some ⟨["shelf"]⟩ →
      ∃ earlier ∈ before, earlier.name = ⟨["shelf"]⟩) ∧
    ∃ root, plan.services[plan.root]? = some root ∧ root.name = ⟨["root"]⟩ := by
  have hvalid : redeclaringModel.Valid := Model.validate_eq_ok_iff.mp (by decide)
  obtain ⟨plan, hplan⟩ := hvalid.plan_isOk (by decide)
  obtain ⟨hperm, _, hbefore, hroot, _⟩ := plan_closed hvalid.names hplan
  exact ⟨plan, hplan, hperm, fun before made after hsplit => hbefore before made after hsplit _, hroot⟩

end ServiceTree
