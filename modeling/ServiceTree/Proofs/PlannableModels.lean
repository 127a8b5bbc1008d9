import ServiceTree.Proofs.PlanInvariants

/-!
# Models that can be planned

Validation walks up the bases of every service, once with a bound on the links to find cycles and once
to count the visible locators. Planning puts the services in order and merges downwards. Where services
have different names, a plan shows that every service has a chain of bases that ends, along which all
targets are declared, and so that the model keeps the rules of validation. Only in counting the locators
with an argument may the two differ, and they do not if no service declares a name twice.
-/

namespace ServiceTree

variable {model : Model}

/-- All targets that a planned service declares are declared services. -/
theorem Planned.targets {service : Service} {bases : List Service} {made : ServicePlan}
    (h : Planned model service bases made) : ∀ locator ∈ service.locators,
      ∃ target ∈ model.services, target.name = locator.service := by
  obtain ⟨base, _, hmade⟩ := h.last_step
  obtain ⟨declared, hdeclared, _⟩ := Service.plan_eq_ok.mp hmade
  intro locator hlocator
  obtain ⟨plan, _, hplan⟩ := Outcome.exists_of_mem_left (Outcome.mapM_eq_ok.mp hdeclared) hlocator
  exact Locator.plan_isOk_iff.mp ⟨plan, hplan⟩

/-- The base of a service with a chain of bases is a declared service. -/
theorem BaseChain.base_mem {service : Service} {bases : List Service}
    (h : BaseChain model service bases) {base : Name} (hbase : service.base = some base) :
    ∃ other ∈ model.services, other.name = base := by
  cases h with
  | root _ hnone => rw [hnone] at hbase; cases hbase
  | derived _ hother hchain => exact ⟨_, hchain.mem, Option.some.inj (hother.symm.trans hbase)⟩

namespace Model

/-- The root of a model that can be planned is declared. -/
theorem root_of_plan {plan : ClientPlan} (hplan : model.plan = .ok plan) :
    ∃ service ∈ model.services, service.name = model.root := by
  obtain ⟨root, hroot, hname⟩ := plan_root hplan
  have hplanned : model.root ∈ plan.services.map ServicePlan.name :=
    List.mem_map.mpr ⟨root, List.mem_of_getElem? hroot, hname⟩
  exact List.mem_map.mp ((plan_names_perm hplan).subset hplanned)

/-- A model of different names that can be planned keeps the rules of validation, if validation sees as
few locators with an argument as planning does. -/
theorem valid_of_plan (hnames : (model.services.map Service.name).Nodup) {plan : ClientPlan}
    (hplan : model.plan = .ok plan)
    (hvisible : ∀ service ∈ model.services,
      ((model.latestLocators service).filter Locator.isParameterized).length ≤ 1 →
        ((model.visibleLocators service).filter Locator.isParameterized).length ≤ 1) :
    model.Valid where
  names := hnames
  root := root_of_plan hplan
  bases := fun service hmem base hbase => by
    obtain ⟨bases, made, _, hmade⟩ := planned_of_mem hplan hmem
    exact hmade.baseChain.base_mem hbase
  targets := fun service hmem => by
    obtain ⟨bases, made, _, hmade⟩ := planned_of_mem hplan hmem
    exact hmade.targets
  ends := fun service hmem => by
    obtain ⟨bases, made, _, hmade⟩ := planned_of_mem hplan hmem
    exact hmade.baseChain.endsWithin hnames (hmade.baseChain.length_lt hnames).le
  visible := fun service hmem => by
    obtain ⟨bases, made, _, hmade⟩ := planned_of_mem hplan hmem
    exact hvisible service hmem (hmade.latest_le_one hnames)

end Model

/-- A model of different services, none of which declares two locators of one name, can be planned
exactly if it passes validation. -/
theorem plan_iff_validate (hnames : (model.services.map Service.name).Nodup)
    (honce : ∀ service ∈ model.services, (service.locators.map Locator.name).Nodup) :
    (∃ plan, model.plan = .ok plan) ↔ model.validate = .ok () := by
  rw [Model.validate_eq_ok_iff]
  constructor
  · rintro ⟨plan, hplan⟩
    refine Model.valid_of_plan hnames hplan fun service hmem hfew => ?_
    obtain ⟨bases, made, _, hmade⟩ := Model.planned_of_mem hplan hmem
    rwa [((Model.latestLocators_perm hnames hmade.baseChain honce).filter _).length_eq] at hfew
  · intro hvalid
    exact hvalid.plan_isOk fun service hmem => hvalid.latest_le_one_of_once honce hmem

/-- The redeclaring model with its two services as the bases of each other. -/
def cyclicModel : Model where
  name := ⟨["shop"]⟩
  root := ⟨["root"]⟩
  services := [redeclaringService, { shelfService with base := some ⟨["root"]⟩ }]

/-- The redeclaring model is planned since it passes validation, and the cyclic one is not since it
does not pass. -/
theorem redeclaringModel_accepted :
    (∃ plan, redeclaringModel.plan = .ok plan) ∧ ¬ ∃ plan, cyclicModel.plan = .ok plan := by
  constructor
  · exact (plan_iff_validate (by decide) (by decide)).mpr (by decide)
  · exact fun hplanned => absurd ((plan_iff_validate (by decide) (by decide)).mp hplanned) (by decide)

end ServiceTree
