import ServiceTree.Proofs.ServicePlanning

/-!
# What a service inherits

A service has, under each name, the last declaration in the nearest service along its chain of bases.
Planning merges level by level and sorts each time; the induction along the chain shows that the
merged members are found by name exactly as the declarations are.
-/

namespace ServiceTree

variable {model : Model} {M : Type}

/-- The last declaration of a name in the nearest of several services that declares it. -/
def nearest? (name : M → Name) (members : Service → List M) (chain : List Service) (sought : Name) :
    Option M :=
  chain.findSome? fun service => latest? name (members service) sought

/-- The service in front hides all others. -/
theorem nearest?_cons (name : M → Name) (members : Service → List M) (service : Service)
    (bases : List Service) (sought : Name) :
    nearest? name members (service :: bases) sought =
      (latest? name (members service) sought).or (nearest? name members bases sought) := by
  rw [nearest?, List.findSome?_cons]
  cases latest? name (members service) sought <;> rfl

/-- The nearest declaration of a name is a declaration of one of the services, and has the name. -/
theorem nearest?_mem {M : Type} {name : M → Name} {members : Service → List M}
    {chain : List Service} {sought : Name} {member : M}
    (h : nearest? name members chain sought = some member) :
    ∃ service ∈ chain, member ∈ members service ∧ name member = sought := by
  obtain ⟨service, hservice, hlatest⟩ := List.exists_of_findSome?_eq_some h
  exact ⟨service, hservice, latest?_mem hlatest⟩

/-- A name has a nearest declaration exactly if some service along the chain declares it. -/
theorem nearest?_isSome_iff {name : M → Name} {members : Service → List M} {chain : List Service}
    {sought : Name} : (nearest? name members chain sought).isSome ↔
      ∃ service ∈ chain, ∃ member ∈ members service, name member = sought := by
  simp only [nearest?, List.findSome?_isSome_iff, latest?_isSome_iff]

/-- Where no service declares a name twice, the nearest declaration is the first one met. -/
theorem nearest?_eq_findSome? {name : M → Name} {members : Service → List M} {chain : List Service}
    (honce : ∀ service ∈ chain, ((members service).map name).Nodup) {sought : Name} :
    nearest? name members chain sought =
      chain.findSome? fun service => (members service).find? fun member => name member = sought := by
  induction chain with
  | nil => rfl
  | cons service bases ih =>
    rw [nearest?_cons, List.findSome?_cons, latest?_eq_find? (honce service List.mem_cons_self),
      ih fun other hother => honce other (List.mem_cons_of_mem _ hother)]
    cases (members service).find? fun member => name member = sought <;> rfl

/-- Planning locators one by one plans the last locator of a name. -/
theorem latest?_of_planned {locators : List Locator} {declared : List LocatorPlan}
    (h : List.Forall₂ (fun locator plan => locator.plan model = .ok plan) locators declared)
    (sought : Name) :
    (latest? LocatorPlan.name declared sought).map Except.ok =
      (latest? Locator.name locators sought).map (Locator.plan model) := by
  induction h with
  | nil => rfl
  | @cons locator plan locators declared hplan _ ih =>
    rw [latest?_cons, latest?_cons, Option.map_or, Option.map_or, ih, (Locator.plan_name hplan).1]
    congr 1
    split
    · rw [Option.map_some, Option.map_some, hplan]
    · rfl

/-- The members of a plan increase strictly by name. -/
structure Merged (plan : ServicePlan) : Prop where
  operations : plan.operations.Pairwise fun a b => a.name < b.name
  locators : plan.locators.Pairwise fun a b => a.name < b.name

namespace Service

variable {base : Option ServicePlan}

/-- The members that a service takes over have different names. -/
theorem inherited_nodup (hbase : ∀ plan ∈ base, Merged plan) :
    ((inheritedOperations base).map OperationPlan.name).Nodup ∧
      ((inheritedLocators base).map LocatorPlan.name).Nodup := by
  cases base with
  | none => exact ⟨List.nodup_nil, List.nodup_nil⟩
  | some inherited =>
    have hmerged : Merged inherited := hbase inherited rfl
    exact ⟨nodup_of_increasing hmerged.operations, nodup_of_increasing hmerged.locators⟩

/-- Merging gives members in strictly increasing order. -/
theorem assemble_merged (hbase : ∀ plan ∈ base, Merged plan) (service : Service)
    (declared : List LocatorPlan) : Merged (service.assemble base declared) :=
  ⟨mergeMembers_increasing (inherited_nodup hbase).1 _,
    mergeMembers_increasing (inherited_nodup hbase).2 _⟩

/-- If the base has its nearest methods under each name, so has the service. -/
theorem assemble_operation? (hbase : ∀ plan ∈ base, Merged plan) {bases : List Service}
    {sought : Name}
    (hinherited : (base.bind fun plan => plan.operation? sought) =
      (nearest? Method.name Service.methods bases sought).map Method.plan)
    (service : Service) (declared : List LocatorPlan) :
    (service.assemble base declared).operation? sought =
      (nearest? Method.name Service.methods (service :: bases) sought).map Method.plan := by
  change (mergeMembers OperationPlan.name (inheritedOperations base) _).find? _ = _
  have hfind : ((inheritedOperations base).find? fun operation => operation.name = sought) =
      base.bind fun plan => plan.operation? sought := by
    cases base <;> rfl
  have hdeclared : latest? OperationPlan.name (service.methods.map Method.plan) sought =
      (latest? Method.name service.methods sought).map Method.plan :=
    latest?_map Method.plan (fun _ => rfl) _ _
  rw [mergeMembers_find? (inherited_nodup hbase).1, hfind, hinherited, hdeclared, nearest?_cons,
    Option.map_or]

/-- If the base has its nearest locators under each name, so has the service. -/
theorem assemble_locator? (hbase : ∀ plan ∈ base, Merged plan) {bases : List Service}
    {sought : Name}
    (hinherited : (base.bind fun plan => plan.locator? sought).map Except.ok =
      (nearest? Locator.name Service.locators bases sought).map (Locator.plan model))
    {service : Service} {declared : List LocatorPlan}
    (hdeclared : service.locators.mapM (Locator.plan model) = .ok declared) :
    ((service.assemble base declared).locator? sought).map Except.ok =
      (nearest? Locator.name Service.locators (service :: bases) sought).map
        (Locator.plan model) := by
  change ((mergeMembers LocatorPlan.name (inheritedLocators base) declared).find? _).map _ = _
  have hfind : ((inheritedLocators base).find? fun locator => locator.name = sought) =
      base.bind fun plan => plan.locator? sought := by
    cases base <;> rfl
  rw [mergeMembers_find? (inherited_nodup hbase).2, hfind, Option.map_or, hinherited,
    latest?_of_planned (Outcome.mapM_eq_ok.mp hdeclared), nearest?_cons, Option.map_or]

end Service

namespace Planned

variable {service : Service} {bases : List Service} {plan : ServicePlan}

/-- The members of a plan made along a chain of bases increase strictly by name. -/
theorem merged (h : Planned model service bases plan) : Merged plan := by
  induction h with
  | root _ _ hplan =>
    obtain ⟨declared, _, _, rfl⟩ := Service.plan_eq_ok.mp hplan
    exact Service.assemble_merged (by simp) _ _
  | derived _ _ _ hplan ih =>
    obtain ⟨declared, _, _, rfl⟩ := Service.plan_eq_ok.mp hplan
    exact Service.assemble_merged (by simpa using ih) _ _

/-- A name finds the operation planned for its nearest declaration. -/
theorem operation?_eq (h : Planned model service bases plan) (sought : Name) :
    plan.operation? sought =
      (nearest? Method.name Service.methods (service :: bases) sought).map Method.plan := by
  induction h with
  | root _ _ hplan =>
    obtain ⟨declared, _, _, rfl⟩ := Service.plan_eq_ok.mp hplan
    exact Service.assemble_operation? (by simp) rfl _ _
  | derived _ _ hinherited hplan ih =>
    obtain ⟨declared, _, _, rfl⟩ := Service.plan_eq_ok.mp hplan
    refine Service.assemble_operation? ?_ ?_ _ _
    · simpa using hinherited.merged
    · exact ih

/-- A name finds the locator planned for its nearest declaration. -/
theorem locator?_eq (h : Planned model service bases plan) (sought : Name) :
    (plan.locator? sought).map Except.ok =
      (nearest? Locator.name Service.locators (service :: bases) sought).map
        (Locator.plan model) := by
  induction h with
  | root _ _ hplan =>
    obtain ⟨declared, hdeclared, _, rfl⟩ := Service.plan_eq_ok.mp hplan
    exact Service.assemble_locator? (by simp) rfl hdeclared
  | derived _ _ hinherited hplan ih =>
    obtain ⟨declared, hdeclared, _, rfl⟩ := Service.plan_eq_ok.mp hplan
    refine Service.assemble_locator? ?_ ?_ hdeclared
    · simpa using hinherited.merged
    · exact ih

end Planned

namespace PlannedBase

variable {service : Service} {bases : List Service} {base : Option ServicePlan}

/-- What a service takes over is merged already. -/
theorem merged (h : PlannedBase model service bases base) : ∀ plan ∈ base, Merged plan := by
  cases h with
  | root _ => simp
  | derived _ hinherited => simpa using hinherited.merged

/-- Already before it is checked, a name finds the locator planned for its nearest declaration. -/
theorem assemble_locator?_eq (h : PlannedBase model service bases base)
    {declared : List LocatorPlan}
    (hdeclared : service.locators.mapM (Locator.plan model) = .ok declared) (sought : Name) :
    ((service.assemble base declared).locator? sought).map Except.ok =
      (nearest? Locator.name Service.locators (service :: bases) sought).map
        (Locator.plan model) := by
  apply Service.assemble_locator? h.merged _ hdeclared
  cases h with
  | root _ => rfl
  | derived _ hinherited => exact hinherited.locator?_eq sought

/-- The chain of bases behind what a service takes over. -/
theorem baseChain (h : PlannedBase model service bases base) (hmem : service ∈ model.services) :
    BaseChain model service bases := by
  cases h with
  | root hbase => exact .root hmem hbase
  | derived hbase hinherited => exact .derived hmem hbase hinherited.baseChain

end PlannedBase

end ServiceTree
