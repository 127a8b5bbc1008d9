import Mathlib.Data.Finset.Card
import ServiceTree.Proofs.BaseCycles

/-!
# Well-formed models

What validation decides, said without the walks it takes: services have different names, everything that
is referred to is declared, no service leads back to itself, and at most one of the locators visible from a
service takes an argument. The run of validation is a relation of its own, so that a walk which does not end
has no outcome. The walk that gathers the visible locators remembers no services and would not end on a
cycle; it is taken only where the search for cycles has found none, and so the run ends for every model.
-/

namespace ServiceTree

/-- Gathering the locators visible from a service on the way up along its bases, without those whose name
was seen on the way. -/
inductive LocatorSearch (model : Model) : List Name → Service → List Locator → Prop
  | ends {seen : List Name} {service : Service} (hbase : service.base.bind model.find? = none) :
      LocatorSearch model seen service (Model.firstOfEachName seen service.locators)
  | follows {seen : List Name} {service base : Service} {found : List Locator}
      (hbase : service.base.bind model.find? = some base)
      (hrest : LocatorSearch model (service.locators.map Locator.name ++ seen) base found) :
      LocatorSearch model seen service (Model.firstOfEachName seen service.locators ++ found)

/-- Checking services one by one up to the first with which something is wrong. -/
inductive FirstFault (check : Service → Option ModelError → Prop) :
    List Service → Option ModelError → Prop
  | clean : FirstFault check [] none
  | fault {service : Service} {rest : List Service} {error : ModelError}
      (hservice : check service (some error)) : FirstFault check (service :: rest) (some error)
  | passes {service : Service} {rest : List Service} {outcome : Option ModelError}
      (hservice : check service none) (hrest : FirstFault check rest outcome) :
      FirstFault check (service :: rest) outcome

namespace Model

/-- What the search for cycles finds wrong with a service. -/
inductive CycleCheck (model : Model) (service : Service) : Option ModelError → Prop
  | clean (hsearch : CycleSearch model [] service.name true) : CycleCheck model service none
  | fault (hsearch : CycleSearch model [] service.name false) :
      CycleCheck model service (some (.baseCycle service.name.camelCase))

/-- What gathering the visible locators finds wrong with a service. -/
inductive LocatorCheck (model : Model) (service : Service) : Option ModelError → Prop
  | clean {found : List Locator} (hsearch : LocatorSearch model [] service found)
      (hfew : (found.filter Locator.isParameterized).length ≤ 1) : LocatorCheck model service none
  | fault {found : List Locator} (hsearch : LocatorSearch model [] service found)
      (hmany : 1 < (found.filter Locator.isParameterized).length) :
      LocatorCheck model service (some (.severalParameterized service.name.camelCase
        ((found.filter Locator.isParameterized).map fun locator => locator.name.camelCase)))

/-- A run of validation: declarations first, then cycles, and the visible locators last. -/
inductive Validation (model : Model) : Except ModelError Unit → Prop
  | misdeclared {error : ModelError} (hdeclared : model.declarationError? = some error) :
      Validation model (.error error)
  | cyclic {error : ModelError} (hdeclared : model.declarationError? = none)
      (hcycles : FirstFault model.CycleCheck model.services (some error)) :
      Validation model (.error error)
  | crowded {error : ModelError} (hdeclared : model.declarationError? = none)
      (hcycles : FirstFault model.CycleCheck model.services none)
      (hlocators : FirstFault model.LocatorCheck model.services (some error)) :
      Validation model (.error error)
  | passes (hdeclared : model.declarationError? = none)
      (hcycles : FirstFault model.CycleCheck model.services none)
      (hlocators : FirstFault model.LocatorCheck model.services none) : Validation model (.ok ())

/-- Locators that a service offers: its own, and those visible from its base under other names. -/
inductive Visible (model : Model) : Service → Locator → Prop
  | own {service : Service} {locator : Locator} (hmem : locator ∈ service.locators) :
      Visible model service locator
  | inherited {service base : Service} {locator : Locator} (hlink : model.BaseLink service base)
      (hvisible : Visible model base locator)
      (hhidden : ∀ own ∈ service.locators, own.name ≠ locator.name) : Visible model service locator

/-- A model that is fit to be planned. -/
structure WellFormed (model : Model) : Prop where
  names : model.services.Pairwise fun a b => a.name ≠ b.name
  root : ∃ service ∈ model.services, service.name = model.root
  bases : ∀ service ∈ model.services, ∀ base, service.base = some base →
    ∃ other ∈ model.services, other.name = base
  targets : ∀ service ∈ model.services, ∀ locator ∈ service.locators,
    ∃ target ∈ model.services, target.name = locator.service
  acyclic : ∀ service ∈ model.services, ¬ model.OnCycle service
  parameterized : ∀ service ∈ model.services, ∀ a b, model.Visible service a → model.Visible service b →
    a.isParameterized → b.isParameterized → a = b

end Model

/-! ## Checking services one by one -/

/-- Checking services one by one ends with the first fault, if the check of each of them ends. -/
theorem firstFault_iff {check : Service → Option ModelError → Prop}
    {fault? : Service → Option ModelError} {services : List Service}
    (hcheck : ∀ service ∈ services, ∀ outcome, check service outcome ↔ fault? service = outcome)
    {outcome : Option ModelError} :
    FirstFault check services outcome ↔ services.findSome? fault? = outcome := by
  induction services generalizing outcome with
  | nil =>
    constructor
    · intro h
      cases h
      rfl
    · rintro rfl
      exact .clean
  | cons service rest ih =>
    obtain ⟨hservice, hrest⟩ := List.forall_mem_cons.mp hcheck
    rw [List.findSome?_cons]
    constructor
    · intro h
      cases h with
      | fault hfault => rw [(hservice _).mp hfault]
      | passes hpasses hrun =>
        rw [(hservice _).mp hpasses]
        exact (ih hrest).mp hrun
    · intro h
      cases hfault : fault? service with
      | some error =>
        rw [hfault] at h
        subst h
        exact .fault ((hservice _).mpr hfault)
      | none =>
        rw [hfault] at h
        exact .passes ((hservice _).mpr hfault) ((ih hrest).mpr h)

/-! ## Locators along a chain of bases -/

namespace Model

variable {model : Model}

/-- The locators that are kept depend on which names were seen, and not on their order. -/
theorem firstOfEachName_congr {seen others : List Name} (h : ∀ name, name ∈ seen ↔ name ∈ others)
    (locators : List Locator) : firstOfEachName seen locators = firstOfEachName others locators := by
  induction locators generalizing seen others with
  | nil => rfl
  | cons locator rest ih =>
    have hcons : ∀ name, name ∈ locator.name :: seen ↔ name ∈ locator.name :: others := by
      simp [h]
    simp only [firstOfEachName, List.contains_iff_mem, h, ih h, ih hcons]

/-- Of two lists of locators, those of the second are kept whose name was not seen in the first. -/
theorem firstOfEachName_append (seen : List Name) (front back : List Locator) :
    firstOfEachName seen (front ++ back) =
      firstOfEachName seen front ++ firstOfEachName (front.map Locator.name ++ seen) back := by
  induction front generalizing seen with
  | nil => rfl
  | cons locator rest ih =>
    rw [List.cons_append, firstOfEachName, firstOfEachName]
    by_cases hseen : locator.name ∈ seen
    · simp only [List.contains_iff_mem, hseen, if_true, ih]
      congr 1
      apply firstOfEachName_congr
      intro name
      simp only [List.map_cons, List.cons_append, List.mem_cons, List.mem_append]
      constructor
      · exact Or.inr
      · rintro (rfl | h)
        · exact .inr hseen
        · exact h
    · simp only [List.contains_iff_mem, hseen, if_false, ih, List.cons_append]
      congr 2
      apply firstOfEachName_congr
      intro name
      simp [or_left_comm]

/-- Where no name is declared twice, all locators are kept whose name was not seen. -/
theorem mem_firstOfEachName {seen : List Name} {locators : List Locator}
    (honce : (locators.map Locator.name).Nodup) {locator : Locator} :
    locator ∈ firstOfEachName seen locators ↔ locator ∈ locators ∧ locator.name ∉ seen := by
  have hfind := firstOfEachName_find? seen locators locator.name
  constructor
  · intro hmem
    have hunseen := (firstOfEachName_nodup seen locators).2 locator hmem
    rw [(find?_eq_some_iff_mem (firstOfEachName_nodup seen locators).1 _ _).mpr ⟨hmem, rfl⟩,
      if_neg hunseen] at hfind
    exact ⟨List.mem_of_find?_eq_some hfind.symm, hunseen⟩
  · rintro ⟨hmem, hunseen⟩
    rw [if_neg hunseen, (find?_eq_some_iff_mem honce _ _).mpr ⟨hmem, rfl⟩] at hfind
    exact List.mem_of_find?_eq_some hfind

/-- Gathering locators up a chain of bases ends with the first locator of each name along the chain. -/
theorem locatorSearch_iff (hnames : (model.services.map Service.name).Nodup) {service : Service}
    {bases : List Service} (hchain : BaseChain model service bases) {seen : List Name}
    {found : List Locator} : LocatorSearch model seen service found ↔
      firstOfEachName seen ((service :: bases).flatMap Service.locators) = found := by
  induction hchain generalizing seen found with
  | root _ hbase =>
    rw [List.flatMap_singleton]
    constructor
    · intro h
      cases h with
      | ends => rfl
      | follows hother => simp [hbase] at hother
    · rintro rfl
      exact .ends (by simp [hbase])
  | @derived service base bases _ hbase hchain ih =>
    have hfound : service.base.bind model.find? = some base := by
      rw [hbase]
      exact find?_of_mem hnames hchain.mem
    rw [List.flatMap_cons, firstOfEachName_append]
    constructor
    · intro h
      cases h with
      | ends hother => simp [hfound] at hother
      | follows hother hrest =>
        cases hfound.symm.trans hother
        rw [ih.mp hrest]
    · rintro rfl
      exact .follows hfound (ih.mpr rfl)

/-- Along a chain of bases the locators are visible that come first under their name. -/
theorem visible_iff (hnames : (model.services.map Service.name).Nodup)
    (honce : ∀ service ∈ model.services, (service.locators.map Locator.name).Nodup) {service : Service}
    {bases : List Service} (hchain : BaseChain model service bases) {seen : List Name}
    {locator : Locator} :
    locator ∈ firstOfEachName seen ((service :: bases).flatMap Service.locators) ↔
      model.Visible service locator ∧ locator.name ∉ seen := by
  induction hchain generalizing seen with
  | @root service hmem hbase =>
    have hown : model.Visible service locator ↔ locator ∈ service.locators := by
      constructor
      · intro h
        cases h with
        | own h => exact h
        | inherited hlink =>
          obtain ⟨_, _, hother⟩ := hlink
          rw [hbase] at hother
          cases hother
      · exact .own
    rw [List.flatMap_singleton, mem_firstOfEachName (honce service hmem), hown]
  | @derived service base bases hmem hbase hchain ih =>
    have hinherited : model.Visible service locator ↔ locator ∈ service.locators ∨
        model.Visible base locator ∧ locator.name ∉ service.locators.map Locator.name := by
      have hlink : model.BaseLink service base := ⟨hmem, hchain.mem, hbase⟩
      constructor
      · intro h
        cases h with
        | own h => exact .inl h
        | inherited hother hvisible hhidden =>
          obtain rfl := hlink.unique hnames hother
          exact .inr ⟨hvisible, by simpa using hhidden⟩
      · rintro (h | ⟨hvisible, hhidden⟩)
        · exact .own h
        · exact .inherited hlink hvisible (by simpa using hhidden)
    rw [List.flatMap_cons, firstOfEachName_append, List.mem_append,
      mem_firstOfEachName (honce service hmem), ih, hinherited, List.mem_append]
    tauto

/-! ## What the run decides -/

/-- The search for cycles finds the same wrong with a service as the bound on the links. -/
theorem Declared.cycleCheck_iff (hdeclared : model.Declared) {service : Service}
    (hmem : service ∈ model.services) (outcome : Option ModelError) :
    model.CycleCheck service outcome ↔ model.cycleError? service = outcome := by
  rw [cycleError?]
  constructor
  · intro h
    cases h with
    | clean hsearch => rw [if_pos ((hdeclared.cycleSearch_iff hmem).mp hsearch)]
    | fault hsearch => simp [(hdeclared.cycleSearch_iff hmem).mp hsearch]
  · rintro rfl
    split
    case isTrue hends => exact .clean ((hdeclared.cycleSearch_iff hmem).mpr hends)
    case isFalse hloops =>
      exact .fault ((hdeclared.cycleSearch_iff hmem).mpr (by simpa using hloops))

/-- Where the chain of bases ends, gathering locators finds the same wrong with a service as the bound on
the links. -/
theorem Declared.locatorCheck_iff (hdeclared : model.Declared) {service : Service}
    {bases : List Service} (hchain : BaseChain model service bases) (outcome : Option ModelError) :
    model.LocatorCheck service outcome ↔ model.parameterError? service = outcome := by
  have hsearch (found : List Locator) :
      LocatorSearch model [] service found ↔ model.visibleLocators service = found := by
    rw [locatorSearch_iff hdeclared.names hchain, visibleLocators, hchain.walk_eq hdeclared.names]
  rw [parameterError?]
  constructor
  · intro h
    cases h with
    | clean hfound hfew =>
      obtain rfl := (hsearch _).mp hfound
      simp [hfew]
    | fault hfound hmany =>
      obtain rfl := (hsearch _).mp hfound
      simp [not_le.mpr hmany]
  · rintro rfl
    split
    case isTrue hfew => exact .clean ((hsearch _).mpr rfl) hfew
    case isFalse hmany => exact .fault ((hsearch _).mpr rfl) (not_le.mp hmany)

/-- The search for cycles from all services ends with the first one from which it comes back to a name. -/
theorem Declared.cycleFault_iff (hdeclared : model.Declared) {outcome : Option ModelError} :
    FirstFault model.CycleCheck model.services outcome ↔
      model.services.findSome? model.cycleError? = outcome :=
  firstFault_iff fun _ hmem => hdeclared.cycleCheck_iff hmem

/-- Where no cycle is found, gathering the locators visible from all services ends with the first one for
which they are too many. -/
theorem Declared.locatorFault_iff (hdeclared : model.Declared)
    (hcycles : model.services.findSome? model.cycleError? = none) {outcome : Option ModelError} :
    FirstFault model.LocatorCheck model.services outcome ↔
      model.services.findSome? model.parameterError? = outcome := by
  apply firstFault_iff
  intro service hmem
  have hends := cycleError?_eq_none_iff.mp (List.findSome?_eq_none_iff.mp hcycles service hmem)
  obtain ⟨bases, hchain⟩ :=
    (hdeclared.exists_baseChain_iff hmem).mpr ((hdeclared.endsWithin_iff hmem).mp hends)
  exact hdeclared.locatorCheck_iff hchain

/-- Validation ends for every model. -/
theorem exists_validation (model : Model) : ∃ outcome, model.Validation outcome := by
  cases hdeclaration : model.declarationError? with
  | some error => exact ⟨_, .misdeclared hdeclaration⟩
  | none =>
    have hdeclared := declarationError?_eq_none_iff.mp hdeclaration
    cases hcycles : model.services.findSome? model.cycleError? with
    | some error => exact ⟨_, .cyclic hdeclaration (hdeclared.cycleFault_iff.mpr hcycles)⟩
    | none =>
      have hclean := hdeclared.cycleFault_iff.mpr hcycles
      have hlocators := (hdeclared.locatorFault_iff hcycles).mpr rfl
      cases hfault : model.services.findSome? model.parameterError? with
      | some error => exact ⟨_, .crowded hdeclaration hclean (hfault ▸ hlocators)⟩
      | none => exact ⟨_, .passes hdeclaration hclean (hfault ▸ hlocators)⟩

/-- Validation has one run for every model, and it ends with what is decided. -/
theorem validation_iff {outcome : Except ModelError Unit} :
    model.Validation outcome ↔ model.validate = outcome := by
  have hdecided (reached : Except ModelError Unit) (h : model.Validation reached) :
      model.validate = reached := by
    cases h with
    | misdeclared hdeclaration =>
      rw [validate_eq_error_iff, error?_eq, hdeclaration]
      rfl
    | cyclic hdeclaration hcycles =>
      have hdeclared := declarationError?_eq_none_iff.mp hdeclaration
      rw [validate_eq_error_iff, error?_eq, hdeclaration, hdeclared.cycleFault_iff.mp hcycles]
      rfl
    | crowded hdeclaration hcycles hlocators =>
      have hdeclared := declarationError?_eq_none_iff.mp hdeclaration
      have hnone := hdeclared.cycleFault_iff.mp hcycles
      rw [validate_eq_error_iff, error?_eq, hdeclaration, hnone,
        (hdeclared.locatorFault_iff hnone).mp hlocators]
      rfl
    | passes hdeclaration hcycles hlocators =>
      have hdeclared := declarationError?_eq_none_iff.mp hdeclaration
      have hnone := hdeclared.cycleFault_iff.mp hcycles
      rw [validate_eq_ok_iff_error?, error?_eq, hdeclaration, hnone,
        (hdeclared.locatorFault_iff hnone).mp hlocators]
      rfl
  constructor
  · exact hdecided outcome
  · rintro rfl
    obtain ⟨reached, hrun⟩ := model.exists_validation
    rwa [hdecided reached hrun]

/-- Where no service declares a locator name twice, at most one locator visible along a chain of bases takes
an argument exactly if any two that do are the same. -/
theorem parameterized_le_one_iff (hnames : (model.services.map Service.name).Nodup)
    (honce : ∀ service ∈ model.services, (service.locators.map Locator.name).Nodup) {service : Service}
    {bases : List Service} (hchain : BaseChain model service bases) :
    ((model.visibleLocators service).filter Locator.isParameterized).length ≤ 1 ↔
      ∀ a b, model.Visible service a → model.Visible service b → a.isParameterized →
        b.isParameterized → a = b := by
  have hvisible (locator : Locator) :
      locator ∈ model.visibleLocators service ↔ model.Visible service locator := by
    rw [visibleLocators, hchain.walk_eq hnames, visible_iff hnames honce hchain]
    simp
  have hnodup : (model.visibleLocators service).Nodup :=
    List.Nodup.of_map Locator.name (firstOfEachName_nodup [] _).1
  rw [← List.toFinset_card_of_nodup (hnodup.filter _), Finset.card_le_one_iff]
  simp only [List.mem_toFinset, List.mem_filter, hvisible]
  grind

/-- In a well-formed model no service leads into a cycle. -/
theorem WellFormed.not_leadsIntoCycle (h : model.WellFormed) (service : Service) :
    ¬ model.LeadsIntoCycle service := by
  rintro ⟨member, _, hcycle⟩
  obtain ⟨_, hlink, _⟩ := Relation.TransGen.head'_iff.mp hcycle
  exact h.acyclic member hlink.1 hcycle

/-- In a well-formed model all declarations are right. -/
theorem WellFormed.declared (h : model.WellFormed) : model.Declared :=
  ⟨List.pairwise_map.mpr h.names, h.root, h.bases, h.targets⟩

/-- A model in which no service declares a locator name twice is valid exactly if it is well-formed. -/
theorem valid_iff_wellFormed
    (honce : ∀ service ∈ model.services, (service.locators.map Locator.name).Nodup) :
    model.Valid ↔ model.WellFormed := by
  constructor
  · intro h
    refine ⟨List.pairwise_map.mp h.names, h.root, h.bases, h.targets, fun service hmem => ?_,
      fun service hmem => ?_⟩
    · obtain ⟨bases, hchain⟩ := h.exists_baseChain hmem
      exact hchain.not_onCycle h.names
    · obtain ⟨bases, hchain⟩ := h.exists_baseChain hmem
      exact (parameterized_le_one_iff h.names honce hchain).mp (h.visible service hmem)
  · intro h
    have hdeclared := h.declared
    refine ⟨hdeclared.names, h.root, h.bases, h.targets, fun service hmem => ?_,
      fun service hmem => ?_⟩
    · exact (hdeclared.endsWithin_iff hmem).mpr (h.not_leadsIntoCycle service)
    · obtain ⟨bases, hchain⟩ :=
        (hdeclared.exists_baseChain_iff hmem).mpr (h.not_leadsIntoCycle service)
      exact (parameterized_le_one_iff hdeclared.names honce hchain).mpr (h.parameterized service hmem)

end Model

/-- Validation ends and accepts exactly the well-formed models, if no service declares two locators of one name;
in these every chain of bases ends. -/
theorem validate_iff_wellFormed {model : Model}
    (honce : ∀ service ∈ model.services, (service.locators.map Locator.name).Nodup) :
    (∀ outcome, model.Validation outcome ↔ model.validate = outcome) ∧
      (model.validate = .ok () ↔ model.WellFormed) ∧
      (model.WellFormed → ∀ service ∈ model.services, ∃ bases, BaseChain model service bases) := by
  refine ⟨fun _ => Model.validation_iff, ?_, fun h service hmem => ?_⟩
  · rw [Model.validate_eq_ok_iff, Model.valid_iff_wellFormed honce]
  · exact (h.declared.exists_baseChain_iff hmem).mpr (h.not_leadsIntoCycle service)

/-- The redeclaring model is well-formed since validation accepts it, and the cyclic one is not since it is
refused. -/
theorem redeclaringModel_wellFormed : redeclaringModel.WellFormed ∧ ¬ cyclicModel.WellFormed := by
  constructor
  · exact (validate_iff_wellFormed (by decide)).2.1.mp (by decide)
  · exact fun h => absurd ((validate_iff_wellFormed (by decide)).2.1.mpr h) (by decide)

end ServiceTree
