import ServiceTree.Proofs.ModelValidity

/-!
# Planning valid models

Validation and planning both want at most one of the locators visible from a service to take an
argument, but they read a service that declares a name more than once differently: validation takes
the first declaration, planning the last. So a valid model can be planned exactly if the rule also holds
for the last declarations, and in particular if no service declares a name twice. Nothing else can go
wrong with a valid model.
-/

namespace ServiceTree

namespace Model

/-- A name finds the first locator of the name, unless the name was seen. -/
theorem firstOfEachName_find? (seen : List Name) (locators : List Locator) (sought : Name) :
    ((firstOfEachName seen locators).find? fun locator => locator.name = sought) =
      if sought ∈ seen then none else locators.find? fun locator => locator.name = sought := by
  induction locators generalizing seen with
  | nil => simp [firstOfEachName]
  | cons locator rest ih =>
    rw [firstOfEachName, List.find?_cons]
    by_cases hname : locator.name = sought
    · by_cases hseen : sought ∈ seen
      · simp [ih, hname, hseen]
      · simp [hname, hseen]
    · by_cases hseen : locator.name ∈ seen
      · simp [ih, hname, hseen]
      · simp [ih, hname, hseen, Ne.symm hname]

/-- The locators that are kept have different names, none of which was seen. -/
theorem firstOfEachName_nodup (seen : List Name) (locators : List Locator) :
    ((firstOfEachName seen locators).map Locator.name).Nodup ∧
      ∀ locator ∈ firstOfEachName seen locators, locator.name ∉ seen := by
  induction locators generalizing seen with
  | nil => simp [firstOfEachName]
  | cons locator rest ih =>
    rw [firstOfEachName]
    split
    case isTrue => exact ih seen
    case isFalse hseen =>
      obtain ⟨hnodup, hfresh⟩ := ih (locator.name :: seen)
      rw [List.map_cons, List.nodup_cons]
      refine ⟨⟨?_, hnodup⟩, ?_⟩
      · intro hmem
        obtain ⟨other, hother, hname⟩ := List.mem_map.mp hmem
        exact hfresh other hother (by simp [hname])
      · intro other hother
        rcases List.mem_cons.mp hother with rfl | hother
        · simpa using hseen
        · exact fun hmem => hfresh other hother (List.mem_cons_of_mem _ hmem)

/-- The locators that planning sees from a service: for each name the last declaration in the nearest
service. -/
def latestLocators (model : Model) (service : Service) : List Locator :=
  firstOfEachName [] ((model.chain model.services.length service).flatMap fun level =>
    level.locators.reverse)

variable {model : Model}

/-- The locators that planning sees have different names. -/
theorem latestLocators_nodup (service : Service) :
    ((model.latestLocators service).map Locator.name).Nodup :=
  (firstOfEachName_nodup [] _).1

/-- In a model of different names a name finds its nearest declaration among the locators that planning
sees. -/
theorem latestLocators_find? (hnames : (model.services.map Service.name).Nodup) {service : Service}
    {bases : List Service} (hchain : BaseChain model service bases) (sought : Name) :
    ((model.latestLocators service).find? fun locator => locator.name = sought) =
      nearest? Locator.name Service.locators (service :: bases) sought := by
  rw [latestLocators, firstOfEachName_find?, if_neg (List.not_mem_nil), hchain.walk_eq hnames,
    List.find?_flatMap]
  rfl

/-- Where no service declares a name twice, planning sees the same locators as validation. -/
theorem latestLocators_perm (hnames : (model.services.map Service.name).Nodup) {service : Service}
    {bases : List Service} (hchain : BaseChain model service bases)
    (honce : ∀ level ∈ model.services, (level.locators.map Locator.name).Nodup) :
    (model.latestLocators service).Perm (model.visibleLocators service) := by
  have hvisible : ((model.visibleLocators service).map Locator.name).Nodup :=
    (firstOfEachName_nodup [] _).1
  apply perm_of_find?_eq (latestLocators_nodup service) hvisible
  intro sought
  rw [latestLocators_find? hnames hchain, visibleLocators, firstOfEachName_find?,
    if_neg (List.not_mem_nil), hchain.walk_eq hnames, List.find?_flatMap]
  exact nearest?_eq_findSome? fun level hlevel => honce level (hchain.subset hlevel)

/-- In a valid model where no service declares a name twice, planning sees at most one locator that
takes an argument. -/
theorem Valid.latest_le_one_of_once (h : model.Valid)
    (honce : ∀ level ∈ model.services, (level.locators.map Locator.name).Nodup) {service : Service}
    (hmem : service ∈ model.services) :
    ((model.latestLocators service).filter Locator.isParameterized).length ≤ 1 := by
  obtain ⟨bases, hchain⟩ := h.exists_baseChain hmem
  rw [((latestLocators_perm h.names hchain honce).filter _).length_eq]
  exact h.visible service hmem

end Model

variable {model : Model}

/-- Planning locators one by one keeps how many of them take an argument. -/
theorem parameterized_length_of_planned {locators : List Locator} {plans : List LocatorPlan}
    (h : List.Forall₂ (fun locator plan => locator.plan model = .ok plan) locators plans) :
    (plans.filter LocatorPlan.isParameterized).length =
      (locators.filter Locator.isParameterized).length := by
  induction h with
  | nil => rfl
  | @cons locator plan locators plans hplan _ ih =>
    rw [List.filter_cons, List.filter_cons, (Locator.plan_name hplan).2.1]
    split <;> simp [ih]

/-- Planning locators one by one keeps their names. -/
theorem names_of_planned {locators : List Locator} {plans : List LocatorPlan}
    (h : List.Forall₂ (fun locator plan => locator.plan model = .ok plan) locators plans) :
    locators.map Locator.name = plans.map LocatorPlan.name :=
  Outcome.map_eq_map h fun _ _ hplan => (Locator.plan_name hplan).1.symm

/-- In a model of different names the merged locators of a service are the plans of the locators that
planning sees. -/
theorem PlannedBase.assemble_locators_perm (hnames : (model.services.map Service.name).Nodup)
    {service : Service} {bases : List Service} {base : Option ServicePlan} {declared : List LocatorPlan}
    (h : PlannedBase model service bases base) (hmem : service ∈ model.services)
    (hdeclared : service.locators.mapM (Locator.plan model) = .ok declared) :
    ∃ plans, List.Forall₂ (fun locator plan => locator.plan model = .ok plan)
        (model.latestLocators service) plans ∧
      (service.assemble base declared).locators.Perm plans := by
  have hfind (sought : Name) : ((service.assemble base declared).locator? sought).map Except.ok =
      ((model.latestLocators service).find? fun locator => locator.name = sought).map
        (Locator.plan model) := by
    rw [Model.latestLocators_find? hnames (h.baseChain hmem), h.assemble_locator?_eq hdeclared]
  -- whatever planning sees under a name is the plan of a merged locator, so planning it succeeds
  have hplans : ∃ plans, (model.latestLocators service).mapM (Locator.plan model) = .ok plans := by
    apply Outcome.mapM_isOk
    intro locator hlocator
    have hfound := hfind locator.name
    rw [(find?_eq_some_iff_mem (Model.latestLocators_nodup service) _ _).mpr ⟨hlocator, rfl⟩,
      Option.map_some, Option.map_eq_some_iff] at hfound
    obtain ⟨plan, _, hplan⟩ := hfound
    exact ⟨plan, hplan.symm⟩
  obtain ⟨plans, hplans⟩ := hplans
  have hpaired := Outcome.mapM_eq_ok.mp hplans
  have hplansNodup : (plans.map LocatorPlan.name).Nodup := by
    rw [← names_of_planned hpaired]
    exact Model.latestLocators_nodup service
  refine ⟨plans, hpaired, perm_of_find?_eq ?_ hplansNodup ?_⟩
  · exact nodup_of_increasing (Service.assemble_merged h.merged service declared).locators
  · intro sought
    have hlatest := latest?_of_planned hpaired sought
    rw [latest?_eq_find? hplansNodup, latest?_eq_find? (Model.latestLocators_nodup service),
      ← hfind] at hlatest
    exact (Option.map_injective (fun _ _ heq => Except.ok.inj heq) hlatest).symm

/-- In a model of different names a service has as many locators with an argument as planning sees. -/
theorem PlannedBase.parameterized_length (hnames : (model.services.map Service.name).Nodup)
    {service : Service} {bases : List Service} {base : Option ServicePlan} {declared : List LocatorPlan}
    (h : PlannedBase model service bases base) (hmem : service ∈ model.services)
    (hdeclared : service.locators.mapM (Locator.plan model) = .ok declared) :
    ((service.assemble base declared).locators.filter LocatorPlan.isParameterized).length =
      ((model.latestLocators service).filter Locator.isParameterized).length := by
  obtain ⟨plans, hplans, hperm⟩ := h.assemble_locators_perm hnames hmem hdeclared
  rw [← parameterized_length_of_planned hplans]
  exact (hperm.filter _).length_eq

/-- Planning a service of a valid model fails only if several of its locators take an argument. -/
theorem PlannedBase.plan_error (hvalid : model.Valid) {service : Service} {bases : List Service}
    {base : Option ServicePlan} {error : GenerationError}
    (h : PlannedBase model service bases base) (hmem : service ∈ model.services)
    (herror : service.plan model base = .error error) :
    1 < ((model.latestLocators service).filter Locator.isParameterized).length ∧
      ∃ locators, error = .model (.severalParameterized service.name.camelCase locators) := by
  rcases Service.plan_eq_error herror with ⟨locator, hlocator, hfails⟩ |
    ⟨declared, hdeclared, hmany, herror⟩
  · obtain ⟨plan, hplan⟩ := Locator.plan_isOk_iff.mpr (hvalid.targets service hmem locator hlocator)
    rw [hplan] at hfails
    cases hfails
  · rw [h.parameterized_length hvalid.names hmem hdeclared] at hmany
    exact ⟨hmany, _, herror⟩

/-- From a service that was planned, planning sees at most one locator that takes an argument. -/
theorem Planned.latest_le_one (hnames : (model.services.map Service.name).Nodup) {service : Service}
    {bases : List Service} {made : ServicePlan} (h : Planned model service bases made) :
    ((model.latestLocators service).filter Locator.isParameterized).length ≤ 1 := by
  obtain ⟨base, hbase, hmade⟩ := h.last_step
  obtain ⟨declared, hdeclared, hfew, _⟩ := Service.plan_eq_ok.mp hmade
  rwa [hbase.parameterized_length hnames h.baseChain.mem hdeclared] at hfew

namespace Model.Valid

/-- While a valid model is planned, the base of the next service is always found. -/
theorem basePlan_isOk {before after : List Service} {service : Service}
    {earlier : List ServicePlan} (hfirst : BaseFirst [] (before ++ service :: after))
    (hearlier : List.Forall₂ (fun service plan => ∃ bases, Planned model service bases plan)
      before earlier) : ∃ base, basePlan earlier service = .ok base := by
  apply ServiceTree.basePlan_isOk
  have hready := isReady_iff.mp hfirst.ready_of_append
  rw [isReady_iff]
  intro base hbase
  rw [← names_of_made hearlier]
  simpa using hready base hbase

/-- Planning the services of a valid model one by one fails only at a service from which planning
sees several locators that take an argument. -/
theorem planServices_error (hvalid : model.Valid) {ordered : List Service}
    (hperm : ordered.Perm model.services) (hfirst : BaseFirst [] ordered) {error : GenerationError}
    (herror : planServices model [] ordered = .error error) :
    ∃ service ∈ model.services,
      1 < ((model.latestLocators service).filter Locator.isParameterized).length ∧
        ∃ locators, error = .model (.severalParameterized service.name.camelCase locators) := by
  obtain ⟨before, service, after, earlier, rfl, hbefore, hfails⟩ :=
    ServiceTree.planServices_error herror
  have hmem : service ∈ model.services := hperm.subset (by simp)
  have hsub : before ⊆ model.services := fun other hother => hperm.subset (by simp [hother])
  obtain ⟨plans, rfl, hplans⟩ := planServices_ok hsub (by simp) hbefore
  obtain ⟨base, hbase⟩ := basePlan_isOk hfirst hplans
  rw [hbase] at hfails
  rcases hfails with hfails | ⟨found, hfound, hfails⟩
  · cases hfails
  · cases hfound
    obtain ⟨bases, htaken⟩ := plannedBase_of_basePlan (planned_of_made hplans) hbase
    exact ⟨service, hmem, htaken.plan_error hvalid hmem hfails⟩

/-- A valid model that cannot be planned has a service from which planning sees several locators that
take an argument, and this is what is reported. -/
theorem plan_error (hvalid : model.Valid) {error : GenerationError}
    (herror : model.plan = .error error) :
    ∃ service ∈ model.services,
      1 < ((model.latestLocators service).filter Locator.isParameterized).length ∧
        ∃ locators, error = .model (.severalParameterized service.name.camelCase locators) := by
  obtain ⟨ordered, hordered⟩ := orderServices_isOk_iff.mpr hvalid.grounded
  obtain ⟨hperm, hfirst⟩ := orderServices_ok hordered
  rcases Model.plan_eq_error herror with hfails | ⟨placed, hplaced, hfails⟩
  · rw [hordered] at hfails
    cases hfails
  · rw [hordered] at hplaced
    cases hplaced
    rcases hfails with hfails | ⟨services, hservices, hroot⟩
    · exact hvalid.planServices_error hperm hfirst hfails
    · obtain ⟨plans, rfl, hplans⟩ := planServices_ok hperm.subset (by simp) hservices
      obtain ⟨root, hmem, hname⟩ := hvalid.root
      refine absurd ?_ hroot
      rw [← names_of_made hplans]
      exact List.mem_map.mpr ⟨root, hperm.mem_iff.mpr hmem, hname⟩

/-- In the plan of a valid model, planning sees at most one locator that takes an argument from each
service. -/
theorem latest_le_one (hvalid : model.Valid) {plan : ClientPlan} (hplan : model.plan = .ok plan)
    {service : Service} (hmem : service ∈ model.services) :
    ((model.latestLocators service).filter Locator.isParameterized).length ≤ 1 := by
  obtain ⟨bases, made, _, hmade⟩ := planned_of_mem hplan hmem
  exact hmade.latest_le_one hvalid.names

/-- A valid model can be planned if planning sees at most one locator that takes an argument from each
service. -/
theorem plan_isOk (hvalid : model.Valid) (hfew : ∀ service ∈ model.services,
    ((model.latestLocators service).filter Locator.isParameterized).length ≤ 1) :
    ∃ plan, model.plan = .ok plan := by
  cases hplan : model.plan with
  | ok plan => exact ⟨plan, rfl⟩
  | error error =>
    obtain ⟨service, hmem, hmany, _⟩ := hvalid.plan_error hplan
    exact absurd (hfew service hmem) (not_le.mpr hmany)

end Model.Valid

/-- A valid model can be planned exactly if planning, too, sees at most one locator with an argument from each
service; only a service that declares one name twice can make it fail. -/
theorem plan_of_validate (hvalidate : model.validate = .ok ()) :
    ((∃ plan, model.plan = .ok plan) ↔ ∀ service ∈ model.services,
      ((model.latestLocators service).filter Locator.isParameterized).length ≤ 1) ∧
    (∀ error, model.plan = .error error → ∃ service ∈ model.services,
      1 < ((model.latestLocators service).filter Locator.isParameterized).length ∧
        ∃ locators, error = .model (.severalParameterized service.name.camelCase locators)) ∧
    ((∀ service ∈ model.services, (service.locators.map Locator.name).Nodup) →
      ∃ plan, model.plan = .ok plan) := by
  have hvalid : model.Valid := Model.validate_eq_ok_iff.mp hvalidate
  refine ⟨⟨?_, hvalid.plan_isOk⟩, fun error => hvalid.plan_error, ?_⟩
  · rintro ⟨plan, hplan⟩ service hmem
    exact hvalid.latest_le_one hplan hmem
  · intro honce
    exact hvalid.plan_isOk fun service hmem => hvalid.latest_le_one_of_once honce hmem

/-- A locator without an argument. -/
def literalLocator (name service : Name) : Locator := ⟨name, none, service, none⟩

/-- A locator that takes a text. -/
def wildcardLocator (name service : Name) : Locator :=
  ⟨name, some ⟨⟨["id"]⟩, .primitive .string, true, false, none⟩, service, none⟩

/-- A service with a locator for each of two names, one of which takes an argument. -/
def shelfService : Service where
  name := ⟨["shelf"]⟩
  base := none
  methods := []
  locators := [wildcardLocator ⟨["item"]⟩ ⟨["root"]⟩, literalLocator ⟨["box"]⟩ ⟨["shelf"]⟩]
  doc := none

/-- A service that redeclares both locators of its base the other way round. -/
def redeclaringService : Service where
  name := ⟨["root"]⟩
  base := some ⟨["shelf"]⟩
  methods := []
  locators := [literalLocator ⟨["item"]⟩ ⟨["root"]⟩, wildcardLocator ⟨["box"]⟩ ⟨["shelf"]⟩]
  doc := none

/-- A model of a base and a service that redeclares all its locators. -/
def redeclaringModel : Model where
  name := ⟨["shop"]⟩
  root := ⟨["root"]⟩
  services := [redeclaringService, shelfService]

/-- The redeclaring model passes validation and is planned. -/
theorem redeclaringModel_planned :
    redeclaringModel.validate = .ok () ∧ ∃ plan, redeclaringModel.plan = .ok plan := by
  have hvalidate : redeclaringModel.validate = .ok () := by decide
  refine ⟨hvalidate, (plan_of_validate hvalidate).1.mpr ?_⟩
  decide

/-- The plan of a locator whose name and target are words, with the name of its argument. -/
def wordLocator (word : String) (argument : Option String) (target targetType : String) :
    LocatorPlan where
  name := ⟨[word]⟩
  accessor := word ++ "_service"
  segment := word
  argument := argument
  target := ⟨[target]⟩
  targetType := targetType
  doc := "Locates the `" ++ word ++ "` service."

/-- The plan of the shelf: `item` takes an argument, `box` takes none. -/
def shelfServicePlan : ServicePlan where
  name := ⟨["shelf"]⟩
  typeName := "ShelfService"
  base := none
  doc := none
  operations := []
  locators := [wordLocator "box" none "shelf" "ShelfService",
    wordLocator "item" (some "id") "root" "RootService"]
  router := ⟨[⟨⟨["box"]⟩, "box", ⟨["shelf"]⟩⟩], some ⟨⟨["item"]⟩, "item", ⟨["root"]⟩⟩⟩

/-- The plan of the service that redeclares both: `box` takes an argument, `item` takes none. -/
def redeclaringServicePlan : ServicePlan where
  name := ⟨["root"]⟩
  typeName := "RootService"
  base := some ⟨["shelf"]⟩
  doc := none
  operations := []
  locators := [wordLocator "box" (some "id") "shelf" "ShelfService",
    wordLocator "item" none "root" "RootService"]
  router := ⟨[⟨⟨["item"]⟩, "item", ⟨["root"]⟩⟩], some ⟨⟨["box"]⟩, "box", ⟨["shelf"]⟩⟩⟩

/-- The plan of the redeclaring model, whose root stands behind its base. -/
def redeclaringPlan : ClientPlan := ⟨"Shop", 1, [shelfServicePlan, redeclaringServicePlan]⟩

/-- The redeclaring model has that plan. -/
theorem redeclaringModel_plan : redeclaringModel.plan = .ok redeclaringPlan := by
  have hordered : orderServices redeclaringModel.services = .ok [shelfService, redeclaringService] := by
    have hsorted : sortServices redeclaringModel.services = [redeclaringService, shelfService] :=
      List.mergeSort_of_pairwise (by decide)
    -- the root waits for its base
    rw [orderServices, hsorted, placeServices, if_neg (by decide), placeServices, if_pos (by decide)]
    simp [placeServices, isReady, Except.map, redeclaringService, shelfService]
  have hnone : mergeMembers OperationPlan.name [] [] = [] := List.mergeSort_nil
  have hshelf : shelfService.plan redeclaringModel none = .ok shelfServicePlan := by
    have hdeclared : shelfService.locators.mapM (Locator.plan redeclaringModel) =
        .ok shelfServicePlan.locators.reverse := by decide +kernel
    have hlocators : mergeMembers LocatorPlan.name [] shelfServicePlan.locators.reverse =
        shelfServicePlan.locators :=
      sortByName_eq_of_ordered (by decide) (by decide) (by decide)
    have hplan : shelfService.plan redeclaringModel none = .ok _ :=
      Service.plan_of_merged hdeclared hnone hlocators (by decide)
    exact hplan.trans (by decide +kernel)
  have hredeclaring : redeclaringService.plan redeclaringModel (some shelfServicePlan) =
      .ok redeclaringServicePlan := by
    have hdeclared : redeclaringService.locators.mapM (Locator.plan redeclaringModel) =
        .ok redeclaringServicePlan.locators.reverse := by decide +kernel
    have hlocators : mergeMembers LocatorPlan.name shelfServicePlan.locators
        redeclaringServicePlan.locators.reverse = redeclaringServicePlan.locators :=
      sortByName_eq_of_ordered (by decide) (by decide) (by decide)
    have hplan : redeclaringService.plan redeclaringModel (some shelfServicePlan) = .ok _ :=
      Service.plan_of_merged hdeclared hnone hlocators (by decide)
    exact hplan.trans (by decide +kernel)
  have hservices : planServices redeclaringModel [] [shelfService, redeclaringService] =
      .ok [shelfServicePlan, redeclaringServicePlan] := by
    have hbase : basePlan [shelfServicePlan] redeclaringService = .ok (some shelfServicePlan) := by
      decide
    refine Outcome.bind_eq_ok.mpr ⟨none, rfl, Outcome.bind_eq_ok.mpr ⟨_, hshelf, ?_⟩⟩
    exact Outcome.bind_eq_ok.mpr ⟨_, hbase, Outcome.bind_eq_ok.mpr ⟨_, hredeclaring, rfl⟩⟩
  refine Outcome.bind_eq_ok.mpr ⟨_, hordered, Outcome.bind_eq_ok.mpr ⟨_, hservices, ?_⟩⟩
  decide +kernel

/-- A service that declares one name twice, first without and then with an argument, and another name
with an argument. -/
def repeatingService : Service where
  name := ⟨["root"]⟩
  base := none
  methods := []
  locators := [literalLocator ⟨["a"]⟩ ⟨["root"]⟩, wildcardLocator ⟨["a"]⟩ ⟨["root"]⟩,
    wildcardLocator ⟨["b"]⟩ ⟨["root"]⟩]
  doc := none

/-- A model of the repeating service alone. -/
def repeatingModel : Model := ⟨⟨["shop"]⟩, ⟨["root"]⟩, [repeatingService]⟩

/-- Validation is not enough for planning: validation counts the first declaration of the repeated
name, planning the last. -/
theorem repeatingModel_not_planned :
    ¬ ∀ model : Model, model.validate = .ok () → ∃ plan, model.plan = .ok plan := by
  intro h
  have hvalidate : repeatingModel.validate = .ok () := by decide
  obtain ⟨plan, hplan⟩ := h repeatingModel hvalidate
  have hvalid : repeatingModel.Valid := Model.validate_eq_ok_iff.mp hvalidate
  have hfew := hvalid.latest_le_one hplan List.mem_cons_self
  exact absurd hfew (by decide)

end ServiceTree
