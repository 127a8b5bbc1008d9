import ServiceTree.Proofs.ValidPlanning

/-!
# Declarations in another order

A plan says nothing of the order in which a model declares its services, and its services their methods
and locators. Where all names are different, sorting and merging give one result for every order; so two
models that differ in nothing else are planned service by service in step, with the same plan each time.
-/

namespace ServiceTree

/-- A service that differs from another only in the order of its methods and of its locators. -/
structure Service.Rearranged (service other : Service) : Prop where
  name : other.name = service.name
  base : other.base = service.base
  doc : other.doc = service.doc
  methods : other.methods.Perm service.methods
  locators : other.locators.Perm service.locators

/-- A model that differs from another only in the order of its services, and of the methods and the
locators in each of them. -/
structure Model.Rearranged (model other : Model) : Prop where
  name : other.name = model.name
  root : other.root = model.root
  services : ∃ services, List.Forall₂ Service.Rearranged model.services services ∧
    services.Perm other.services

/-- Services have the names of those that they rearrange. -/
theorem names_of_rearranged {services others : List Service}
    (h : List.Forall₂ Service.Rearranged services others) :
    services.map Service.name = others.map Service.name :=
  Outcome.map_eq_map h fun _ _ hservice => hservice.name.symm

/-- A model has the same services as one that it rearranges. -/
theorem Model.Rearranged.names_perm {model other : Model} (h : model.Rearranged other) :
    (model.services.map Service.name).Perm (other.services.map Service.name) := by
  obtain ⟨services, hservices, hperm⟩ := h.services
  rw [names_of_rearranged hservices]
  exact hperm.map _

/-! ## Services in order -/

/-- Sorting by name keeps members side by side that have the same names. -/
theorem forall₂_sortByName {M : Type} {name : M → Name} {R : M → M → Prop} {members others : List M}
    (h : List.Forall₂ R members others) (hname : ∀ a b, R a b → name b = name a) :
    List.Forall₂ R (sortByName name members) (sortByName name others) := by
  -- the pairs are sorted once, by the name that both sides share
  obtain ⟨pairs, hpairs, rfl, rfl⟩ : ∃ pairs : List (M × M), (∀ pair ∈ pairs, R pair.1 pair.2) ∧
      pairs.map Prod.fst = members ∧ pairs.map Prod.snd = others := by
    induction h with
    | nil => exact ⟨[], by simp, rfl, rfl⟩
    | @cons a b _ _ hfirst _ ih =>
      obtain ⟨pairs, hpairs, rfl, rfl⟩ := ih
      exact ⟨(a, b) :: pairs, List.forall_mem_cons.mpr ⟨hfirst, hpairs⟩, rfl, rfl⟩
  have hsorted : ∀ pair ∈ sortByName (fun pair => name pair.1) pairs, R pair.1 pair.2 :=
    fun pair hpair => hpairs pair ((List.mergeSort_perm pairs _).subset hpair)
  have hleft := List.map_mergeSort (f := Prod.fst) (l := pairs)
    (r := fun a b => (name a.1).le (name b.1)) (s := fun a b => (name a).le (name b))
    fun _ _ _ _ => rfl
  have hright := List.map_mergeSort (f := Prod.snd) (l := pairs)
    (r := fun a b => (name a.1).le (name b.1)) (s := fun a b => (name a).le (name b))
    fun a ha b hb => by rw [hname _ _ (hpairs a ha), hname _ _ (hpairs b hb)]
  rw [sortByName, sortByName, ← hleft, ← hright, List.forall₂_map_left_iff, List.forall₂_map_right_iff,
    List.forall₂_same]
  exact hsorted

/-- Services of the same names and bases are placed in step. -/
theorem placeServices_rearranged {placed : List Name} {front putBack ordered : List Service}
    (h : placeServices placed front putBack = .ok ordered) {otherFront otherBack : List Service}
    (hfront : List.Forall₂ Service.Rearranged front otherFront)
    (hback : List.Forall₂ Service.Rearranged putBack otherBack) :
    ∃ others, placeServices placed otherFront otherBack = .ok others ∧
      List.Forall₂ Service.Rearranged ordered others := by
  fun_induction placeServices placed front putBack generalizing ordered otherFront otherBack with
  | case1 placed putBack hempty =>
    cases h
    obtain rfl := List.isEmpty_iff.mp hempty
    cases hfront
    cases hback
    exact ⟨[], by simp [placeServices], .nil⟩
  | case2 => cases h
  | case3 placed putBack service rest hready ih =>
    obtain ⟨tail, htail, rfl⟩ := Outcome.map_eq_ok.mp h
    cases hfront with
    | @cons _ other _ otherRest hservice hrest =>
      obtain ⟨others, hothers, hrel⟩ := ih htail (List.rel_append hrest hback) .nil
      have hotherReady : isReady placed other = true := by rw [isReady, hservice.base]; exact hready
      refine ⟨other :: others, ?_, .cons hservice hrel⟩
      rw [placeServices, if_pos hotherReady, hservice.name, hothers]
      rfl
  | case4 placed putBack service rest hready ih =>
    cases hfront with
    | @cons _ other _ otherRest hservice hrest =>
      obtain ⟨others, hothers, hrel⟩ := ih h hrest (List.rel_append hback (.cons hservice .nil))
      have hotherReady : ¬ isReady placed other = true := by rw [isReady, hservice.base]; exact hready
      refine ⟨others, ?_, hrel⟩
      rw [placeServices, if_neg hotherReady, hothers]

/-- The services of rearranged models are put in the same order. -/
theorem orderServices_rearranged {model other : Model} (h : model.Rearranged other)
    (hnames : (model.services.map Service.name).Nodup) {ordered : List Service}
    (hordered : orderServices model.services = .ok ordered) :
    ∃ others, orderServices other.services = .ok others ∧
      List.Forall₂ Service.Rearranged ordered others := by
  obtain ⟨services, hservices, hperm⟩ := h.services
  have hsorted : List.Forall₂ Service.Rearranged (sortServices model.services)
      (sortServices other.services) := by
    have hsame : sortServices services = sortServices other.services :=
      sortByName_eq_of_perm (names_of_rearranged hservices ▸ hnames) hperm
    rw [← hsame]
    exact forall₂_sortByName hservices fun _ _ hservice => hservice.name
  exact placeServices_rearranged hordered hsorted .nil

/-! ## Members in order -/

/-- What a name finds among the services has that name. -/
theorem Model.find?_map_name (model : Model) (sought : Name) :
    (model.find? sought).map Service.name =
      if sought ∈ model.services.map Service.name then some sought else none := by
  cases hfound : model.find? sought with
  | none =>
    have hnone : sought ∉ model.services.map Service.name := by
      simpa [Model.find?, List.find?_eq_none] using hfound
    rw [if_neg hnone, Option.map_none]
  | some service =>
    have hname : service.name = sought := by simpa using List.find?_some hfound
    have hmem : sought ∈ model.services.map Service.name :=
      List.mem_map.mpr ⟨service, List.mem_of_find?_eq_some hfound, hname⟩
    rw [if_pos hmem, Option.map_some, hname]

/-- A locator is planned by the names of the services that there are, whatever their order. -/
theorem Locator.plan_of_rearranged {model other : Model} (h : model.Rearranged other)
    (locator : Locator) : locator.plan other = locator.plan model := by
  have htargets : (other.find? locator.service).map Service.name =
      (model.find? locator.service).map Service.name := by
    rw [Model.find?_map_name, Model.find?_map_name]
    simp only [h.names_perm.mem_iff]
  unfold Locator.plan
  cases hother : other.find? locator.service with
  | none =>
    rw [hother, Option.map_none, eq_comm, Option.map_eq_none_iff] at htargets
    rw [htargets]
  | some target =>
    rw [hother, Option.map_some, eq_comm, Option.map_eq_some_iff] at htargets
    obtain ⟨found, hfound, hname⟩ := htargets
    rw [hfound]
    simp only [hname]

variable {model other : Model}

/-- A service whose members are declared in another order has the same plan. -/
theorem Service.plan_of_rearranged (hmodel : model.Rearranged other) {service declaring : Service}
    (hservice : service.Rearranged declaring) (hmethods : (service.methods.map Method.name).Nodup)
    (hlocators : (service.locators.map Locator.name).Nodup) {base : Option ServicePlan}
    (hbase : ∀ plan ∈ base, Merged plan) {made : ServicePlan}
    (hmade : service.plan model base = .ok made) : declaring.plan other base = .ok made := by
  obtain ⟨declared, hdeclared, hfew, rfl⟩ := Service.plan_eq_ok.mp hmade
  obtain ⟨others, hothers, hperm⟩ :=
    List.perm_comp_forall₂ hservice.locators (Outcome.mapM_eq_ok.mp hdeclared)
  obtain ⟨hoperationNames, hlocatorNames⟩ := Service.inherited_nodup hbase
  have hdeclaredNames : (declared.map LocatorPlan.name).Nodup := by
    have hsame : service.locators.map Locator.name = declared.map LocatorPlan.name :=
      Outcome.map_eq_map (Outcome.mapM_eq_ok.mp hdeclared) fun _ _ hplan =>
        (Locator.plan_name hplan).1.symm
    rwa [← hsame]
  have hplanNames : ((service.methods.map Method.plan).map OperationPlan.name).Nodup := by
    rw [List.map_map]
    exact hmethods
  have hassemble : declaring.assemble base others = service.assemble base declared := by
    have hoperations := mergeMembers_eq_of_perm hoperationNames hplanNames
      (hservice.methods.symm.map Method.plan)
    have hmerged := mergeMembers_eq_of_perm hlocatorNames hdeclaredNames hperm.symm
    simp only [Service.assemble, hservice.name, hservice.base, hservice.doc, hoperations, hmerged]
  refine Service.plan_eq_ok.mpr ⟨others, Outcome.mapM_eq_ok.mpr ?_, ?_, hassemble.symm⟩
  · exact hothers.imp fun locator plan hplan => (locator.plan_of_rearranged hmodel).trans hplan
  · rw [hassemble]
    exact hfew

/-- Services that are planned in step have the same plans. The invariant is that the members of all plans
made so far are merged. -/
theorem planServices_rearranged (hmodel : model.Rearranged other)
    {services others : List Service} (hservices : List.Forall₂ Service.Rearranged services others)
    (honce : ∀ service ∈ services, (service.methods.map Method.name).Nodup ∧
      (service.locators.map Locator.name).Nodup)
    {planned result : List ServicePlan} (hplanned : ∀ earlier ∈ planned, Merged earlier)
    (h : planServices model planned services = .ok result) :
    planServices other planned others = .ok result := by
  induction hservices generalizing planned with
  | nil => exact h
  | @cons service declaring _ _ hservice hrest ih =>
    obtain ⟨hown, honce⟩ := List.forall_mem_cons.mp honce
    rw [planServices, Outcome.bind_eq_ok] at h
    obtain ⟨base, hbase, h⟩ := h
    obtain ⟨made, hmade, h⟩ := Outcome.bind_eq_ok.mp h
    have hinherited : ∀ plan ∈ base, Merged plan := by
      rintro plan rfl
      exact hplanned plan (basePlan_eq_some hbase).1
    have hmerged : Merged made := by
      obtain ⟨declared, _, _, rfl⟩ := Service.plan_eq_ok.mp hmade
      exact Service.assemble_merged hinherited service declared
    have hsameBase : basePlan planned declaring = .ok base := by
      rw [basePlan, hservice.base]
      exact hbase
    have hsamePlan := Service.plan_of_rearranged hmodel hservice hown.1 hown.2 hinherited hmade
    have hnext : ∀ earlier ∈ planned ++ [made], Merged earlier :=
      List.forall_mem_append.mpr ⟨hplanned, by simpa using hmerged⟩
    rw [planServices, Outcome.bind_eq_ok]
    exact ⟨base, hsameBase, Outcome.bind_eq_ok.mpr ⟨made, hsamePlan, ih honce hnext h⟩⟩

/-- A plan does not depend on the order of declarations. Where all services have different names, and so
have all methods and all locators of each service, rearranging them gives a model with the same plan. -/
theorem plan_rearranged (hnames : (model.services.map Service.name).Nodup)
    (hmethods : ∀ service ∈ model.services, (service.methods.map Method.name).Nodup)
    (hlocators : ∀ service ∈ model.services, (service.locators.map Locator.name).Nodup)
    (hmodel : model.Rearranged other) {plan : ClientPlan} (hplan : model.plan = .ok plan) :
    other.plan = .ok plan := by
  unfold Model.plan at hplan ⊢
  obtain ⟨ordered, hordered, hplan⟩ := Outcome.bind_eq_ok.mp hplan
  obtain ⟨services, hservices, hplan⟩ := Outcome.bind_eq_ok.mp hplan
  obtain ⟨others, hothers, hrel⟩ := orderServices_rearranged hmodel hnames hordered
  have hsub : ordered ⊆ model.services := (orderServices_ok hordered).1.subset
  have hsame := planServices_rearranged hmodel hrel
    (fun service hservice => ⟨hmethods service (hsub hservice), hlocators service (hsub hservice)⟩)
    (by simp) hservices
  rw [hothers]
  change (planServices other [] others >>= _) = _
  rw [hsame, hmodel.root, hmodel.name]
  exact hplan

/-- The redeclaring model with everything declared the other way round. -/
def reversedModel : Model where
  name := redeclaringModel.name
  root := redeclaringModel.root
  services := [{ shelfService with locators := shelfService.locators.reverse },
    { redeclaringService with locators := redeclaringService.locators.reverse }]

/-- The redeclaring model and its reversal have the same plan. -/
theorem reversedModel_plan : redeclaringModel.plan = .ok redeclaringPlan ∧
    reversedModel.plan = .ok redeclaringPlan := by
  have hreversed : ∀ service : Service,
      service.Rearranged { service with locators := service.locators.reverse } := fun service =>
    ⟨rfl, rfl, rfl, .refl _, service.locators.reverse_perm⟩
  have hmodel : redeclaringModel.Rearranged reversedModel :=
    ⟨rfl, rfl, _, .cons (hreversed redeclaringService) (.cons (hreversed shelfService) .nil),
      .swap _ _ []⟩
  exact ⟨redeclaringModel_plan,
    plan_rearranged (by decide) (by decide) (by decide) hmodel redeclaringModel_plan⟩

end ServiceTree
