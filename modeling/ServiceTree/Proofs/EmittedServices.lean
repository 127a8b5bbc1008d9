import ServiceTree.Emit.Execution
import ServiceTree.Proofs.PlanInvariants

/-!
# Emitted services by name

Emitted code refers to services by the names of their types, and to members by their own names. An
identifier is written as the text it was made of, so that different texts have different identifiers;
and the emitter refuses services whose members share a name. Hence a name in emitted code finds what
it was emitted for.
-/

namespace ServiceTree

namespace Identifier

/-- An identifier is written as the text that spells it. -/
theorem token_of_spelled {text : String} {identifier : Identifier}
    (h : spelled text = .ok identifier) : identifier.token = text := by
  unfold spelled at h
  split at h
  case h_1 rest hraw =>
    dsimp only at h
    split at h
    · cases h
      change "r#" ++ String.ofList rest = text
      rw [← String.toList_inj, String.toList_append, hraw]
      change 'r' :: '#' :: (String.ofList rest).toList = _
      rw [String.toList_ofList]
    · cases h
  case h_2 =>
    split at h
    · cases h
      rfl
    · cases h

/-- No keyword ends like the name of an accessor. -/
theorem reserved_not_accessor : ∀ word ∈ neverRaw ++ keywords,
    "_service".toList.isSuffixOf word.toList = false := by
  decide +kernel

/-- The name of an accessor is no keyword and needs no escape. -/
theorem escaped_accessor (name : Name) : escaped name.accessor = spelled name.accessor := by
  have hfree : name.accessor ∉ neverRaw ++ keywords := by
    intro hmem
    have hends := reserved_not_accessor _ hmem
    rw [Name.accessor, String.toList_append, Bool.eq_false_iff] at hends
    exact hends (List.isSuffixOf_iff_suffix.mpr (List.suffix_append _ _))
  rw [List.mem_append, not_or] at hfree
  unfold escaped
  rw [if_neg (by simpa using hfree.1), if_neg (by simpa using hfree.2)]

end Identifier

namespace ServicePlan

/-- Where no text repeats an earlier one, all texts are different and none was seen before. -/
theorem nodup_of_firstRepeated? {seen texts : List String} (h : firstRepeated? seen texts = none) :
    texts.Nodup ∧ ∀ text ∈ texts, text ∉ seen := by
  induction texts generalizing seen with
  | nil => simp
  | cons text rest ih =>
    rw [firstRepeated?] at h
    split at h
    case isTrue => cases h
    case isFalse hseen =>
      obtain ⟨hrest, hnew⟩ := ih h
      refine ⟨List.nodup_cons.mpr ⟨fun hmem => hnew text hmem List.mem_cons_self, hrest⟩, ?_⟩
      intro other hother
      rcases List.mem_cons.mp hother with rfl | hother
      · simpa using hseen
      · exact fun hmem => hnew other hother (List.mem_cons_of_mem _ hmem)

end ServicePlan

/-- What the code of an accessor consists of. -/
theorem AccessorCode.ofPlan_eq_ok {locator : LocatorPlan} {accessor : AccessorCode}
    (h : AccessorCode.ofPlan locator = .ok accessor) :
    Identifier.escaped locator.accessor = .ok accessor.name ∧
      Identifier.spelled locator.targetType = .ok accessor.target ∧
      AccessorCode.segmentOfPlan locator = .ok accessor.segment := by
  obtain ⟨name, hname, h⟩ := Outcome.bind_eq_ok.mp h
  obtain ⟨target, htarget, h⟩ := Outcome.bind_eq_ok.mp h
  obtain ⟨segment, hsegment, h⟩ := Outcome.bind_eq_ok.mp h
  cases h
  exact ⟨hname, htarget, hsegment⟩

/-- What the code of a service consists of. -/
structure EmittedFrom (service : ServicePlan) (code : ServiceCode) : Prop where
  members : service.memberNames.Nodup
  name : Identifier.spelled service.typeName = .ok code.name
  typeName : code.typeName = service.typeName
  resolver : ResolverCode.ofPlan service = .ok code.resolver
  methods : List.Forall₂ (fun operation method => MethodCode.ofPlan operation = .ok method)
    service.operations code.methods
  accessors : List.Forall₂ (fun locator accessor => AccessorCode.ofPlan locator = .ok accessor)
    service.locators code.accessors

namespace EmittedFrom

variable {service : ServicePlan} {code : ServiceCode}

/-- Code is emitted only for members that can be told apart and named. -/
theorem of_ofPlan (h : ServiceCode.ofPlan service = .ok code) : EmittedFrom service code := by
  unfold ServiceCode.ofPlan at h
  split at h
  · cases h
  case h_2 hmember =>
    obtain ⟨name, hname, h⟩ := Outcome.bind_eq_ok.mp h
    obtain ⟨resolver, hresolver, h⟩ := Outcome.bind_eq_ok.mp h
    obtain ⟨methods, hmethods, h⟩ := Outcome.bind_eq_ok.mp h
    obtain ⟨accessors, haccessors, h⟩ := Outcome.bind_eq_ok.mp h
    cases h
    rw [ServicePlan.memberError?, Option.map_eq_none_iff] at hmember
    exact ⟨(ServicePlan.nodup_of_firstRepeated? hmember).1, hname, rfl, hresolver,
      Outcome.mapM_eq_ok.mp hmethods, Outcome.mapM_eq_ok.mp haccessors⟩

/-- The accessors of a service have different names, if they are those of the locators. -/
theorem accessors_nodup (h : EmittedFrom service code)
    (haccessor : ∀ locator ∈ service.locators, locator.accessor = locator.name.accessor) :
    (code.accessors.map AccessorCode.name).Nodup := by
  have htokens : service.locators.map LocatorPlan.accessor =
      (code.accessors.map AccessorCode.name).map Identifier.token := by
    rw [List.map_map]
    refine Outcome.map_eq_map ((List.forall₂_and_left _ _).mpr ⟨haccessor, h.accessors⟩) ?_
    rintro locator accessor ⟨hname, hemitted⟩
    have hescaped := (AccessorCode.ofPlan_eq_ok hemitted).1
    rw [hname, Identifier.escaped_accessor] at hescaped
    rw [hname, Function.comp_apply, Identifier.token_of_spelled hescaped]
  apply List.Nodup.of_map Identifier.token
  rw [← htokens]
  exact (List.nodup_append.mp h.members).2.1

end EmittedFrom

namespace ClientCode

variable {plan : ClientPlan} {client : ClientCode}

/-- A client is made for services none of which takes the type of the sum, and consists of the code and
the variants of those services. -/
theorem ofPlan_eq_ok (h : ofPlan plan = .ok client) :
    (∀ service ∈ plan.services, service.typeName ≠ anyServiceType) ∧
      List.Forall₂ (fun service code => ServiceCode.ofPlan service = .ok code)
        plan.services client.services ∧
      List.Forall₂ (fun service variant => VariantCode.ofPlan service = .ok variant)
        plan.services client.variants := by
  unfold ofPlan at h
  dsimp only at h
  by_cases hany : (plan.services.any fun service => service.typeName == anyServiceType) = true
  · rw [if_pos hany] at h
    cases h
  · rw [if_neg hany] at h
    split at h
    · cases h
    · obtain ⟨services, hservices, h⟩ := Outcome.bind_eq_ok.mp h
      obtain ⟨variants, hvariants, h⟩ := Outcome.bind_eq_ok.mp h
      obtain ⟨name, _, h⟩ := Outcome.bind_eq_ok.mp h
      cases h
      refine ⟨fun service hmem heq => hany ?_, Outcome.mapM_eq_ok.mp hservices,
        Outcome.mapM_eq_ok.mp hvariants⟩
      exact List.any_eq_true.mpr ⟨service, hmem, beq_iff_eq.mpr heq⟩

/-- A client consists of the code of the services of its plan. -/
theorem services_of_ofPlan (h : ofPlan plan = .ok client) :
    List.Forall₂ (fun service code => ServiceCode.ofPlan service = .ok code)
      plan.services client.services :=
  (ofPlan_eq_ok h).2.1

/-- Services of different types have code under different names. -/
theorem names_nodup (h : ofPlan plan = .ok client)
    (htypes : (plan.services.map ServicePlan.typeName).Nodup) :
    (client.services.map ServiceCode.name).Nodup := by
  have htokens : plan.services.map ServicePlan.typeName =
      (client.services.map ServiceCode.name).map Identifier.token := by
    rw [List.map_map]
    refine Outcome.map_eq_map (services_of_ofPlan h) ?_
    intro service code hcode
    exact (Identifier.token_of_spelled (EmittedFrom.of_ofPlan hcode).name).symm
  apply List.Nodup.of_map Identifier.token
  rwa [← htokens]

/-- In a client for services of different types, the name of a type finds the code of its service. -/
theorem service?_of_mem (h : ofPlan plan = .ok client)
    (htypes : (plan.services.map ServicePlan.typeName).Nodup) {service : ServicePlan}
    (hmem : service ∈ plan.services) {name : Identifier}
    (hname : Identifier.spelled service.typeName = .ok name) :
    ∃ code, client.service? name = some code ∧ ServiceCode.ofPlan service = .ok code := by
  obtain ⟨code, hcode, hemitted⟩ := Outcome.exists_of_mem_left (services_of_ofPlan h) hmem
  refine ⟨code, ?_, hemitted⟩
  have hsame := (EmittedFrom.of_ofPlan hemitted).name
  rw [hname] at hsame
  cases hsame
  exact (find?_eq_some_iff_mem (names_nodup h htypes) _ _).mpr ⟨hcode, rfl⟩

end ClientCode

end ServiceTree
