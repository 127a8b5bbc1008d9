import ServiceTree.Proofs.EmittedServices
import ServiceTree.Proofs.ModelDocuments
import ServiceTree.Proofs.PlannableModels

/-!
# Outcomes of emission

Emission hands out tokens, refuses the code with an error, or is aborted by a text that has to become an
identifier and cannot. Each part of the code hangs on a list of such texts and nothing else: it is made
if all of them are identifiers, and else emission is aborted. So the first service whose members clash
or whose texts are at fault decides how emission ends.
-/

namespace ServiceTree

namespace Identifier

/-- Whether a text is an identifier, as it stands or with the mark of raw ones in front. -/
def spells (text : String) : Bool :=
  match text.toList with
  | 'r' :: '#' :: rest => isWellFormed rest && !neverRaw.contains (String.ofList rest)
  | letters => isWellFormed letters

/-- An outcome that hangs on some texts: a result if all of them are identifiers, and else the error for
one that is not. -/
inductive NamedBy {A : Type} (texts : List String) (outcome : Except GenerationError A) : Prop
  | named {result : A} (hall : ∀ text ∈ texts, spells text = true) (hresult : outcome = .ok result)
  | unnamed {text : String} (hmem : text ∈ texts) (hnot : spells text = false)
      (herror : outcome = .error (.notAnIdentifier text))

namespace NamedBy

variable {A B : Type} {texts others : List String}

/-- A result that is there hangs on no text. -/
theorem result (result : A) : NamedBy [] (.ok result) := .named (by simp) rfl

/-- What an outcome hangs on is a matter of which texts are listed. -/
theorem of_mem_iff {outcome : Except GenerationError A} (h : NamedBy texts outcome)
    (hsame : ∀ text, text ∈ texts ↔ text ∈ others) : NamedBy others outcome := by
  cases h with
  | named hall hresult => exact .named (fun text hmem => hall text ((hsame text).mpr hmem)) hresult
  | unnamed hmem hnot herror => exact .unnamed ((hsame _).mp hmem) hnot herror

/-- A converted outcome hangs on the same texts. -/
theorem map {outcome : Except GenerationError A} (h : NamedBy texts outcome) (f : A → B) :
    NamedBy texts (outcome.map f) := by
  cases h with
  | named hall hresult => exact .named hall (by rw [hresult]; rfl)
  | unnamed hmem hnot herror => exact .unnamed hmem hnot (by rw [herror]; rfl)

/-- Two steps hang on the texts of both. -/
theorem bind {outcome : Except GenerationError A} {next : A → Except GenerationError B}
    (h : NamedBy texts outcome) (hnext : ∀ value, NamedBy others (next value)) :
    NamedBy (texts ++ others) (outcome >>= next) := by
  cases h with
  | unnamed hmem hnot herror =>
    exact .unnamed (List.mem_append_left _ hmem) hnot (by rw [herror]; rfl)
  | @named value hall hresult =>
    subst hresult
    cases hnext value with
    | named hothers hnamed =>
      refine .named (fun text hmem => ?_) hnamed
      rcases List.mem_append.mp hmem with hmem | hmem
      · exact hall text hmem
      · exact hothers text hmem
    | unnamed hmem hnot herror => exact .unnamed (List.mem_append_right _ hmem) hnot herror

/-- A step for each member hangs on the texts of all of them. -/
theorem mapM {f : A → Except GenerationError B} {textsOf : A → List String} {members : List A}
    (h : ∀ member ∈ members, NamedBy (textsOf member) (f member)) :
    NamedBy (members.flatMap textsOf) (members.mapM f) := by
  induction members with
  | nil => exact result []
  | cons member rest ih =>
    rw [List.mapM_cons, List.flatMap_cons]
    refine (h member List.mem_cons_self).bind fun first => ?_
    exact (ih fun other hother => h other (List.mem_cons_of_mem _ hother)).map (first :: ·)

/-- An outcome is a success exactly if all its texts are identifiers. -/
theorem isOk_iff {outcome : Except GenerationError A} (h : NamedBy texts outcome) :
    (∃ result, outcome = .ok result) ↔ ∀ text ∈ texts, spells text = true := by
  cases h with
  | named hall hresult => exact ⟨fun _ => hall, fun _ => ⟨_, hresult⟩⟩
  | unnamed hmem hnot herror =>
    constructor
    · rintro ⟨result, hresult⟩
      rw [herror] at hresult
      cases hresult
    · intro hall
      rw [hall _ hmem] at hnot
      cases hnot

end NamedBy

/-- A text is made into an identifier exactly if it is one. -/
theorem spelled_eq (text : String) :
    ∃ identifier, spelled text = if spells text then .ok identifier else .error (.notAnIdentifier text) := by
  by_cases hraw : ∃ rest, text.toList = 'r' :: '#' :: rest
  · obtain ⟨rest, hraw⟩ := hraw
    exact ⟨⟨String.ofList rest, true⟩, by simp only [spelled, spells, hraw]⟩
  · have hspells : spells text = isWellFormed text.toList := by
      unfold spells
      split
      · exact absurd ⟨_, ‹_›⟩ hraw
      · rfl
    refine ⟨⟨text, false⟩, ?_⟩
    rw [hspells, spelled.eq_def]
    split
    · exact absurd ⟨_, ‹_›⟩ hraw
    · rfl

/-- An identifier hangs on the text that spells it. -/
theorem spelled_namedBy (text : String) : NamedBy [text] (spelled text) := by
  obtain ⟨identifier, hspelled⟩ := spelled_eq text
  cases hspells : spells text with
  | true =>
    rw [hspells, if_pos rfl] at hspelled
    exact .named (by simpa using hspells) hspelled
  | false =>
    rw [hspells, if_neg Bool.false_ne_true] at hspelled
    exact .unnamed (List.mem_singleton_self text) hspells hspelled

/-- Every keyword is an identifier and has an escape. -/
theorem reserved_escaped : ∀ word ∈ neverRaw ++ keywords,
    spells word = true ∧ (escaped word).toOption.isSome = true := by
  decide +kernel

/-- An escaped identifier hangs on the text without the escape. -/
theorem escaped_namedBy (text : String) : NamedBy [text] (escaped text) := by
  by_cases hreserved : text ∈ neverRaw ++ keywords
  · obtain ⟨hspells, hsome⟩ := reserved_escaped text hreserved
    obtain ⟨identifier, hescaped⟩ := Outcome.exists_of_isSome hsome
    rw [hescaped]
    exact .named (by simpa using hspells) rfl
  · have hplain : escaped text = spelled text := by
      rw [List.mem_append, not_or] at hreserved
      rw [escaped, if_neg (by simpa using hreserved.1), if_neg (by simpa using hreserved.2)]
    rw [hplain]
    exact spelled_namedBy text

end Identifier

open Identifier (spells NamedBy)

/-- The texts of an operation that have to become identifiers: its own, and that of its argument. -/
def OperationPlan.identifierTexts (operation : OperationPlan) : List String :=
  operation.identifier ::
    match operation.strategy with
    | .action => []
    | _ => (operation.primary.map BodyParameter.identifier).toList

/-- The texts of a locator that have to become identifiers: its accessor, the type it leads to, and its
argument. -/
def LocatorPlan.identifierTexts (locator : LocatorPlan) : List String :=
  [locator.accessor, locator.targetType] ++ locator.argument.toList

namespace ServicePlan

/-- The texts of a service that have to become identifiers. -/
def identifierTexts (service : ServicePlan) : List String :=
  [service.typeName, service.variant] ++ service.operations.flatMap OperationPlan.identifierTexts ++
    service.locators.flatMap LocatorPlan.identifierTexts

/-- A service all of whose members can be told apart and whose texts are identifiers. -/
structure IsSound (service : ServicePlan) : Prop where
  members : service.memberError? = none
  texts : ∀ text ∈ service.identifierTexts, spells text = true

end ServicePlan

namespace MethodCode

/-- An argument hangs on its text, also where it gives way to the options. -/
theorem argumentIdentifier_namedBy (text : String) : NamedBy [text] (argumentIdentifier text) := by
  by_cases hoptions : text = optionsName
  · subst hoptions
    have hspelled : argumentIdentifier optionsName = .ok ⟨"opts_arg", false⟩ := by decide
    exact .named (by decide) hspelled
  · rw [argumentIdentifier, if_neg hoptions]
    exact Identifier.escaped_namedBy text

/-- The method of an operation on a resource hangs on its name and its argument. -/
theorem ofResource_namedBy (operation : OperationPlan) :
    NamedBy (operation.identifier :: (operation.primary.map BodyParameter.identifier).toList)
      (ofResource operation) := by
  refine (Identifier.escaped_namedBy operation.identifier).bind fun name => ?_
  cases operation.primary with
  | none => exact .result _
  | some primary => exact (argumentIdentifier_namedBy primary.identifier).map _

/-- The method of an operation hangs on the texts of the operation. -/
theorem ofPlan_namedBy (operation : OperationPlan) :
    NamedBy operation.identifierTexts (ofPlan operation) := by
  unfold ofPlan OperationPlan.identifierTexts
  cases operation.strategy with
  | action => exact (Identifier.escaped_namedBy operation.identifier).map _
  | _ => exact ofResource_namedBy operation

end MethodCode

/-- An accessor hangs on the texts of its locator. -/
theorem AccessorCode.ofPlan_namedBy (locator : LocatorPlan) :
    NamedBy locator.identifierTexts (AccessorCode.ofPlan locator) := by
  have hsegment : NamedBy locator.argument.toList (segmentOfPlan locator) := by
    unfold segmentOfPlan
    cases locator.argument with
    | none => exact .result _
    | some argument => exact (Identifier.escaped_namedBy argument).map _
  refine (Identifier.escaped_namedBy locator.accessor).bind fun name => ?_
  exact (Identifier.spelled_namedBy locator.targetType).bind fun target => hsegment.map _

namespace ResolverCode

/-- The accessor that an edge refers to, if the service has its locator. -/
def accessorTexts (service : ServicePlan) (edge : RouteEdge) : List String :=
  ((service.locator? edge.locator).map LocatorPlan.accessor).toList

/-- The call of an accessor hangs on the name of the accessor. -/
theorem accessor?_namedBy (service : ServicePlan) (edge : RouteEdge) :
    NamedBy (accessorTexts service edge) (accessor? service edge) := by
  unfold accessor? accessorTexts
  cases service.locator? edge.locator with
  | none => exact .result _
  | some locator => exact (Identifier.escaped_namedBy locator.accessor).map _

/-- An accessor that an edge refers to is one of the texts of the service's locators. -/
theorem accessorTexts_subset (service : ServicePlan) (edge : RouteEdge) :
    accessorTexts service edge ⊆ service.locators.flatMap LocatorPlan.identifierTexts := by
  intro text htext
  rw [accessorTexts, Option.mem_toList, Option.map_eq_some_iff] at htext
  obtain ⟨locator, hlocator, rfl⟩ := htext
  exact List.mem_flatMap.mpr ⟨locator, List.mem_of_find?_eq_some hlocator, List.mem_cons_self⟩

/-- A resolver hangs on its variant and on the accessors of its edges. -/
theorem ofPlan_namedBy (service : ServicePlan) :
    NamedBy (service.variant :: ((service.router.literals.flatMap (accessorTexts service)) ++
      service.router.wildcard.toList.flatMap (accessorTexts service))) (ofPlan service) := by
  have hliterals : NamedBy (service.router.literals.flatMap (accessorTexts service))
      (service.router.literals.mapM (branch? service)) :=
    .mapM fun edge _ => (accessor?_namedBy service edge).map _
  refine (Identifier.spelled_namedBy service.variant).bind fun variant => ?_
  refine hliterals.bind fun literals => ?_
  cases service.router.wildcard with
  | none => exact .result _
  | some edge =>
    rw [Option.toList_some, List.flatMap_singleton]
    exact (accessor?_namedBy service edge).map _

end ResolverCode

namespace ServiceCode

/-- The code of a service whose members can be told apart hangs on the texts of the service. -/
theorem ofPlan_namedBy {service : ServicePlan} (hmembers : service.memberError? = none) :
    NamedBy service.identifierTexts (ofPlan service) := by
  have hmethods : NamedBy (service.operations.flatMap OperationPlan.identifierTexts)
      (service.operations.mapM MethodCode.ofPlan) := .mapM fun operation _ =>
    MethodCode.ofPlan_namedBy operation
  have haccessors : NamedBy (service.locators.flatMap LocatorPlan.identifierTexts)
      (service.locators.mapM AccessorCode.ofPlan) := .mapM fun locator _ =>
    AccessorCode.ofPlan_namedBy locator
  have hmade : ofPlan service = (Identifier.spelled service.typeName >>= fun name =>
      ResolverCode.ofPlan service >>= fun resolver =>
      service.operations.mapM MethodCode.ofPlan >>= fun methods =>
      (service.locators.mapM AccessorCode.ofPlan).map fun accessors =>
        ⟨service.fullDoc, service.typeName, name, methods, accessors, resolver⟩) := by
    unfold ofPlan
    rw [hmembers]
    rfl
  rw [hmade]
  refine ((Identifier.spelled_namedBy service.typeName).bind fun name =>
    (ResolverCode.ofPlan_namedBy service).bind fun resolver =>
    hmethods.bind fun methods => haccessors.map _).of_mem_iff fun text => ?_
  -- the edges of the resolver add no text to those of the locators
  have hedges : text ∈ service.router.literals.flatMap (ResolverCode.accessorTexts service) ++
      service.router.wildcard.toList.flatMap (ResolverCode.accessorTexts service) →
        text ∈ service.locators.flatMap LocatorPlan.identifierTexts := by
    rw [← List.flatMap_append, List.mem_flatMap]
    rintro ⟨edge, _, htext⟩
    exact ResolverCode.accessorTexts_subset service edge htext
  simp only [ServicePlan.identifierTexts, List.mem_append, List.mem_cons, List.not_mem_nil, or_false]
    at hedges ⊢
  tauto

/-- A service whose members clash is refused. -/
theorem ofPlan_of_clash {service : ServicePlan} (hmembers : service.memberError? ≠ none) :
    ∃ problem, ofPlan service = .error (.refusedCode problem) := by
  obtain ⟨error, herror⟩ := Option.ne_none_iff_exists'.mp hmembers
  have hrefused := herror
  rw [ServicePlan.memberError?, Option.map_eq_some_iff] at hrefused
  obtain ⟨member, _, rfl⟩ := hrefused
  unfold ofPlan
  rw [herror]
  exact ⟨_, rfl⟩

/-- A service has code exactly if its members can be told apart and its texts are identifiers. -/
theorem ofPlan_isOk_iff {service : ServicePlan} :
    (∃ code, ofPlan service = .ok code) ↔ service.IsSound := by
  by_cases hmembers : service.memberError? = none
  · rw [(ofPlan_namedBy hmembers).isOk_iff]
    exact ⟨fun htexts => ⟨hmembers, htexts⟩, fun hsound => hsound.texts⟩
  · obtain ⟨problem, hproblem⟩ := ofPlan_of_clash hmembers
    constructor
    · rintro ⟨code, hcode⟩
      rw [hproblem] at hcode
      cases hcode
    · exact fun hsound => absurd hsound.members hmembers

/-- Making the code of a service is aborted exactly if its members can be told apart and a text of it is
no identifier. -/
theorem ofPlan_aborts_iff {service : ServicePlan} :
    (∃ text, ofPlan service = .error (.notAnIdentifier text)) ↔
      service.memberError? = none ∧ ∃ text ∈ service.identifierTexts, spells text = false := by
  by_cases hmembers : service.memberError? = none
  · cases ofPlan_namedBy hmembers with
    | named hall hresult =>
      simp only [hresult, hmembers, true_and]
      constructor
      · rintro ⟨text, herror⟩
        cases herror
      · rintro ⟨text, hmem, hnot⟩
        rw [hall text hmem] at hnot
        cases hnot
    | unnamed hmem hnot herror => exact ⟨fun _ => ⟨hmembers, _, hmem, hnot⟩, fun _ => ⟨_, herror⟩⟩
  · obtain ⟨problem, hproblem⟩ := ofPlan_of_clash hmembers
    simp [hproblem, hmembers]

end ServiceCode

namespace ClientCode

variable {plan : ClientPlan}

/-- Making a client whose services have code ends well. -/
theorem ofPlan_isOk {root : ServicePlan} {services : List ServiceCode}
    (hany : (plan.services.any fun service => service.typeName == anyServiceType) = false)
    (hroot : plan.rootService? = some root)
    (hservices : plan.services.mapM ServiceCode.ofPlan = .ok services) :
    ∃ client, ofPlan plan = .ok client := by
  have hsound : ∀ service ∈ plan.services, service.IsSound := fun service hmem => by
    obtain ⟨code, _, hcode⟩ := Outcome.exists_of_mem_left (Outcome.mapM_eq_ok.mp hservices) hmem
    exact ServiceCode.ofPlan_isOk_iff.mp ⟨code, hcode⟩
  have hspelled {service : ServicePlan} (hmem : service ∈ plan.services) (text : String)
      (htext : text ∈ [service.typeName, service.variant]) : ∃ name, Identifier.spelled text = .ok name :=
    (Identifier.spelled_namedBy text).isOk_iff.mpr fun other hother => by
      rw [List.mem_singleton.mp hother]
      exact (hsound service hmem).texts text (List.mem_append_left _ (List.mem_append_left _ htext))
  have hvariant : ∀ service ∈ plan.services, ∃ variant, VariantCode.ofPlan service = .ok variant := by
    intro service hmem
    obtain ⟨name, hname⟩ := hspelled hmem service.variant (by simp)
    obtain ⟨type, htype⟩ := hspelled hmem service.typeName (by simp)
    exact ⟨⟨name, type, service.typeName⟩, by rw [VariantCode.ofPlan, hname, htype]; rfl⟩
  obtain ⟨variants, hvariants⟩ := Outcome.mapM_isOk hvariant
  obtain ⟨name, hname⟩ := hspelled (List.mem_of_getElem? hroot) root.typeName (by simp)
  refine ⟨⟨plan.name, name, services, variants⟩, ?_⟩
  simp only [ofPlan, hany, hroot, hservices, hvariants, hname]
  rfl

/-- The error for a service that takes the name of the sum of all services. -/
def anyServiceError : GenerationError :=
  .refusedCode ("A service may not be named '" ++ anyServiceType ++ "'")

/-- Making a client with a root fails if a service takes the name of the sum, and else as making the code
of its services does. -/
theorem ofPlan_eq_error {root : ServicePlan} (hroot : plan.rootService? = some root)
    {error : GenerationError} :
    ofPlan plan = .error error ↔
      (∃ service ∈ plan.services, service.typeName = anyServiceType) ∧ error = anyServiceError ∨
        (∀ service ∈ plan.services, service.typeName ≠ anyServiceType) ∧
          plan.services.mapM ServiceCode.ofPlan = .error error := by
  cases hany : plan.services.any fun service => service.typeName == anyServiceType with
  | true =>
    have hrefused : ofPlan plan = .error anyServiceError := by
      simp only [ofPlan, hany]
      rfl
    have hsome : ∃ service ∈ plan.services, service.typeName = anyServiceType := by simpa using hany
    obtain ⟨service, hmem, hname⟩ := hsome
    rw [hrefused, Except.error.injEq, eq_comm]
    constructor
    · rintro rfl
      exact .inl ⟨⟨service, hmem, hname⟩, rfl⟩
    · rintro (⟨_, rfl⟩ | ⟨hnone, _⟩)
      · rfl
      · exact absurd hname (hnone service hmem)
  | false =>
    have hnone : ∀ service ∈ plan.services, service.typeName ≠ anyServiceType := by simpa using hany
    have hnot : ¬ ∃ service ∈ plan.services, service.typeName = anyServiceType := by
      rintro ⟨service, hmem, hname⟩
      exact hnone service hmem hname
    cases hservices : plan.services.mapM ServiceCode.ofPlan with
    | ok services =>
      obtain ⟨client, hclient⟩ := ofPlan_isOk hany hroot hservices
      simp [hclient, hnot]
    | error stopped =>
      have hstopped : ofPlan plan = .error stopped := by
        simp only [ofPlan, hany, hroot, hservices]
        rfl
      simp only [hstopped, hnot, false_and, false_or, Except.error.injEq]
      exact ⟨fun h => ⟨hnone, h⟩, fun h => h.2⟩

end ClientCode

/-- Emission fails as making the client does, or because the grammar refuses the client. -/
theorem ClientPlan.emit_eq_error {plan : ClientPlan} {error : GenerationError} :
    plan.emit = .error error ↔ ClientCode.ofPlan plan = .error error ∨
      ∃ client, ClientCode.ofPlan plan = .ok client ∧ client.isGrammatical = false ∧
        error = ungrammatical := by
  have hemit : plan.emit = plan.clientCode.map fun client => plan.docTokens ++ client.tokens := rfl
  rw [hemit, Outcome.map_eq_error, clientCode, Outcome.bind_eq_error]
  refine or_congr_right (exists_congr fun client => and_congr_right fun _ => ?_)
  cases client.isGrammatical with
  | true => simp [pure, Except.pure]
  | false => simp [throw, throwThe, MonadExceptOf.throw, eq_comm]

/-- A service whose code cannot be made is refused, or making its code is aborted. -/
theorem ServiceCode.error_of_ofPlan {service : ServicePlan} {error : GenerationError}
    (h : ServiceCode.ofPlan service = .error error) :
    (∃ problem, error = .refusedCode problem) ∨ ∃ text, error = .notAnIdentifier text := by
  by_cases hmembers : service.memberError? = none
  · cases ofPlan_namedBy hmembers with
    | named _ hresult =>
      rw [hresult] at h
      cases h
    | @unnamed text _ _ herror =>
      rw [herror] at h
      cases h
      exact .inr ⟨text, rfl⟩
  · obtain ⟨problem, hproblem⟩ := ofPlan_of_clash hmembers
    rw [hproblem] at h
    cases h
    exact .inl ⟨problem, rfl⟩

/-- The text of a type is an identifier if that of its variant is. -/
theorem Name.spells_serviceType {name : Name} (h : spells name.camelCase = true) :
    spells name.serviceType = true := by
  have hcontinues : ("Service".toList.all Identifier.continues) = true := by decide
  have hfree : ∀ word ∈ Identifier.neverRaw, "Service".toList.isSuffixOf word.toList = false := by
    decide +kernel
  have hwell {letters : List Char} (hletters : Identifier.isWellFormed letters = true) :
      Identifier.isWellFormed (letters ++ "Service".toList) = true := by
    cases letters with
    | nil => cases hletters
    | cons c rest =>
      rw [Identifier.isWellFormed, Bool.and_eq_true] at hletters
      rw [List.cons_append, Identifier.isWellFormed, List.all_append, hletters.1, hletters.2, hcontinues]
      rfl
  unfold spells at h ⊢
  rw [Name.serviceType, String.toList_append]
  split at h
  case h_1 rest hraw =>
    rw [Bool.and_eq_true] at h
    rw [hraw, List.cons_append, List.cons_append]
    refine Bool.and_eq_true_iff.mpr ⟨hwell h.1, ?_⟩
    rw [Bool.not_eq_true', Bool.eq_false_iff, Ne, List.contains_iff_mem]
    intro hmem
    have hends := hfree _ hmem
    simp only [String.toList_ofList] at hends
    exact Bool.eq_false_iff.mp hends (List.isSuffixOf_iff_suffix.mpr (List.suffix_append rest _))
  case h_2 hplain =>
    -- what has no mark of raw identifiers in front has none with more letters behind it
    have hletters := hwell h
    split
    · next rest hraw =>
      rw [hraw] at hletters
      exact absurd hletters (by simp [Identifier.isWellFormed, Identifier.continues, Unicode.isAscii])
    · exact hletters

/-- The texts of a declared service that become identifiers if it is planned as it is declared. -/
def Service.identifierTexts (service : Service) : List String :=
  service.name.camelCase :: (service.methods.flatMap fun method => method.plan.identifierTexts) ++
    service.locators.flatMap fun locator =>
      locator.name.accessor :: (locator.parameter.map fun p => p.name.identifier).toList

/-- The argument of a planned locator is named after its parameter. -/
theorem Locator.plan_argument {model : Model} {locator : Locator} {plan : LocatorPlan}
    (h : locator.plan model = .ok plan) :
    plan.argument = locator.parameter.map fun p => p.name.identifier := by
  unfold Locator.plan at h
  split at h
  · cases h
  · cases h
    rfl

section

variable {model : Model} {service : Service} {bases : List Service} {made : ServicePlan}

/-- The texts of a planned service are identifiers if those of all declared services are. -/
theorem Planned.texts_spelled (h : Planned model service bases made)
    (hdeclared : ∀ declaring ∈ model.services, ∀ text ∈ declaring.identifierTexts, spells text = true) :
    ∀ text ∈ made.identifierTexts, spells text = true := by
  have hvariant {declaring : Service} (hmem : declaring ∈ model.services) :
      spells declaring.name.camelCase = true :=
    hdeclared declaring hmem _ List.mem_cons_self
  have hchain := h.baseChain.subset
  have hown := hvariant (hchain List.mem_cons_self)
  intro text htext
  simp only [ServicePlan.identifierTexts, List.mem_append, List.mem_cons, List.not_mem_nil, or_false,
    List.mem_flatMap] at htext
  rcases htext with ((rfl | rfl) | ⟨operation, hoperation, htext⟩) | ⟨locator, hlocator, htext⟩
  · rw [h.header.2.1]
    exact Name.spells_serviceType hown
  · rw [ServicePlan.variant, h.header.1]
    exact hown
  · obtain ⟨_, declaring, hdeclaring, method, hmethod, rfl⟩ := h.operation_declared hoperation
    refine hdeclared declaring (hchain hdeclaring) text (List.mem_cons_of_mem _ ?_)
    exact List.mem_append_left _ (List.mem_flatMap.mpr ⟨method, hmethod, htext⟩)
  · obtain ⟨declaring, hdeclaring, declared, hmem, hplan⟩ := h.locator_declared hlocator
    have hlisted {text : String}
        (htext : text ∈ declared.name.accessor ::
          (declared.parameter.map fun p => p.name.identifier).toList) : spells text = true := by
      refine hdeclared declaring (hchain hdeclaring) text (List.mem_cons_of_mem _ ?_)
      exact List.mem_append_right _ (List.mem_flatMap.mpr ⟨declared, hmem, htext⟩)
    rw [LocatorPlan.identifierTexts, (Locator.plan_name hplan).2.2.1, Locator.plan_argument hplan,
      List.mem_append, List.mem_cons, List.mem_singleton] at htext
    rcases htext with (rfl | rfl) | htext
    · exact hlisted List.mem_cons_self
    · obtain ⟨target, htarget, _, htype⟩ := Locator.plan_target hplan
      rw [htype]
      exact Name.spells_serviceType (hvariant (List.mem_of_find?_eq_some htarget))
    · exact hlisted (List.mem_cons_of_mem _ htext)

end

/-- Emission ends with tokens, in a refusal, or aborted by a text that is no identifier; the last exactly if no
service is named like the sum and the first without code has its members apart. -/
theorem emission_outcome {model : Model} {plan : ClientPlan} (hplan : model.plan = .ok plan) :
    ((∃ tokens, plan.emit = .ok tokens) ∨ (∃ problem, plan.emit = .error (.refusedCode problem)) ∨
      ∃ text, plan.emit = .error (.notAnIdentifier text)) ∧
    ((∃ text, plan.emit = .error (.notAnIdentifier text)) ↔
      (∀ service ∈ plan.services, service.typeName ≠ anyServiceType) ∧
        ∃ before service after, plan.services = before ++ service :: after ∧
          (∀ earlier ∈ before, earlier.IsSound) ∧ service.memberError? = none ∧
            ∃ text ∈ service.identifierTexts, spells text = false) ∧
    ((∀ service ∈ model.services, ∀ text ∈ service.identifierTexts, spells text = true) →
      ¬ ∃ text, plan.emit = .error (.notAnIdentifier text)) := by
  obtain ⟨root, hroot, _⟩ := Model.plan_root hplan
  have haborts (text : String) : plan.emit = .error (.notAnIdentifier text) ↔
      (∀ service ∈ plan.services, service.typeName ≠ anyServiceType) ∧
        plan.services.mapM ServiceCode.ofPlan = .error (.notAnIdentifier text) := by
    rw [ClientPlan.emit_eq_error, ClientCode.ofPlan_eq_error hroot]
    simp [ClientCode.anyServiceError, ungrammatical]
  refine ⟨?_, ?_, ?_⟩
  · cases hemit : plan.emit with
    | ok tokens => exact .inl ⟨tokens, rfl⟩
    | error error =>
      right
      rcases ClientPlan.emit_eq_error.mp hemit with hclient | ⟨_, _, _, rfl⟩
      · rcases (ClientCode.ofPlan_eq_error hroot).mp hclient with ⟨_, rfl⟩ | ⟨_, hservices⟩
        · exact .inl ⟨_, rfl⟩
        · obtain ⟨service, _, hservice⟩ := Outcome.mapM_eq_error hservices
          rcases ServiceCode.error_of_ofPlan hservice with ⟨problem, rfl⟩ | ⟨text, rfl⟩
          · exact .inl ⟨problem, rfl⟩
          · exact .inr ⟨text, rfl⟩
      · exact .inl ⟨_, rfl⟩
  · simp only [haborts, exists_and_left, Outcome.mapM_eq_error_iff, ServiceCode.ofPlan_isOk_iff]
    refine and_congr_right fun _ => ?_
    constructor
    · rintro ⟨text, before, service, after, hsplit, hbefore, hservice⟩
      exact ⟨before, service, after, hsplit, hbefore, ServiceCode.ofPlan_aborts_iff.mp ⟨text, hservice⟩⟩
    · rintro ⟨before, service, after, hsplit, hbefore, hservice⟩
      obtain ⟨text, htext⟩ := ServiceCode.ofPlan_aborts_iff.mpr hservice
      exact ⟨text, before, service, after, hsplit, hbefore, htext⟩
  · rintro hdeclared ⟨text, htext⟩
    obtain ⟨made, hmade, hservice⟩ := Outcome.mapM_eq_error ((haborts text).mp htext).2
    obtain ⟨service, bases, hplanned⟩ := Model.planned_of_plan hplan made hmade
    obtain ⟨_, other, hmem, hnot⟩ := ServiceCode.ofPlan_aborts_iff.mp ⟨text, hservice⟩
    rw [hplanned.texts_spelled hdeclared other hmem] at hnot
    cases hnot

/-- Emitting the client of the redeclaring model is not aborted. -/
theorem redeclaringModel_emitted : redeclaringModel.plan = .ok redeclaringPlan ∧
    ¬ ∃ text, redeclaringPlan.emit = .error (.notAnIdentifier text) :=
  ⟨redeclaringModel_plan, (emission_outcome redeclaringModel_plan).2.2 (by decide +kernel)⟩

/-- A model whose one service has a name that begins with a digit. -/
def numberedModel : Model := .declare "Shop" "1a" [.declare "1a" none [] []]

/-- The plan of its service. -/
def numberedServicePlan : ServicePlan where
  name := ⟨["1a"]⟩
  typeName := "1aService"
  base := none
  doc := none
  operations := []
  locators := []
  router := ⟨[], none⟩

/-- The plan of the model. -/
theorem numberedModel_plan : numberedModel.plan = .ok ⟨"Shop", 0, [numberedServicePlan]⟩ := by
  have hservice : (Service.declare "1a" none [] []).plan numberedModel none = .ok numberedServicePlan := by
    have hplan : (Service.declare "1a" none [] []).plan numberedModel none = .ok _ :=
      Service.plan_of_merged rfl List.mergeSort_nil List.mergeSort_nil (by decide)
    exact hplan.trans (by decide +kernel)
  have hname : (Name.parse "Shop").camelCase = "Shop" := by decide +kernel
  have hplan : numberedModel.plan = .ok ⟨(Name.parse "Shop").camelCase, 0, [numberedServicePlan]⟩ :=
    Model.plan_alone rfl hservice
  rwa [hname] at hplan

/-- A model that loads from its text, keeps every rule and is planned may still abort emission. -/
theorem numberedModel_aborts : ∃ text plan, Model.ofJsonText text = .ok numberedModel ∧
    numberedModel.validate = .ok () ∧ numberedModel.plan = .ok plan ∧
      plan.emit = .error (.notAnIdentifier "1aService") := by
  refine ⟨numberedModel.toJson.render, _, ?_, by decide +kernel, numberedModel_plan, ?_⟩
  · rw [Model.ofJsonText_render]
    decide +kernel
  · decide +kernel

end ServiceTree
