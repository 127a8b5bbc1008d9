import ServiceTree.Plan.Document
import ServiceTree.Proofs.FreeDocuments
import ServiceTree.Proofs.IndentedDocuments
import ServiceTree.Proofs.ModelDocuments
import ServiceTree.Proofs.ServicePlanning

/-!
# Plans as documents

What becomes of a plan that is written and read again. The forms of bodies and responses stand beside
their tags, members that hold nothing are left out, and the content of a response is looked over as a free
document before it is read. All of it comes back, whatever the texts say; only a name comes back exactly if
it is what its camel case spells, and a name without words is spelled by nothing.
-/

namespace ServiceTree

/-! ## Names, words and numbers -/

/-- A name is kept exactly if its camel case is parsed as the name and it has words. -/
theorem Name.isKept_iff {name : Name} :
    name.IsKept ↔ parse name.camelCase = name ∧ name.words ≠ [] := by
  rw [IsKept, parse?]
  split
  next hempty =>
    have hwords : (parse name.camelCase).words = [] := List.isEmpty_iff.mp hempty
    exact iff_of_false nofun fun ⟨hparse, hne⟩ => hne (hparse ▸ hwords)
  next hempty =>
    have hwords : (parse name.camelCase).words ≠ [] := fun h => hempty (List.isEmpty_iff.mpr h)
    rw [Option.some.injEq]
    exact ⟨fun hparse => ⟨hparse, hparse ▸ hwords⟩, And.left⟩

/-- The word of a strategy is read back. -/
theorem Strategy.choice?_toOutline (room : Nat) (strategy : Strategy) :
    Outline.choice? .json room Strategy.all Strategy.word (Json.text strategy.word).toOutline =
      some strategy := by
  cases strategy <;> rfl

/-- The word of a verb is read back. -/
theorem Verb.choice?_toOutline (room : Nat) (verb : Verb) :
    Outline.choice? .json room Verb.all Verb.word (Json.text verb.word).toOutline = some verb := by
  cases verb <;> rfl

/-- A member that must be there is read at its place. -/
theorem Outline.required?_eq {A : Type} {members : List (String × Outline)} {key : String}
    {outline : Outline} (h : members.lookup key = some outline) (read : Outline → Option A) :
    required? members key read = read outline := by
  rw [required?, h]
  rfl

/-- What is read as a natural below a limit is below it. -/
theorem Outline.lt_of_naturalBelow? {limit value : Nat} {outline : Outline}
    (h : outline.naturalBelow? limit = some value) : value < limit := by
  unfold naturalBelow? at h
  split at h
  · simp only [Bool.and_eq_true, decide_eq_true_eq, Option.ite_none_right_eq_some,
      Option.some.injEq] at h
    omega
  · cases h

/-- A written natural is read back exactly if it is below the limit. -/
theorem Outline.naturalBelow?_toOutline {limit value : Nat} :
    (Json.integer value).toOutline.naturalBelow? limit = some value ↔ value < limit := by
  refine ⟨lt_of_naturalBelow?, fun h => ?_⟩
  simp [Json.integer, Json.toOutline, naturalBelow?, h]

/-! ## Parts without names -/

namespace BodyShape

/-- A written shape is something. -/
@[simp]
theorem isAbsent_toJson (shape : BodyShape) : shape.toJson.toOutline.isAbsent = false := by
  cases shape <;> rfl

/-- A written shape is read back, in a free document as well. -/
@[simp]
theorem ofOutline?_toJson (format : Format) (shape : BodyShape) :
    ofOutline? format shape.toJson.toOutline = some shape := by
  cases shape <;> simp [ofOutline?, toJson, Outline.tagged?_toOutline]

/-- A written shape is one container. -/
@[simp]
theorem nesting_toJson (shape : BodyShape) : shape.toJson.nesting = 1 := by
  cases shape <;> rfl

end BodyShape

/-- A written body parameter is something. -/
@[simp]
theorem BodyParameter.isAbsent_toJson (parameter : BodyParameter) :
    parameter.toJson.toOutline.isAbsent = false := rfl

/-- A written body parameter is read back. -/
@[simp]
theorem BodyParameter.ofOutline?_toJson (parameter : BodyParameter) :
    ofOutline? parameter.toJson.toOutline = some parameter := by
  rw [ofOutline?, toJson, Outline.members?_toOutline (by simp) (by decide)]
  simp [Outline.required?, List.lookup_cons]

/-- A written query parameter is read back. -/
@[simp]
theorem QueryParameter.ofOutline?_toJson (parameter : QueryParameter) :
    ofOutline? parameter.toJson.toOutline = some parameter := by
  obtain ⟨option, tag, kind⟩ := parameter
  rw [ofOutline?, toJson, Outline.members?_toOutline
    (by cases kind <;> simp [optionalMember]) (by decide)]
  cases kind
  all_goals
    simp [optionalMember, Outline.required?, Outline.optional?, List.lookup_cons,
      PrimitiveKind.choice?_toOutline]

/-- A written envelope field is read back. -/
@[simp]
theorem EnvelopeField.ofOutline?_toJson (field : EnvelopeField) :
    ofOutline? field.toJson.toOutline = some field := by
  obtain ⟨option, tag, shape⟩ := field
  rw [ofOutline?, toJson, Outline.members?_toOutline
    (by cases shape <;> simp [optionalMember]) (by decide)]
  cases shape
  all_goals simp [optionalMember, Outline.required?, Outline.optional?, List.lookup_cons]

namespace ResponsePlan

/-- A written kind and the members behind it are told apart, if there is room for the members. -/
theorem ofOutline?_of_kind {room : Nat} (kind : String) {others : List (String × Json)}
    (hkeys : ("kind" :: others.map Prod.fst).Nodup) (hroom : (Json.record others).nesting ≤ room) :
    ofOutline? room (Json.record (("kind", .text kind) :: others)).toOutline =
      ofMembers? kind (Json.record others).toOutline := by
  have hother : ∀ member ∈ others, member.1 ≠ "kind" := fun member hmember heq =>
    (List.nodup_cons.mp hkeys).1 (heq ▸ List.mem_map_of_mem hmember)
  have hasked : ((("kind", Json.text kind) :: others).filter fun member => member.1 ∈ ["kind"]) =
      [("kind", .text kind)] := by
    rw [List.filter_cons_of_pos (by simp), List.filter_eq_nil_iff.mpr]
    simpa using hother
  have hothers : ((Json.membersToOutline (("kind", .text kind) :: others)).filter fun member =>
      member.1.text? ≠ some "kind") = Json.membersToOutline others := by
    rw [Json.membersToOutline, List.filter_cons_of_neg (by simp [Outline.text?]), List.filter_eq_self,
      Json.membersToOutline_eq_map, List.forall_mem_map]
    simpa [Outline.text?] using hother
  have hkind := Outline.knownMembers?_toOutline .json ["kind"] (("kind", .text kind) :: others) hkeys
  have hsound := Json.isSound_toOutline (.record others) hroom
  rw [Json.toOutline] at hsound
  rw [Json.toOutline, ofOutline?, hkind, hasked, hothers]
  simp [hsound, Json.toOutline, Outline.text?]

/-- A written response is read back where there is room for a record inside a record: its members without
the kind are looked over as a free document. -/
theorem ofOutline?_toJson {room : Nat} (hroom : 2 ≤ room) (response : ResponsePlan) :
    ofOutline? room response.toJson.toOutline = some response := by
  cases response with
  | empty =>
    exact ofOutline?_of_kind "empty" (by simp) (by simp [Json.nesting, Json.membersNesting]; omega)
  | body shape =>
    refine (ofOutline?_of_kind "body" (by simp) (by simpa [Json.nesting, Json.membersNesting])).trans ?_
    simp only [ofMembers?]
    rw [Outline.members?_toOutline (by simp) (by decide)]
    simp [Outline.required?]
  | actionField tag shape =>
    refine (ofOutline?_of_kind "action_field" (by cases shape <;> simp [optionalMember]) ?_).trans ?_
    · cases shape <;> simp [optionalMember, Json.nesting, Json.membersNesting] <;> omega
    simp only [ofMembers?]
    rw [Outline.members?_toOutline (by cases shape <;> simp [optionalMember]) (by decide)]
    cases shape
    all_goals simp [optionalMember, Outline.required?, Outline.optional?, List.lookup_cons]

end ResponsePlan

/-! ## Parts with names -/

/-- A written operation is read back exactly if its name is kept. -/
theorem OperationPlan.ofOutline?_toJson {room : Nat} (hroom : 3 ≤ room) {operation : OperationPlan} :
    ofOutline? room operation.toJson.toOutline = some operation ↔ operation.name.IsKept := by
  have hresponse : ∀ response : ResponsePlan,
      ResponsePlan.ofOutline? (room - 1) response.toJson.toOutline = some response :=
    ResponsePlan.ofOutline?_toJson (by omega)
  have hcodes : Outline.listOf? code? (Json.list (operation.successCodes.map fun code =>
      Json.integer code.toNat)).toOutline = some operation.successCodes := by
    refine Outline.listOf?_toOutline.mpr fun code _ => ?_
    rw [code?, Outline.naturalBelow?_toOutline.mpr code.toNat_lt, Option.map_some, UInt16.ofNat_toNat]
  obtain ⟨name, identifier, strategy, verb, actionSegment, successCodes, primary, query, envelope,
    response, doc⟩ := operation
  rw [ofOutline?, toJson, Outline.members?_toOutline
    (by cases actionSegment <;> cases primary <;> simp [optionalMember]) (by decide)]
  simp only [Option.bind_eq_bind, Option.bind_some, Option.bind_eq_some_iff, Option.pure_def,
    Option.some.injEq, mk.injEq]
  cases actionSegment <;> cases primary
  all_goals
    simp [optionalMember, Outline.required?, Outline.optional?, List.lookup_cons,
      Outline.listOf?_toOutline, Strategy.choice?_toOutline, Verb.choice?_toOutline, hresponse, hcodes]

namespace LocatorPlan

/-- The names that a locator holds. -/
def names (locator : LocatorPlan) : List Name := [locator.name, locator.target]

/-- A written locator is read back exactly if its names are kept. -/
theorem ofOutline?_toJson {locator : LocatorPlan} :
    ofOutline? locator.toJson.toOutline = some locator ↔ ∀ name ∈ locator.names, name.IsKept := by
  obtain ⟨name, accessor, segment, argument, target, targetType, doc⟩ := locator
  rw [ofOutline?, toJson, Outline.members?_toOutline
    (by cases argument <;> simp [optionalMember]) (by decide)]
  simp only [Option.bind_eq_bind, Option.bind_some, Option.bind_eq_some_iff, Option.pure_def,
    Option.some.injEq, mk.injEq]
  cases argument
  all_goals
    simp [optionalMember, Outline.required?, Outline.optional?, List.lookup_cons, names]

end LocatorPlan

namespace RouteEdge

/-- The names that an edge holds. -/
def names (edge : RouteEdge) : List Name := [edge.locator, edge.target]

/-- A written edge is something. -/
@[simp]
theorem isAbsent_toJson (edge : RouteEdge) : edge.toJson.toOutline.isAbsent = false := rfl

/-- A written edge is read back exactly if its names are kept. -/
theorem ofOutline?_toJson {edge : RouteEdge} :
    ofOutline? edge.toJson.toOutline = some edge ↔ ∀ name ∈ edge.names, name.IsKept := by
  obtain ⟨locator, segment, target⟩ := edge
  rw [ofOutline?, toJson, Outline.members?_toOutline (by simp) (by decide)]
  simp only [Option.bind_eq_bind, Option.bind_some, Option.bind_eq_some_iff, Option.pure_def,
    Option.some.injEq, mk.injEq]
  simp [Outline.required?, List.lookup_cons, names]

end RouteEdge

namespace Router

/-- The names that the edges of a service hold. -/
def names (router : Router) : List Name :=
  router.literals.flatMap RouteEdge.names ++ router.wildcard.toList.flatMap RouteEdge.names

/-- Written edges are read back exactly if their names are kept. -/
theorem ofOutline?_toJson {router : Router} :
    ofOutline? router.toJson.toOutline = some router ↔ ∀ name ∈ router.names, name.IsKept := by
  rw [names, List.forall_mem_append, List.forall_mem_flatMap, List.forall_mem_flatMap]
  obtain ⟨literals, wildcard⟩ := router
  rw [ofOutline?, toJson, Outline.members?_toOutline
    (by cases wildcard <;> simp [optionalMember]) (by decide)]
  simp only [Option.bind_eq_bind, Option.bind_some, Option.bind_eq_some_iff, Option.pure_def,
    Option.some.injEq, mk.injEq]
  cases wildcard
  all_goals
    simp [optionalMember, Outline.required?, Outline.optional?, List.lookup_cons,
      Outline.listOf?_toOutline, RouteEdge.ofOutline?_toJson]

end Router

namespace ServicePlan

/-- The names that a service holds. -/
def names (service : ServicePlan) : List Name :=
  service.name :: (service.base.toList ++ (service.operations.map OperationPlan.name ++
    (service.locators.flatMap LocatorPlan.names ++ service.router.names)))

/-- A written service is read back exactly if its names are kept. -/
theorem ofOutline?_toJson {room : Nat} (hroom : 5 ≤ room) {service : ServicePlan} :
    ofOutline? room service.toJson.toOutline = some service ↔
      ∀ name ∈ service.names, name.IsKept := by
  have hoperation : ∀ operation : OperationPlan,
      OperationPlan.ofOutline? (room - 2) operation.toJson.toOutline = some operation ↔
        operation.name.IsKept := fun _ => OperationPlan.ofOutline?_toJson (by omega)
  rw [names, List.forall_mem_cons, List.forall_mem_append, List.forall_mem_append,
    List.forall_mem_append, List.forall_mem_map, List.forall_mem_flatMap]
  obtain ⟨name, typeName, base, doc, operations, locators, router⟩ := service
  rw [ofOutline?, toJson, Outline.members?_toOutline
    (by cases base <;> cases doc <;> simp [optionalMember]) (by decide)]
  simp only [Option.bind_eq_bind, Option.bind_some, Option.bind_eq_some_iff, Option.pure_def,
    Option.some.injEq, mk.injEq]
  cases base <;> cases doc
  all_goals
    simp [optionalMember, Outline.required?, Outline.optional?, List.lookup_cons,
      Outline.listOf?_toOutline, hoperation, LocatorPlan.ofOutline?_toJson, Router.ofOutline?_toJson]

end ServicePlan

namespace ClientPlan

/-- The names that a plan holds. -/
def names (plan : ClientPlan) : List Name := plan.services.flatMap ServicePlan.names

/-- What is read as a plan has a machine word as its root. -/
theorem root_lt_of_ofOutline? {outline : Outline} {plan : ClientPlan}
    (h : ofOutline? outline = some plan) : plan.root < UInt64.size := by
  simp only [ofOutline?, Option.bind_eq_bind, Option.bind_eq_some_iff, Option.pure_def,
    Option.some.injEq] at h
  obtain ⟨_, _, _, _, root, hroot, _, _, rfl⟩ := h
  obtain ⟨_, _, hread⟩ := Option.bind_eq_some_iff.mp hroot
  exact Outline.lt_of_naturalBelow? hread

/-- A written plan whose root is a machine word is read back exactly if its names are kept. -/
theorem ofOutline?_toJson {plan : ClientPlan} (hroot : plan.root < UInt64.size) :
    ofOutline? plan.toJson.toOutline = some plan ↔ ∀ name ∈ plan.names, name.IsKept := by
  have hservice : ∀ service : ServicePlan,
      ServicePlan.ofOutline? (Format.json.nestingLimit - 2) service.toJson.toOutline = some service ↔
        ∀ name ∈ service.names, name.IsKept := fun _ => ServicePlan.ofOutline?_toJson (by decide)
  have hservices : Outline.listOf? (ServicePlan.ofOutline? (Format.json.nestingLimit - 2))
      (Json.list (plan.services.map ServicePlan.toJson)).toOutline = some plan.services ↔
        ∀ name ∈ plan.names, name.IsKept := by
    simp only [Outline.listOf?_toOutline, hservice, names, List.forall_mem_flatMap]
  obtain ⟨members, hmembers, hnameAt, hrootAt, hservicesAt⟩ : ∃ members,
      plan.toJson.toOutline.members? .json ["name", "root", "services"] = some members ∧
      members.lookup "name" = some (Json.text plan.name).toOutline ∧
      members.lookup "root" = some (Json.integer plan.root).toOutline ∧
      members.lookup "services" = some (Json.list (plan.services.map ServicePlan.toJson)).toOutline :=
    ⟨_, Outline.members?_toOutline (by simp) (by decide), rfl, rfl, rfl⟩
  -- the members are read one by one, since the checker must not compute with the limit of the root
  rw [ofOutline?, hmembers, Option.bind_eq_bind, Option.bind_some, Outline.required?_eq hnameAt,
    Outline.text?_toOutline, Option.bind_eq_bind, Option.bind_some, Outline.required?_eq hrootAt,
    Outline.naturalBelow?_toOutline.mpr hroot, Option.bind_eq_bind, Option.bind_some,
    Outline.required?_eq hservicesAt, Option.bind_eq_bind, Option.bind_eq_some_iff, ← hservices]
  constructor
  · rintro ⟨services, hread, hmade⟩
    rw [hread, ← Option.some.inj hmade]
  · exact fun hread => ⟨_, hread, rfl⟩

end ClientPlan

/-! ## Texts of plans -/

/-- A written natural is an integer of a machine word if it is below the limit. -/
theorem Json.whole_integer {value : Nat} (h : value < UInt64.size) : (Json.integer value).Whole :=
  ⟨Int.le_trans (by decide : Int64.minValue.toInt ≤ 0) (Int.natCast_nonneg value), by exact_mod_cast h⟩

/-- The document of a shape holds no numbers. -/
@[simp]
theorem BodyShape.whole_toJson (shape : BodyShape) : shape.toJson.Whole := by
  cases shape <;> simp [toJson]

/-- The document of a body parameter holds no numbers. -/
@[simp]
theorem BodyParameter.whole_toJson (parameter : BodyParameter) : parameter.toJson.Whole := by
  simp [toJson]

/-- The document of a query parameter holds no numbers. -/
@[simp]
theorem QueryParameter.whole_toJson (parameter : QueryParameter) : parameter.toJson.Whole := by
  simp [toJson, or_imp, forall_and, -Prod.forall]

/-- The document of an envelope field holds no numbers. -/
@[simp]
theorem EnvelopeField.whole_toJson (field : EnvelopeField) : field.toJson.Whole := by
  simp [toJson, or_imp, forall_and, -Prod.forall]

/-- The document of a response holds no numbers. -/
@[simp]
theorem ResponsePlan.whole_toJson (response : ResponsePlan) : response.toJson.Whole := by
  cases response <;> simp [toJson, or_imp, forall_and, -Prod.forall]

/-- The document of an operation holds no numbers but its status codes. -/
@[simp]
theorem OperationPlan.whole_toJson (operation : OperationPlan) : operation.toJson.Whole := by
  have hcode : ∀ code : UInt16, (Json.integer code.toNat).Whole := fun code =>
    Json.whole_integer (code.toNat_lt.trans (by decide))
  simp [toJson, or_imp, forall_and, -Prod.forall, hcode]

/-- The document of a locator holds no numbers. -/
@[simp]
theorem LocatorPlan.whole_toJson (locator : LocatorPlan) : locator.toJson.Whole := by
  simp [toJson, or_imp, forall_and, -Prod.forall]

/-- The document of an edge holds no numbers. -/
@[simp]
theorem RouteEdge.whole_toJson (edge : RouteEdge) : edge.toJson.Whole := by
  simp [toJson]

/-- The document of the edges of a service holds no numbers. -/
@[simp]
theorem Router.whole_toJson (router : Router) : router.toJson.Whole := by
  simp [toJson, or_imp, forall_and, -Prod.forall]

/-- The document of a service holds no numbers but status codes. -/
@[simp]
theorem ServicePlan.whole_toJson (service : ServicePlan) : service.toJson.Whole := by
  simp [toJson, or_imp, forall_and, -Prod.forall]

namespace ClientPlan

/-- The document of a plan holds no numbers but status codes and its root. -/
theorem whole_toJson {plan : ClientPlan} (hroot : plan.root < UInt64.size) : plan.toJson.Whole := by
  simp [toJson, Json.whole_integer hroot]

/-- What is read from the text of a plan is what its document holds. -/
theorem read?_render {plan : ClientPlan} (hroot : plan.root < UInt64.size) :
    read? plan.render = ofOutline? plan.toJson.toOutline := by
  have htext : plan.render.toList = Json.indented 0 plan.toJson ++ ['\n'] := by
    rw [render, Json.renderIndented, String.toList_append, String.toList_ofList]
    rfl
  rw [read?, htext, Json.outline?_indented (whole_toJson hroot), Option.bind_some]

/-- A plan is read back from its text exactly if its root is a machine word and each of its names has
words and is what its camel case spells. -/
theorem read?_render_iff (plan : ClientPlan) :
    read? plan.render = some plan ↔ plan.root < UInt64.size ∧
      ∀ name ∈ plan.names, Name.parse name.camelCase = name ∧ name.words ≠ [] := by
  simp only [← Name.isKept_iff]
  by_cases hroot : plan.root < UInt64.size
  · rw [read?_render hroot, ofOutline?_toJson hroot, and_iff_right hroot]
  · refine iff_of_false (fun h => hroot ?_) fun h => hroot h.1
    obtain ⟨outline, _, hread⟩ := Option.bind_eq_some_iff.mp h
    exact root_lt_of_ofOutline? hread

/-- A service whose name has no words. -/
def unnamedService : Service := ⟨⟨[]⟩, none, [], [], none⟩

/-- A model of that service alone. -/
def unnamedModel : Model := ⟨⟨["shop"]⟩, ⟨[]⟩, [unnamedService]⟩

/-- The plan of the service. -/
def unnamedServicePlan : ServicePlan where
  name := ⟨[]⟩
  typeName := "Service"
  base := none
  doc := none
  operations := []
  locators := []
  router := ⟨[], none⟩

/-- The unnamed model is valid and is planned, and the camel case of every name in its plan spells the
name, yet the plan is not read back. -/
theorem unnamedModel_unread : unnamedModel.validate = .ok () ∧ ∃ plan, unnamedModel.plan = .ok plan ∧
    (∀ name ∈ plan.names, Name.parse name.camelCase = name) ∧ read? plan.render = none := by
  have hservice : unnamedService.plan unnamedModel none = .ok unnamedServicePlan := by
    have hplan : unnamedService.plan unnamedModel none = .ok _ :=
      Service.plan_of_merged rfl List.mergeSort_nil List.mergeSort_nil (by decide)
    exact hplan.trans (by decide +kernel)
  refine ⟨by decide, ⟨"Shop", 0, [unnamedServicePlan]⟩, ?_, by decide +kernel, ?_⟩
  · exact (Model.plan_alone rfl hservice).trans (by decide +kernel)
  · rw [read?_render (by decide)]
    decide +kernel

end ClientPlan

end ServiceTree
