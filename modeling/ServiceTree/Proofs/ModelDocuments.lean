import Mathlib.Data.List.Nodup
import ServiceTree.Model.Declaration
import ServiceTree.Model.File
import ServiceTree.Proofs.CompactDocuments
import ServiceTree.Proofs.Outcome

/-!
# Models as documents

What becomes of a model that is written and read again. Every record of its document is read member by
member, so the model comes back exactly if each of its names is spelled by its camel case and its types
leave room for the containers around them. The first is not so of every name: the camel case of
`A_B` is `AB`, which spells one word.
-/

namespace ServiceTree

namespace Outline

/-- A written list is read back exactly if each of its items is. -/
theorem listOf?_toOutline {A : Type} {read : Outline → Option A} {write : A → Json} {items : List A} :
    listOf? read (Json.list (items.map write)).toOutline = some items ↔
      ∀ item ∈ items, read (write item).toOutline = some item := by
  change (Json.itemsToOutline (items.map write)).mapM read = _ ↔ _
  rw [Json.itemsToOutline_eq_map, List.map_map, List.mapM_map]
  refine Iff.trans ?_ Outcome.mapM_eq_some_map
  rw [List.map_id']
  exact Iff.rfl

/-- The members of a written record that are asked for are found under their keys. -/
theorem knownMembers?_toOutline (format : Format) (known : List String)
    (members : List (String × Json)) (hdistinct : (members.map Prod.fst).Nodup) :
    knownMembers? format known (Json.membersToOutline members) =
      some ((members.filter fun member => member.1 ∈ known).map fun member =>
        (member.1, member.2.toOutline)) := by
  have hkey (key : String) : known.find? (· == key) = if key ∈ known then some key else none := by
    split
    · obtain ⟨found, hfound⟩ : ∃ found, known.find? (· == key) = some found :=
        Option.isSome_iff_exists.mp (List.find?_isSome.mpr ⟨key, ‹_›, beq_self_eq_true key⟩)
      rw [hfound, eq_of_beq (List.find?_some (p := (· == key)) hfound)]
    · exact List.find?_eq_none.mpr fun other hother heq => absurd (eq_of_beq heq ▸ hother) ‹_›
  have hread : ((Json.membersToOutline members).mapM fun member =>
      (member.1.listed? format known).map fun key => key.map fun key => (key, member.2)) =
        some (members.map fun member =>
          if member.1 ∈ known then some (member.1, member.2.toOutline) else none) := by
    rw [Json.membersToOutline_eq_map, List.mapM_map, Outcome.mapM_eq_some_map]
    intro member _
    by_cases hmem : member.1 ∈ known <;> simp [listed?, hkey, hmem]
  have hasked : (members.map fun member =>
      if member.1 ∈ known then some (member.1, member.2.toOutline) else none).filterMap id =
        (members.filter fun member => member.1 ∈ known).map fun member =>
          (member.1, member.2.toOutline) := by
    rw [List.filterMap_map, ← List.filterMap_eq_map, List.filterMap_filter]
    simp
  have honce : (((members.filter fun member => member.1 ∈ known).map fun member =>
      (member.1, member.2.toOutline)).map Prod.fst).Nodup := by
    rw [List.map_map]
    exact hdistinct.sublist (List.filter_sublist.map Prod.fst)
  rw [knownMembers?, hread, Option.bind_eq_bind, Option.bind_some, hasked, if_pos honce]

/-- A written record is read as its members, if all of them are asked for. -/
theorem members?_toOutline {format : Format} {known : List String} {members : List (String × Json)}
    (hkeys : (members.map Prod.fst).Sublist known) (hdistinct : known.Nodup) :
    members? format known (Json.record members).toOutline =
      some (members.map fun member => (member.1, member.2.toOutline)) := by
  have hasked : (members.filter fun member => member.1 ∈ known) = members :=
    List.filter_eq_self.mpr fun member hmember =>
      decide_eq_true (hkeys.subset (List.mem_map_of_mem hmember))
  rw [Json.toOutline, members?, knownMembers?_toOutline format known _ (hdistinct.sublist hkeys),
    hasked]

/-- A written truth value is read back. -/
@[simp]
theorem truth?_toOutline (value : Bool) : (Json.bool value).toOutline.truth? = some value := rfl

/-- A written text is read back. -/
@[simp]
theorem text?_toOutline (value : String) : (Json.text value).toOutline.text? = some value := rfl

/-- A written text is something. -/
@[simp]
theorem isAbsent_text_toOutline (value : String) : (Json.text value).toOutline.isAbsent = false := rfl

/-- The form of a written tag and the content under it are told apart. -/
theorem tagged?_toOutline (format : Format) (room : Nat) {tagKey contentKey : String}
    (hkeys : tagKey ≠ contentKey) (tags : List String) (word : String) (content : Json) :
    tagged? format room tagKey contentKey tags
        (Json.record [(tagKey, .text word), (contentKey, content)]).toOutline =
      some ⟨word, content.toOutline, format⟩ := by
  have hmembers := knownMembers?_toOutline format [tagKey, contentKey]
    [(tagKey, .text word), (contentKey, content)] (by simpa using hkeys)
  rw [Json.toOutline, tagged?, hmembers]
  simp [word?, Json.toOutline]

end Outline

/-! ## Records, member by member -/

/-- Whether a name is what its camel case spells. -/
def Name.IsKept (name : Name) : Prop := Name.parse? name.camelCase = some name

/-- Whether a name is kept can be computed. -/
instance (name : Name) : Decidable name.IsKept :=
  inferInstanceAs (Decidable (Name.parse? name.camelCase = some name))

/-- A written name is something. -/
@[simp]
theorem Name.isAbsent_toJson (name : Name) : name.toJson.toOutline.isAbsent = false := rfl

/-- A written name is read back exactly if it is kept. -/
@[simp]
theorem Name.ofOutline?_toJson {name : Name} :
    Name.ofOutline? name.toJson.toOutline = some name ↔ name.IsKept := Iff.rfl

example : (Name.parse "HTTPServer").IsKept ∧ ¬(Name.parse "A_B").IsKept := by decide +kernel

/-- The word of a kind is read back. -/
theorem PrimitiveKind.choice?_toOutline (room : Nat) (kind : PrimitiveKind) :
    Outline.choice? .json room PrimitiveKind.all PrimitiveKind.word (Json.text kind.word).toOutline =
      some kind := by
  cases kind <;> rfl

/-- A written parameter is something. -/
@[simp]
theorem Parameter.isAbsent_toJson (parameter : Parameter) :
    parameter.toJson.toOutline.isAbsent = false := rfl

/-- A written parameter is read back exactly if its name and its type are. -/
theorem Parameter.ofOutline?_toJson {room : Nat} {parameter : Parameter} :
    ofOutline? .json room parameter.toJson.toOutline = some parameter ↔
      parameter.name.IsKept ∧
      ValueType.ofOutline? .json (room - 1) parameter.type.toJson.toOutline = some parameter.type := by
  obtain ⟨name, type, isIn, isOut, doc⟩ := parameter
  rw [ofOutline?, toJson, Outline.members?_toOutline
    (by cases doc <;> simp [optionalMember]) (by decide)]
  simp only [Option.bind_eq_bind, Option.bind_some, Option.bind_eq_some_iff, Option.pure_def,
    Option.some.injEq, mk.injEq]
  cases doc
  all_goals
    simp [optionalMember, Outline.required?, Outline.defaulted?, Outline.optional?, List.lookup_cons]

/-- A written method is read back exactly if its name and its parameters are. -/
theorem Method.ofOutline?_toJson {room : Nat} {method : Method} :
    ofOutline? .json room method.toJson.toOutline = some method ↔
      method.name.IsKept ∧
      ∀ parameter ∈ method.parameters,
        Parameter.ofOutline? .json (room - 2) parameter.toJson.toOutline = some parameter := by
  obtain ⟨name, parameters, doc⟩ := method
  rw [ofOutline?, toJson, Outline.members?_toOutline
    (by cases doc <;> simp [optionalMember]) (by decide)]
  simp only [Option.bind_eq_bind, Option.bind_some, Option.bind_eq_some_iff, Option.pure_def,
    Option.some.injEq, mk.injEq]
  cases doc
  all_goals
    simp [optionalMember, Outline.required?, Outline.defaulted?, Outline.optional?, List.lookup_cons,
      Outline.listOf?_toOutline]

/-- A written locator is read back exactly if its name, its parameter and its target are. -/
theorem Locator.ofOutline?_toJson {room : Nat} {locator : Locator} :
    ofOutline? .json room locator.toJson.toOutline = some locator ↔
      locator.name.IsKept ∧
      (∀ parameter ∈ locator.parameter.toList,
        Parameter.ofOutline? .json (room - 1) parameter.toJson.toOutline = some parameter) ∧
      locator.service.IsKept := by
  obtain ⟨name, parameter, service, doc⟩ := locator
  rw [ofOutline?, toJson, Outline.members?_toOutline
    (by cases parameter <;> cases doc <;> simp [optionalMember]) (by decide)]
  simp only [Option.bind_eq_bind, Option.bind_some, Option.bind_eq_some_iff, Option.pure_def,
    Option.some.injEq, mk.injEq]
  cases parameter <;> cases doc
  all_goals
    simp [optionalMember, Outline.required?, Outline.optional?, List.lookup_cons]

/-- A written service is read back exactly if its name, its base and its members are. -/
theorem Service.ofOutline?_toJson {room : Nat} {service : Service} :
    ofOutline? .json room service.toJson.toOutline = some service ↔
      service.name.IsKept ∧ (∀ base ∈ service.base.toList, base.IsKept) ∧
      (∀ method ∈ service.methods,
        Method.ofOutline? .json (room - 2) method.toJson.toOutline = some method) ∧
      ∀ locator ∈ service.locators,
        Locator.ofOutline? .json (room - 2) locator.toJson.toOutline = some locator := by
  obtain ⟨name, base, methods, locators, doc⟩ := service
  rw [ofOutline?, toJson, Outline.members?_toOutline
    (by cases base <;> cases doc <;> simp [optionalMember]) (by decide)]
  simp only [Option.bind_eq_bind, Option.bind_some, Option.bind_eq_some_iff, Option.pure_def,
    Option.some.injEq, mk.injEq]
  cases base <;> cases doc
  all_goals
    simp [optionalMember, Outline.required?, Outline.defaulted?, Outline.optional?, List.lookup_cons,
      Outline.listOf?_toOutline]

/-- A written model is read back exactly if its name, its root and its services are. -/
theorem Model.ofOutline?_toJson {model : Model} :
    ofOutline? .json model.toJson.toOutline = some model ↔
      model.name.IsKept ∧ model.root.IsKept ∧
      ∀ service ∈ model.services,
        Service.ofOutline? .json (Format.json.nestingLimit - 2) service.toJson.toOutline =
          some service := by
  obtain ⟨name, root, services⟩ := model
  rw [ofOutline?, toJson, Outline.members?_toOutline (by simp) (by decide)]
  simp only [Option.bind_eq_bind, Option.bind_some, Option.bind_eq_some_iff, Option.pure_def,
    Option.some.injEq, mk.injEq]
  simp [Outline.required?, Outline.defaulted?, List.lookup_cons, Outline.listOf?_toOutline]

/-! ## Names and nesting -/

/-- What is asked of each item and of each of its names is asked of the items and of all their names. -/
theorem forall_mem_and_names {A : Type} {items : List A} {fits : A → Prop} {names : A → List Name}
    {P : Name → Prop} :
    (∀ item ∈ items, fits item ∧ ∀ name ∈ names item, P name) ↔
      (∀ item ∈ items, fits item) ∧ ∀ name ∈ items.flatMap names, P name := by
  simp only [imp_and, forall_and, List.forall_mem_flatMap]

namespace ValueType

/-- How deeply the document of a type nests. -/
def nesting : ValueType → Nat
  | .primitive _ => 1
  | .struct _ => 1
  | .list element => element.nesting + 1

/-- Every type is a record at least. -/
theorem nesting_pos (type : ValueType) : 0 < type.nesting := by
  cases type <;> exact Nat.succ_pos _

/-- The names that a type holds. -/
def names : ValueType → List Name
  | .primitive _ => []
  | .struct name => [name]
  | .list element => element.names

/-- A written type is read back exactly if there is room for its lists and its names are kept. -/
theorem ofOutline?_toJson {room : Nat} {type : ValueType} :
    ofOutline? .json room type.toJson.toOutline = some type ↔
      type.nesting ≤ room ∧ ∀ name ∈ type.names, name.IsKept := by
  induction type generalizing room with
  | primitive kind =>
    cases room with
    | zero => simp [ofOutline?, nesting]
    | succ room =>
      simp [ofOutline?, toJson, Outline.tagged?_toOutline, PrimitiveKind.choice?_toOutline, nesting,
        names]
  | struct name =>
    cases room with
    | zero => simp [ofOutline?, nesting]
    | succ room =>
      simp [ofOutline?, toJson, Outline.tagged?_toOutline, nesting, names]
  | list element ih =>
    cases room with
    | zero => simp [ofOutline?, nesting]
    | succ room => simp [ofOutline?, toJson, Outline.tagged?_toOutline, nesting, names, ih]

end ValueType

namespace Parameter

/-- The names that a parameter holds. -/
def names (parameter : Parameter) : List Name := parameter.name :: parameter.type.names

/-- A parameter comes back exactly if there is room for its type and its names are kept. -/
theorem comesBack_iff {room : Nat} {parameter : Parameter} :
    ofOutline? .json room parameter.toJson.toOutline = some parameter ↔
      parameter.type.nesting + 1 ≤ room ∧ ∀ name ∈ parameter.names, name.IsKept := by
  have hroom : parameter.type.nesting ≤ room - 1 ↔ parameter.type.nesting + 1 ≤ room := by
    have hpositive := parameter.type.nesting_pos
    omega
  rw [ofOutline?_toJson, ValueType.ofOutline?_toJson, hroom, names, List.forall_mem_cons, and_left_comm]

end Parameter

namespace Method

/-- The names that a method holds. -/
def names (method : Method) : List Name := method.name :: method.parameters.flatMap Parameter.names

/-- A method comes back exactly if there is room for its types and its names are kept. -/
theorem comesBack_iff {room : Nat} {method : Method} :
    ofOutline? .json room method.toJson.toOutline = some method ↔
      (∀ parameter ∈ method.parameters, parameter.type.nesting + 3 ≤ room) ∧
        ∀ name ∈ method.names, name.IsKept := by
  have hroom (parameter : Parameter) :
      parameter.type.nesting + 1 ≤ room - 2 ↔ parameter.type.nesting + 3 ≤ room := by
    omega
  simp only [ofOutline?_toJson, Parameter.comesBack_iff, forall_mem_and_names, hroom]
  rw [names, List.forall_mem_cons, and_left_comm]

end Method

namespace Locator

/-- The names that a locator holds. -/
def names (locator : Locator) : List Name :=
  locator.name :: (locator.parameter.toList.flatMap Parameter.names ++ [locator.service])

/-- A locator comes back exactly if there is room for its type and its names are kept. -/
theorem comesBack_iff {room : Nat} {locator : Locator} :
    ofOutline? .json room locator.toJson.toOutline = some locator ↔
      (∀ parameter ∈ locator.parameter.toList, parameter.type.nesting + 2 ≤ room) ∧
        ∀ name ∈ locator.names, name.IsKept := by
  have hroom (parameter : Parameter) :
      parameter.type.nesting + 1 ≤ room - 1 ↔ parameter.type.nesting + 2 ≤ room := by
    omega
  simp only [ofOutline?_toJson, Parameter.comesBack_iff, forall_mem_and_names, hroom]
  rw [names, List.forall_mem_cons, List.forall_mem_append, List.forall_mem_singleton,
    and_assoc, and_left_comm]

end Locator

namespace Service

/-- The names that a service holds. -/
def names (service : Service) : List Name :=
  service.name :: (service.base.toList ++ (service.methods.flatMap Method.names ++
    service.locators.flatMap Locator.names))

/-- A service comes back exactly if there is room for its types and its names are kept. -/
theorem comesBack_iff {room : Nat} {service : Service} :
    ofOutline? .json room service.toJson.toOutline = some service ↔
      ((∀ method ∈ service.methods, ∀ parameter ∈ method.parameters, parameter.type.nesting + 5 ≤ room) ∧
        ∀ locator ∈ service.locators, ∀ parameter ∈ locator.parameter.toList,
          parameter.type.nesting + 4 ≤ room) ∧
        ∀ name ∈ service.names, name.IsKept := by
  have hroom (parameter : Parameter) :
      (parameter.type.nesting + 3 ≤ room - 2 ↔ parameter.type.nesting + 5 ≤ room) ∧
        (parameter.type.nesting + 2 ≤ room - 2 ↔ parameter.type.nesting + 4 ≤ room) := by
    omega
  simp only [ofOutline?_toJson, Method.comesBack_iff, Locator.comesBack_iff, forall_mem_and_names, hroom]
  rw [names, List.forall_mem_cons, List.forall_mem_append, List.forall_mem_append]
  constructor
  · rintro ⟨hname, hbase, ⟨hmethods, hmethodNames⟩, hlocators, hlocatorNames⟩
    exact ⟨⟨hmethods, hlocators⟩, hname, hbase, hmethodNames, hlocatorNames⟩
  · rintro ⟨⟨hmethods, hlocators⟩, hname, hbase, hmethodNames, hlocatorNames⟩
    exact ⟨hname, hbase, ⟨hmethods, hmethodNames⟩, hlocators, hlocatorNames⟩

end Service

namespace Model

/-- The names that a model holds. -/
def names (model : Model) : List Name :=
  model.name :: model.root :: model.services.flatMap Service.names

/-- Whether the types of a model leave room for the containers around them: seven around the type of a
method's parameter, six around that of a locator's. -/
def TypesFit (model : Model) : Prop :=
  ∀ service ∈ model.services,
    (∀ method ∈ service.methods, ∀ parameter ∈ method.parameters,
      parameter.type.nesting + 7 ≤ Format.json.nestingLimit) ∧
    ∀ locator ∈ service.locators, ∀ parameter ∈ locator.parameter.toList,
      parameter.type.nesting + 6 ≤ Format.json.nestingLimit

/-- A model comes back exactly if its types fit and its names are kept. -/
theorem comesBack_iff {model : Model} :
    ofOutline? .json model.toJson.toOutline = some model ↔
      model.TypesFit ∧ ∀ name ∈ model.names, name.IsKept := by
  have hroom (parameter : Parameter) :
      (parameter.type.nesting + 5 ≤ Format.json.nestingLimit - 2 ↔
        parameter.type.nesting + 7 ≤ Format.json.nestingLimit) ∧
      (parameter.type.nesting + 4 ≤ Format.json.nestingLimit - 2 ↔
        parameter.type.nesting + 6 ≤ Format.json.nestingLimit) := by
    omega
  simp only [ofOutline?_toJson, Service.comesBack_iff, forall_mem_and_names, hroom]
  rw [names, List.forall_mem_cons, List.forall_mem_cons, TypesFit]
  constructor
  · rintro ⟨hname, hroot, htypes, hnames⟩
    exact ⟨htypes, hname, hroot, hnames⟩
  · rintro ⟨htypes, hname, hroot, hnames⟩
    exact ⟨hname, hroot, htypes, hnames⟩

end Model

/-! ## Texts of models -/

/-- What is asked of a member that is written for a value is asked of the value. -/
@[simp]
theorem forall_mem_optionalMember {A : Type} {key : String} {write : A → Json} {value : Option A}
    {P : String × Json → Prop} :
    (∀ member ∈ optionalMember key write value, P member) ↔ ∀ held ∈ value, P (key, write held) := by
  cases value <;> simp [optionalMember]

/-- The document of a name holds no numbers. -/
@[simp]
theorem Name.whole_toJson (name : Name) : name.toJson.Whole := trivial

/-- The document of a type holds no numbers. -/
@[simp]
theorem ValueType.whole_toJson (type : ValueType) : type.toJson.Whole := by
  induction type with
  | primitive kind => simp [toJson]
  | struct name => simp [toJson]
  | list element ih => simp [toJson, ih]

/-- The document of a parameter holds no numbers. -/
@[simp]
theorem Parameter.whole_toJson (parameter : Parameter) : parameter.toJson.Whole := by
  simp [toJson, or_imp, forall_and, -Prod.forall]

/-- The document of a method holds no numbers. -/
@[simp]
theorem Method.whole_toJson (method : Method) : method.toJson.Whole := by
  simp [toJson, or_imp, forall_and, -Prod.forall]

/-- The document of a locator holds no numbers. -/
@[simp]
theorem Locator.whole_toJson (locator : Locator) : locator.toJson.Whole := by
  simp [toJson, or_imp, forall_and, -Prod.forall]

/-- The document of a service holds no numbers. -/
@[simp]
theorem Service.whole_toJson (service : Service) : service.toJson.Whole := by
  simp [toJson, or_imp, forall_and, -Prod.forall]

/-- The document of a model holds no numbers. -/
theorem Model.whole_toJson (model : Model) : model.toJson.Whole := by
  simp [toJson]

namespace Model

/-- What is read from the compact text of a model is what its document holds. -/
theorem ofJsonText_render (model : Model) :
    ofJsonText model.toJson.render =
      checked .malformedJson (ofOutline? .json model.toJson.toOutline) := by
  rw [ofJsonText, Json.render, String.toList_ofList, Json.outline?_compact model.whole_toJson,
    Option.bind_some]

/-- A model is read back from its compact text exactly if it keeps every rule, its types leave room for
the containers around them, and its names are what their camel case spells. -/
theorem ofJsonText_render_iff (model : Model) :
    ofJsonText model.toJson.render = .ok model ↔
      model.validate = .ok () ∧ model.TypesFit ∧ ∀ name ∈ model.names, name.IsKept := by
  rw [ofJsonText_render, ← comesBack_iff]
  constructor
  · intro h
    cases hread : ofOutline? .json model.toJson.toOutline with
    | none =>
      rw [hread] at h
      cases h
    | some other =>
      -- what is handed out is what was read, so it is the model only if that was
      rw [hread, checked, Outcome.map_eq_ok] at h
      obtain ⟨_, hvalid, rfl⟩ := h
      exact ⟨hvalid, rfl⟩
  · rintro ⟨hvalid, hread⟩
    rw [hread, checked, hvalid]
    rfl

/-- A model with two services whose names have camel cases that spell one name. -/
def ambiguousModel : Model :=
  .declare "Shop" "Root"
    [.declare "Root" none [] [], .declare "A_B" none [] [], .declare "Ab" none [] []]

/-- Names come from spellings, types fit, and every rule is kept, yet reading the model back fails. -/
theorem ambiguousModel_refused :
    (∀ name ∈ ambiguousModel.names, ∃ spelling ∈ ["Shop", "Root", "A_B", "Ab"],
      Name.parse? spelling = some name) ∧
      ambiguousModel.TypesFit ∧ ambiguousModel.validate = .ok () ∧
      ofJsonText ambiguousModel.toJson.render = .error (.duplicateService "Ab") := by
  refine ⟨by decide +kernel, ?_, by decide +kernel, ?_⟩
  · unfold TypesFit
    decide +kernel
  · rw [ofJsonText_render]
    decide +kernel

end Model

end ServiceTree
