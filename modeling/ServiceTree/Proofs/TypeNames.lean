import Mathlib.Data.List.Nodup
import Mathlib.Data.List.SplitBy
import ServiceTree.Proofs.ClientAgreement

/-!
# Names of emitted types

A service is emitted as a structure and as a variant of the sum, both named by the words of the service
run together. Running words together forgets where one ends if the next does not begin with a capital,
so that services of different names can be emitted under one name. They are not if their words can be
read off the capitals.
-/

namespace ServiceTree

namespace Name

/-- A text with its first character in lower case. -/
def lowered : List Char → List Char
  | [] => []
  | c :: rest => Unicode.lower c ++ rest

/-- Whether a word can be read off its capitalized form, which has no capital behind its first
character. -/
def keepsLetters (word : String) : Bool :=
  !word.isEmpty && lowered (Unicode.capitalize word.toList) == word.toList &&
    (Unicode.capitalize word.toList).tail.all fun c => !Unicode.isUpper c

/-- Whether the capitalized form of a word begins with a capital. -/
def takesCapital (word : String) : Bool :=
  (Unicode.capitalize word.toList).head?.any Unicode.isUpper

/-- Whether the words of a name can be read off the words run together. -/
def isLegible (name : Name) : Bool :=
  name.words.all keepsLetters && name.words.tail.all takesCapital

/-- The capitalized words of a name. -/
def capitals (name : Name) : List (List Char) :=
  name.words.map fun word => Unicode.capitalize word.toList

/-- The words run together are the capitalized words in a row. -/
theorem camelCase_toList (name : Name) : name.camelCase.toList = name.capitals.flatten := by
  rw [camelCase, String.toList_join, List.flatMap_map, capitals, ← List.flatMap_def]
  simp only [capitalizeWord, String.toList_ofList]

/-- A word that can be read off its capitalized form is that form in lower case. -/
theorem lowered_capitalize {word : String} (h : keepsLetters word = true) :
    String.ofList (lowered (Unicode.capitalize word.toList)) = word := by
  simp only [keepsLetters, Bool.and_eq_true, beq_iff_eq] at h
  rw [h.1.2, String.ofList_toList]

/-- The capitalized form of a word that can be read off it is not empty, and its characters behind the
first are no capitals. -/
theorem capitalize_of_keepsLetters {word : String} (h : keepsLetters word = true) :
    ∃ first rest, Unicode.capitalize word.toList = first :: rest ∧
      ∀ c ∈ rest, Unicode.isUpper c = false := by
  have hword := lowered_capitalize h
  simp only [keepsLetters, Bool.and_eq_true] at h
  cases hcapital : Unicode.capitalize word.toList with
  | nil =>
    rw [hcapital] at hword
    subst hword
    cases h.1.1
  | cons first rest =>
    rw [hcapital] at h
    exact ⟨first, rest, rfl, by simpa using h.2⟩

/-- The capitalized words of a legible name can be told apart where a capital begins. -/
theorem splitBy_capitals {name : Name} (h : name.isLegible = true) :
    name.capitals.flatten.splitBy (fun _ c => !Unicode.isUpper c) = name.capitals := by
  rw [isLegible, Bool.and_eq_true, List.all_eq_true, List.all_eq_true] at h
  obtain ⟨hkeeps, htakes⟩ := h
  have hword {capital : List Char} (hmem : capital ∈ name.capitals) :
      ∃ first rest, capital = first :: rest ∧ ∀ c ∈ rest, Unicode.isUpper c = false := by
    obtain ⟨word, hword, rfl⟩ := List.mem_map.mp hmem
    exact capitalize_of_keepsLetters (hkeeps word hword)
  have hfull : [] ∉ name.capitals := by
    intro hmem
    obtain ⟨first, rest, hnil, _⟩ := hword hmem
    cases hnil
  apply List.splitBy_flatten hfull
  · -- within a word no capital follows
    intro capital hmem
    obtain ⟨first, rest, rfl, hrest⟩ := hword hmem
    have hsmall : ∀ c ∈ rest, (!Unicode.isUpper c) = true := by simpa using hrest
    refine (List.pairwise_cons.mpr ⟨hsmall, ?_⟩).isChain
    exact List.pairwise_of_forall_mem_list fun _ _ c hc => hsmall c hc
  · -- every word but the first begins with one
    have hall : name.capitals.IsChain fun _ _ => True :=
      (List.pairwise_of_forall fun _ _ => trivial).isChain
    refine hall.imp_of_mem_tail_imp fun previous next hprevious hnext _ => ?_
    rw [capitals, ← List.map_tail, List.mem_map] at hnext
    obtain ⟨word, hword, rfl⟩ := hnext
    have hcapital := htakes word hword
    rw [takesCapital, Option.any_eq_true] at hcapital
    obtain ⟨first, hfirst, hupper⟩ := hcapital
    obtain ⟨rest, hrest⟩ := List.head?_eq_some_iff.mp hfirst
    refine ⟨fun hnil => hfull (hnil ▸ hprevious), by simp [hrest], ?_⟩
    simp [hrest, hupper]

/-- Legible names that are run together to the same text are the same. -/
theorem eq_of_camelCase {name other : Name} (hname : name.isLegible = true)
    (hother : other.isLegible = true) (h : name.camelCase = other.camelCase) : name = other := by
  have hcapitals : name.capitals = other.capitals := by
    rw [← splitBy_capitals hname, ← splitBy_capitals hother, ← camelCase_toList, ← camelCase_toList, h]
  have hwords {legible : Name} (hlegible : legible.isLegible = true) :
      legible.capitals.map (fun capital => String.ofList (lowered capital)) = legible.words := by
    rw [isLegible, Bool.and_eq_true, List.all_eq_true] at hlegible
    rw [capitals, List.map_map]
    exact (List.map_congr_left fun word hmem => lowered_capitalize (hlegible.1 word hmem)).trans
      (List.map_id _)
  have hsame : name.words = other.words := by rw [← hwords hname, ← hwords hother, hcapitals]
  cases name
  cases other
  exact congrArg Name.mk hsame

example : (Name.parse "HTTPServer2").isLegible = true ∧ (Name.parse "A_1b").isLegible = false := by
  decide +kernel

/-- Names make the same type exactly if they are run together to the same text. -/
theorem serviceType_inj {name other : Name} :
    name.serviceType = other.serviceType ↔ name.camelCase = other.camelCase :=
  String.append_left_inj "Service"

end Name

namespace Model

/-- Whether services of different names have different names for their types. -/
def TypesApart (model : Model) : Prop :=
  ∀ service ∈ model.services, ∀ other ∈ model.services,
    service.name.camelCase = other.name.camelCase → service.name = other.name

/-- Types of legible names are apart. -/
theorem typesApart_of_legible {model : Model}
    (h : ∀ service ∈ model.services, service.name.isLegible = true) : model.TypesApart :=
  fun service hmem other hother => Name.eq_of_camelCase (h service hmem) (h other hother)

/-- Texts that are equal exactly for names run together to the same text are all different exactly if the
types of the services are apart. -/
theorem nodup_iff_typesApart {model : Model} (hnames : (model.services.map Service.name).Nodup)
    {text : Name → String}
    (htext : ∀ name other, text name = text other ↔ name.camelCase = other.camelCase) :
    ((model.services.map Service.name).map text).Nodup ↔ model.TypesApart := by
  rw [List.nodup_map_iff_inj_on hnames]
  simp only [List.forall_mem_map, htext]
  rfl

end Model

namespace ClientCode

/-- The types that a client declares: that of the sum, and one for each service. -/
def typeNames (client : ClientCode) : List String :=
  anyServiceType :: client.services.map fun service => service.name.token

/-- The variants of the sum. -/
def variantNames (client : ClientCode) : List String :=
  client.variants.map fun variant => variant.name.token

variable {plan : ClientPlan} {client : ClientCode}

/-- The declared types are those that the plan names, and so are the variants. -/
theorem names_of_ofPlan (h : ofPlan plan = .ok client) :
    client.typeNames = anyServiceType :: plan.services.map ServicePlan.typeName ∧
      client.variantNames = plan.services.map ServicePlan.variant := by
  obtain ⟨_, hservices, hvariants⟩ := ofPlan_eq_ok h
  constructor
  · rw [typeNames, Outcome.map_eq_map hservices]
    intro service code hcode
    exact (Identifier.token_of_spelled (EmittedFrom.of_ofPlan hcode).name).symm
  · refine (Outcome.map_eq_map hvariants ?_).symm
    intro service variant hvariant
    obtain ⟨name, hname, hvariant⟩ := Outcome.bind_eq_ok.mp hvariant
    obtain ⟨type, _, hvariant⟩ := Outcome.bind_eq_ok.mp hvariant
    cases hvariant
    exact (Identifier.token_of_spelled hname).symm

/-- A client that the grammar accepts was made from its plan. -/
theorem ofPlan_of_clientCode (h : plan.clientCode = .ok client) : ofPlan plan = .ok client := by
  obtain ⟨code, hcode, h⟩ := Outcome.bind_eq_ok.mp h
  split at h
  · cases h
    exact hcode
  · cases h

end ClientCode

/-- In the client of a valid model, types and variants are pairwise different exactly if no two services have
one name for their types; none has that of the sum, and legible names differ. -/
theorem type_names_nodup_iff {model : Model} {plan : ClientPlan} {client : ClientCode}
    (hvalidate : model.validate = .ok ()) (hplan : model.plan = .ok plan)
    (hclient : ClientCode.ofPlan plan = .ok client) :
    anyServiceType ∉ (client.services.map fun service => service.name.token) ∧
      (client.typeNames.Nodup ↔ model.TypesApart) ∧ (client.variantNames.Nodup ↔ model.TypesApart) ∧
        ((∀ service ∈ model.services, service.name.isLegible = true) → model.TypesApart) := by
  have hnames := (Model.validate_eq_ok_iff.mp hvalidate).names
  obtain ⟨htypes, hvariants⟩ := ClientCode.names_of_ofPlan hclient
  have hfree : anyServiceType ∉ client.services.map fun service => service.name.token := by
    obtain ⟨hplanned, _⟩ := ClientCode.ofPlan_eq_ok hclient
    have hservices := (List.cons.inj htypes).2
    rw [hservices, List.mem_map]
    rintro ⟨service, hmem, htype⟩
    exact hplanned service hmem htype
  refine ⟨hfree, ?_, ?_, Model.typesApart_of_legible⟩
  · rw [ClientCode.typeNames, List.nodup_cons, and_iff_right hfree, (List.cons.inj htypes).2,
      (Model.plan_types_perm hplan).nodup_iff]
    exact Model.nodup_iff_typesApart hnames fun _ _ => Name.serviceType_inj
  · have hperm := (Model.plan_names_perm hplan).map Name.camelCase
    rw [List.map_map] at hperm
    rw [hvariants]
    exact hperm.nodup_iff.trans (Model.nodup_iff_typesApart hnames fun _ _ => Iff.rfl)

/-- The types of the redeclaring model are apart, and so are the names in its client. -/
theorem redeclaringModel_types_apart : redeclaringModel.validate = .ok () ∧
    redeclaringModel.plan = .ok redeclaringPlan ∧
      ∃ client, ClientCode.ofPlan redeclaringPlan = .ok client ∧ client.typeNames.Nodup ∧
        client.variantNames.Nodup := by
  have hvalidate : redeclaringModel.validate = .ok () := by decide
  obtain ⟨client, hclient⟩ : ∃ client, ClientCode.ofPlan redeclaringPlan = .ok client :=
    Outcome.exists_of_isSome (by decide +kernel)
  obtain ⟨_, htypes, hvariants, hlegible⟩ :=
    type_names_nodup_iff hvalidate redeclaringModel_plan hclient
  have hapart := hlegible (by decide +kernel)
  exact ⟨hvalidate, redeclaringModel_plan, client, hclient, htypes.mpr hapart, hvariants.mpr hapart⟩

/-- A service of the clashing model, under a name of its own. -/
def clashingService (name : Name) : Service := ⟨name, none, [], [], none⟩

/-- A model of two services whose names have the same letters, one in one word and one in two. -/
def clashingModel : Model :=
  ⟨⟨["shop"]⟩, ⟨["a1b"]⟩, [clashingService ⟨["a", "1b"]⟩, clashingService ⟨["a1b"]⟩]⟩

/-- The plan of a service of the clashing model. -/
def clashingServicePlan (name : Name) : ServicePlan :=
  ⟨name, "A1bService", none, none, [], [], ⟨[], none⟩⟩

/-- The plan of the clashing model. -/
def clashingPlan : ClientPlan :=
  ⟨"Shop", 1, [clashingServicePlan ⟨["a", "1b"]⟩, clashingServicePlan ⟨["a1b"]⟩]⟩

/-- The clashing model has that plan. -/
theorem clashingModel_plan : clashingModel.plan = .ok clashingPlan := by
  have hordered : orderServices clashingModel.services = .ok clashingModel.services := by
    have hsorted : sortServices clashingModel.services = clashingModel.services :=
      List.mergeSort_of_pairwise (by decide)
    rw [orderServices, hsorted]
    simp [clashingModel, clashingService, placeServices, isReady, Except.map]
  have hservice {name : Name} (htype : name.serviceType = "A1bService") :
      (clashingService name).plan clashingModel none = .ok (clashingServicePlan name) := by
    have hplan : (clashingService name).plan clashingModel none = .ok _ :=
      Service.plan_of_merged rfl List.mergeSort_nil List.mergeSort_nil (by decide)
    rw [hplan, clashingServicePlan, ← htype]
    rfl
  have hservices : planServices clashingModel [] clashingModel.services = .ok clashingPlan.services := by
    have hfirst := hservice (show (⟨["a", "1b"]⟩ : Name).serviceType = _ by decide +kernel)
    have hsecond := hservice (show (⟨["a1b"]⟩ : Name).serviceType = _ by decide +kernel)
    refine Outcome.bind_eq_ok.mpr ⟨none, rfl, Outcome.bind_eq_ok.mpr ⟨_, hfirst, ?_⟩⟩
    exact Outcome.bind_eq_ok.mpr ⟨none, rfl, Outcome.bind_eq_ok.mpr ⟨_, hsecond, rfl⟩⟩
  refine Outcome.bind_eq_ok.mpr ⟨_, hordered, Outcome.bind_eq_ok.mpr ⟨_, hservices, ?_⟩⟩
  decide +kernel

/-- A valid model whose client declares one type, and one variant, for two services. -/
theorem clashingModel_clashes : clashingModel.validate = .ok () ∧
    clashingModel.plan = .ok clashingPlan ∧ ∃ client, ClientCode.ofPlan clashingPlan = .ok client ∧
      clashingPlan.emitItems = .ok client.tokens ∧ ¬ client.typeNames.Nodup ∧
        ¬ client.variantNames.Nodup := by
  have hrepeats : (clashingPlan.clientCode.toOption.any fun client =>
      !decide client.typeNames.Nodup && !decide client.variantNames.Nodup) = true := by
    decide +kernel
  obtain ⟨client, hsome, hrepeats⟩ := (Option.any_eq_true _ _).mp hrepeats
  have hclient : clashingPlan.clientCode = .ok client := Outcome.toOption_eq_some.mp hsome
  refine ⟨by decide, clashingModel_plan, client, ClientCode.ofPlan_of_clientCode hclient, ?_, ?_⟩
  · rw [ClientPlan.emitItems, hclient]
    rfl
  · simpa using hrepeats

end ServiceTree
