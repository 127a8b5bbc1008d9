import Mathlib.Data.List.Nodup
import ServiceTree.Proofs.EmissionOutcomes
import ServiceTree.Proofs.ParsedNames

/-!
# Names of emitted members

A service is refused if an operation takes the name of a fixed member or of an accessor, and for nothing
else: parsed names have identifiers and accessors of their own, so that no two operations and no two
accessors clash. The members are compared as their names are spelled, but emitted with keywords escaped. An
escape meets another name only where that one is spelled with the mark of raw identifiers already; this is
the one way in which an emitted service gets two functions of one name.
-/

namespace ServiceTree

/-! ## Escapes -/

namespace Identifier

/-- How a text becomes an identifier. -/
inductive Escape (text : String) : Identifier → Prop
  /-- A keyword that cannot be raw gets an underscore. -/
  | fenced (hword : text ∈ neverRaw) : Escape text ⟨text ++ "_", false⟩
  /-- Any other keyword is written as a raw identifier. -/
  | keyword (hword : text ∈ keywords) : Escape text ⟨text, true⟩
  /-- A text with the mark of raw identifiers is one. -/
  | marked {word : String} (htext : text = "r#" ++ word) (hplain : '#' ∉ word.toList)
      (hnever : word ∉ neverRaw) : Escape text ⟨word, true⟩
  /-- All other texts stay as they are. -/
  | kept (hplain : '#' ∉ text.toList) : Escape text ⟨text, false⟩

/-- Identifiers have no number sign in them. -/
theorem not_mem_of_isWellFormed {text : List Char} (h : isWellFormed text = true) : '#' ∉ text := by
  cases text with
  | nil => exact List.not_mem_nil
  | cons c rest =>
    obtain ⟨hopens, hrest⟩ := Bool.and_eq_true_iff.mp h
    intro hmem
    rcases List.mem_cons.mp hmem with rfl | hmem
    · cases hopens
    · cases List.all_eq_true.mp hrest '#' hmem

/-- Keywords that cannot be raw are fenced. -/
theorem escaped_neverRaw : ∀ word ∈ neverRaw, escaped word = .ok ⟨word ++ "_", false⟩ := by
  decide

/-- Other keywords are marked as raw. -/
theorem escaped_keyword : ∀ word ∈ keywords, escaped word = .ok ⟨word, true⟩ := by
  decide

/-- A text that becomes an identifier is escaped in one of four ways. -/
theorem Escape.of_escaped {text : String} {identifier : Identifier} (h : escaped text = .ok identifier) :
    Escape text identifier := by
  by_cases hnever : text ∈ neverRaw
  · rw [escaped_neverRaw text hnever] at h
    cases h
    exact .fenced hnever
  by_cases hkeyword : text ∈ keywords
  · rw [escaped_keyword text hkeyword] at h
    cases h
    exact .keyword hkeyword
  rw [escaped, if_neg (by simpa using hnever), if_neg (by simpa using hkeyword)] at h
  unfold spelled at h
  split at h
  case h_1 rest hraw =>
    dsimp only at h
    split at h
    case isTrue hword =>
      cases h
      obtain ⟨hformed, hfree⟩ := Bool.and_eq_true_iff.mp hword
      refine .marked ?_ ?_ (by simpa using hfree)
      · rw [← String.toList_inj, String.toList_append, hraw]
        change _ = 'r' :: '#' :: (String.ofList rest).toList
        rw [String.toList_ofList]
      · rw [String.toList_ofList]
        exact not_mem_of_isWellFormed hformed
    case isFalse => cases h
  case h_2 =>
    split at h
    case isTrue hformed =>
      cases h
      exact .kept (not_mem_of_isWellFormed hformed)
    case isFalse => cases h

section

variable {a b text : String} {x y identifier : Identifier}

/-- The mark of raw identifiers holds a number sign. -/
theorem mem_marked (text : String) : '#' ∈ ("r#" ++ text).toList := by
  rw [String.toList_append]
  exact List.mem_append_left _ (by decide)

/-- A text does not meet itself with the mark of raw identifiers in front. -/
theorem ne_marked (text : String) : text ≠ "r#" ++ text := by
  intro h
  have hlength := congrArg String.length h
  rw [String.length_append] at hlength
  change text.length = 2 + text.length at hlength
  omega

/-- A text with the mark of raw identifiers in front becomes the identifier of what is behind the mark. -/
theorem Escape.of_marked (h : Escape ("r#" ++ text) identifier) :
    identifier = ⟨text, true⟩ ∧ '#' ∉ text.toList ∧ text ∉ neverRaw := by
  have hreserved : ∀ word ∈ neverRaw ++ keywords, '#' ∉ word.toList := by decide
  cases h with
  | fenced hword => exact absurd (mem_marked text) (hreserved _ (List.mem_append_left _ hword))
  | keyword hword => exact absurd (mem_marked text) (hreserved _ (List.mem_append_right _ hword))
  | marked htext hplain hnever =>
    rw [String.append_right_inj] at htext
    subst htext
    exact ⟨rfl, hplain, hnever⟩
  | kept hplain => exact absurd (mem_marked text) hplain

/-- A text that has no mark and may be raw is its own word. -/
theorem Escape.word_eq (h : Escape text identifier) (hplain : '#' ∉ text.toList)
    (hnever : text ∉ neverRaw) : identifier.word = text := by
  cases h with
  | fenced hword => exact absurd hword hnever
  | keyword => rfl
  | marked htext => exact absurd (htext ▸ mem_marked _) hplain
  | kept => rfl

/-- A text is the word of its identifier, with an underscore or a mark taken off. -/
theorem Escape.word_cases (h : Escape text identifier) :
    identifier.word = text ++ "_" ∨ text = identifier.word ∨ text = "r#" ++ identifier.word := by
  cases h with
  | fenced => exact .inl rfl
  | keyword => exact .inr (.inl rfl)
  | marked htext => exact .inr (.inr htext)
  | kept => exact .inr (.inl rfl)

/-- Texts that do not end in underscores become identifiers of one word exactly if they are the same, or one
is the other with the mark of raw identifiers in front. -/
theorem word_eq_word_iff (ha : a.toList.getLast? ≠ some '_') (hb : b.toList.getLast? ≠ some '_')
    (hx : escaped a = .ok x) (hy : escaped b = .ok y) :
    x.word = y.word ↔ a = b ∨ b = "r#" ++ a ∨ a = "r#" ++ b := by
  have hfence (text : String) : (text ++ "_").toList.getLast? = some '_' := by
    rw [String.toList_append]
    exact List.getLast?_concat
  have hmarked {a b : String} {x y : Identifier} (hx : Escape a x) (hy : Escape b y)
      (hmark : b = "r#" ++ a) : x.word = y.word := by
    subst hmark
    obtain ⟨rfl, hplain, hnever⟩ := hy.of_marked
    exact hx.word_eq hplain hnever
  have hescape := Escape.of_escaped hx
  have hescape' := Escape.of_escaped hy
  constructor
  · intro hsame
    rcases hescape.word_cases with hfenced | hword | hmark <;>
      rcases hescape'.word_cases with hfenced' | hword' | hmark'
    · exact .inl ((String.append_left_inj "_").mp (hfenced.symm.trans (hsame.trans hfenced')))
    · exact absurd (hword' ▸ hsame ▸ hfenced ▸ hfence a) hb
    · rw [← hsame, hfenced, ← String.append_assoc] at hmark'
      exact absurd (hmark' ▸ hfence _) hb
    · exact absurd (hword ▸ hsame ▸ hfenced' ▸ hfence b) ha
    · exact .inl (hword.trans (hsame.trans hword'.symm))
    · exact .inr (.inl (by rw [hmark', ← hsame, ← hword]))
    · rw [hsame, hfenced', ← String.append_assoc] at hmark
      exact absurd (hmark ▸ hfence _) ha
    · exact .inr (.inr (by rw [hmark, hsame, ← hword']))
    · exact .inl (by rw [hmark, hmark', hsame])
  · rintro (rfl | hmark | hmark)
    · rw [hx, Except.ok.injEq] at hy
      rw [hy]
    · exact hmarked hescape hescape' hmark
    · exact (hmarked hescape' hescape hmark).symm

/-- Texts that do not end in underscores become the same identifier exactly if they are the same, or one is a
keyword and the other the keyword with the mark of raw identifiers in front. -/
theorem eq_iff_of_escaped (ha : a.toList.getLast? ≠ some '_') (hb : b.toList.getLast? ≠ some '_')
    (hx : escaped a = .ok x) (hy : escaped b = .ok y) :
    x = y ↔ a = b ∨ (a ∈ keywords ∧ b = "r#" ++ a) ∨ (b ∈ keywords ∧ a = "r#" ++ b) := by
  have hkeyword {a : String} {x : Identifier} (hx : Escape a x) (hraw : x = ⟨a, true⟩) :
      a ∈ keywords := by
    have hisRaw := congrArg isRaw hraw
    cases hx with
    | fenced => cases hisRaw
    | keyword hkeyword => exact hkeyword
    | marked htext => exact absurd (htext.trans (congrArg ("r#" ++ word ·) hraw)) (ne_marked a)
    | kept => cases hisRaw
  have hmarked {a b : String} {x y : Identifier} (hx : Escape a x) (hy : Escape b y)
      (hmark : b = "r#" ++ a) (hsame : x = y) : a ∈ keywords := by
    subst hmark
    exact hkeyword hx (hsame.trans hy.of_marked.1)
  have hescape := Escape.of_escaped hx
  have hescape' := Escape.of_escaped hy
  constructor
  · intro hsame
    rcases (word_eq_word_iff ha hb hx hy).mp (congrArg word hsame) with rfl | hmark | hmark
    · exact .inl rfl
    · exact .inr (.inl ⟨hmarked hescape hescape' hmark hsame, hmark⟩)
    · exact .inr (.inr ⟨hmarked hescape' hescape hmark hsame.symm, hmark⟩)
  · rintro (rfl | ⟨hword, rfl⟩ | ⟨hword, rfl⟩)
    · exact Except.ok.inj (hx.symm.trans hy)
    · rw [escaped_keyword a hword] at hx
      cases hx
      exact hescape'.of_marked.1.symm
    · rw [escaped_keyword b hword] at hy
      cases hy
      exact hescape.of_marked.1

end

/-- Where different texts become identifiers, what is read off the identifiers is different exactly if no two
texts meet. -/
theorem nodup_map_iff {S : Type} (f : Identifier → S) (meets : String → String → Prop)
    {texts : List String} {names : List Identifier}
    (hnames : List.Forall₂ (fun text name => escaped text = .ok name) texts names) (hnodup : texts.Nodup)
    (hself : ∀ text, ¬ meets text text)
    (hmeets : ∀ a ∈ texts, ∀ b ∈ texts, ∀ x y, escaped a = .ok x → escaped b = .ok y →
      (f x = f y ↔ a = b ∨ meets a b ∨ meets b a)) :
    (names.map f).Nodup ↔ ∀ a ∈ texts, ∀ b ∈ texts, ¬ meets a b := by
  have hread : texts.map (fun text => (escaped text).toOption.map f) = (names.map f).map some := by
    rw [List.map_map]
    refine Outcome.map_eq_map hnames fun text name hname => ?_
    rw [hname]
    rfl
  rw [← List.nodup_map_iff (fun _ _ => Option.some.inj), ← hread, List.nodup_map_iff_inj_on hnodup]
  constructor
  · intro hapart a ha b hb hab
    obtain ⟨x, _, hx⟩ := Outcome.exists_of_mem_left hnames ha
    obtain ⟨y, _, hy⟩ := Outcome.exists_of_mem_left hnames hb
    have hsame : f x = f y := (hmeets a ha b hb x y hx hy).mpr (.inr (.inl hab))
    have hequal : a = b := hapart a ha b hb (by rw [hx, hy]; exact congrArg some hsame)
    exact hself a (hequal ▸ hab)
  · intro hapart a ha b hb hsame
    obtain ⟨x, _, hx⟩ := Outcome.exists_of_mem_left hnames ha
    obtain ⟨y, _, hy⟩ := Outcome.exists_of_mem_left hnames hb
    rw [hx, hy] at hsame
    rcases (hmeets a ha b hb x y hx hy).mp (Option.some.inj hsame) with hequal | hab | hba
    · exact hequal
    · exact absurd hab (hapart a ha b hb)
    · exact absurd hba (hapart b hb a ha)

end Identifier

/-! ## Members of a service -/

namespace ServicePlan

/-- Whether an operation takes the name of a fixed member or of an accessor. -/
def Clashes (service : ServicePlan) : Prop :=
  ∃ operation ∈ service.operations, operation.identifier ∈ fixedMembers ∨
    ∃ locator ∈ service.locators, operation.identifier = locator.accessor

/-- The error for a service with two members of one name. -/
def clashError (service : ServicePlan) (member : String) : GenerationError :=
  .refusedCode ("Service '" ++ service.typeName ++ "' has more than one member named '" ++ member ++ "'")

/-- All texts are different and none was seen before exactly if no text repeats an earlier one. -/
theorem firstRepeated?_eq_none_iff {seen texts : List String} :
    firstRepeated? seen texts = none ↔ texts.Nodup ∧ ∀ text ∈ texts, text ∉ seen := by
  refine ⟨nodup_of_firstRepeated?, ?_⟩
  induction texts generalizing seen with
  | nil => exact fun _ => rfl
  | cons text rest ih =>
    rintro ⟨hnodup, hnew⟩
    rw [List.nodup_cons] at hnodup
    rw [List.forall_mem_cons] at hnew
    rw [firstRepeated?, if_neg (by simpa using hnew.1)]
    refine ih ⟨hnodup.2, fun other hother hseen => ?_⟩
    rcases List.mem_cons.mp hseen with rfl | hseen
    · exact hnodup.1 hother
    · exact hnew.2 other hother hseen

/-- How the members of a service are named: after parsed names, which differ among the operations and among
the locators. -/
structure NamesMembers (service : ServicePlan) : Prop where
  operationNames : (service.operations.map OperationPlan.name).Nodup
  locatorNames : (service.locators.map LocatorPlan.name).Nodup
  operations : ∀ operation ∈ service.operations,
    operation.name.IsParsed ∧ operation.identifier = operation.name.identifier
  locators : ∀ locator ∈ service.locators,
    locator.name.IsParsed ∧ locator.accessor = locator.name.accessor

namespace NamesMembers

variable {service : ServicePlan}

/-- Operations differ in their identifiers. -/
theorem identifiers_nodup (h : service.NamesMembers) :
    (service.operations.map OperationPlan.identifier).Nodup := by
  have hnodup := h.operationNames
  rw [List.Nodup, List.pairwise_map] at hnodup ⊢
  refine hnodup.imp_of_mem fun {a b} ha hb hne hsame => hne ?_
  obtain ⟨hparsed, hidentifier⟩ := h.operations a ha
  obtain ⟨hparsed', hidentifier'⟩ := h.operations b hb
  rw [hidentifier, hidentifier'] at hsame
  exact (hparsed.identifier_inj hparsed').mp hsame

/-- Locators differ in their accessors. -/
theorem accessors_nodup (h : service.NamesMembers) :
    (service.locators.map LocatorPlan.accessor).Nodup := by
  have hnodup := h.locatorNames
  rw [List.Nodup, List.pairwise_map] at hnodup ⊢
  refine hnodup.imp_of_mem fun {a b} ha hb hne hsame => hne ?_
  obtain ⟨hparsed, haccessor⟩ := h.locators a ha
  obtain ⟨hparsed', haccessor'⟩ := h.locators b hb
  rw [haccessor, haccessor'] at hsame
  exact (hparsed.accessor_inj hparsed').mp hsame

/-- No accessor takes the name of a fixed member. -/
theorem accessor_not_fixed (h : service.NamesMembers) {locator : LocatorPlan}
    (hlocator : locator ∈ service.locators) : locator.accessor ∉ fixedMembers := by
  have hfixed : ∀ member ∈ fixedMembers, "_service".toList.isSuffixOf member.toList = false := by
    decide
  intro hmem
  have hends := hfixed _ hmem
  rw [(h.locators locator hlocator).2, Name.accessor, String.toList_append, Bool.eq_false_iff] at hends
  exact hends (List.isSuffixOf_iff_suffix.mpr (List.suffix_append _ _))

/-- The members can be told apart exactly if no operation takes the name of another member. -/
theorem memberError?_eq_none_iff (h : service.NamesMembers) :
    service.memberError? = none ↔ ¬ service.Clashes := by
  rw [memberError?, Option.map_eq_none_iff, firstRepeated?_eq_none_iff, memberNames, List.nodup_append]
  constructor
  · rintro ⟨⟨_, _, happart⟩, hnew⟩ ⟨operation, hoperation, hfixed | ⟨locator, hlocator, hsame⟩⟩
    · exact hnew _ (List.mem_append_left _ (List.mem_map_of_mem hoperation)) hfixed
    · exact happart _ (List.mem_map_of_mem hoperation) _ (List.mem_map_of_mem hlocator) hsame
  · intro hclash
    refine ⟨⟨h.identifiers_nodup, h.accessors_nodup, ?_⟩, ?_⟩
    · intro a ha b hb hsame
      obtain ⟨operation, hoperation, rfl⟩ := List.mem_map.mp ha
      obtain ⟨locator, hlocator, rfl⟩ := List.mem_map.mp hb
      exact hclash ⟨operation, hoperation, .inr ⟨locator, hlocator, hsame⟩⟩
    · intro text htext hfixed
      rcases List.mem_append.mp htext with htext | htext
      · obtain ⟨operation, hoperation, rfl⟩ := List.mem_map.mp htext
        exact hclash ⟨operation, hoperation, .inl hfixed⟩
      · obtain ⟨locator, hlocator, rfl⟩ := List.mem_map.mp htext
        exact h.accessor_not_fixed hlocator hfixed

/-- No member has a name that ends in an underscore. -/
theorem getLast_member (h : service.NamesMembers) :
    ∀ member ∈ fixedMembers ++ service.memberNames, member.toList.getLast? ≠ some '_' := by
  intro member hmember
  rw [memberNames, List.mem_append, List.mem_append] at hmember
  rcases hmember with hfixed | hoperation | hlocator
  · revert member
    decide
  · obtain ⟨operation, hmem, rfl⟩ := List.mem_map.mp hoperation
    obtain ⟨hparsed, hidentifier⟩ := h.operations operation hmem
    rw [hidentifier]
    exact hparsed.getLast_identifier
  · obtain ⟨locator, hmem, rfl⟩ := List.mem_map.mp hlocator
    have hlast : "_service".toList.getLast? = some 'e' := by decide
    rw [(h.locators locator hmem).2, Name.accessor, String.toList_append, List.getLast?_append, hlast,
      Option.some_or]
    decide

end NamesMembers

end ServicePlan

/-- The members of a planned service are named after parsed names, if those of the model are parsed. -/
theorem Planned.namesMembers {model : Model} {service : Service} {bases : List Service} {made : ServicePlan}
    (h : Planned model service bases made)
    (hparsed : ∀ declaring ∈ model.services, (∀ method ∈ declaring.methods, method.name.IsParsed) ∧
      ∀ locator ∈ declaring.locators, locator.name.IsParsed) : made.NamesMembers where
  operationNames := nodup_of_increasing h.merged.operations
  locatorNames := nodup_of_increasing h.merged.locators
  operations operation hoperation := by
    obtain ⟨_, declaring, hdeclaring, method, hmethod, rfl⟩ := h.operation_declared hoperation
    exact ⟨(hparsed declaring (h.baseChain.subset hdeclaring)).1 method hmethod, rfl⟩
  locators locator hlocator := by
    obtain ⟨declaring, hdeclaring, declared, hdeclared, hplan⟩ := h.locator_declared hlocator
    obtain ⟨hname, _, haccessor, _⟩ := Locator.plan_name hplan
    rw [hname, haccessor]
    exact ⟨(hparsed declaring (h.baseChain.subset hdeclaring)).2 declared hdeclared, rfl⟩

/-! ## Emitted functions -/

/-- A method is emitted under the escaped identifier of its operation. -/
theorem MethodCode.name_of_ofPlan {operation : OperationPlan} {method : MethodCode}
    (h : MethodCode.ofPlan operation = .ok method) :
    Identifier.escaped operation.identifier = .ok method.name := by
  unfold MethodCode.ofPlan at h
  split at h
  case h_1 =>
    obtain ⟨name, hname, h⟩ := Outcome.bind_eq_ok.mp h
    cases h
    exact hname
  case h_2 =>
    obtain ⟨name, hname, h⟩ := Outcome.bind_eq_ok.mp h
    dsimp only at h
    split at h
    · cases h
      exact hname
    · obtain ⟨argument, _, h⟩ := Outcome.bind_eq_ok.mp h
      cases h
      exact hname

namespace ServiceCode

/-- The functions that are emitted as members of a service: the fixed ones, a method for each operation, and
the accessors. -/
def functionNames (code : ServiceCode) : List Identifier :=
  ServicePlan.fixedMembers.map (⟨·, false⟩) ++
    (code.methods.map MethodCode.name ++ code.accessors.map AccessorCode.name)

section

variable {service : ServicePlan} {code : ServiceCode}

/-- The functions are named by the members of the service, escaped. -/
theorem functionNames_escaped (h : EmittedFrom service code) :
    List.Forall₂ (fun text name => Identifier.escaped text = .ok name)
      (ServicePlan.fixedMembers ++ service.memberNames) code.functionNames := by
  have hfixed : List.Forall₂ (fun text name => Identifier.escaped text = .ok name)
      ServicePlan.fixedMembers (ServicePlan.fixedMembers.map (⟨·, false⟩)) :=
    List.forall₂_map_right_iff.mpr (List.forall₂_same.mpr (by decide))
  have hmethods : List.Forall₂ (fun text name => Identifier.escaped text = .ok name)
      (service.operations.map OperationPlan.identifier) (code.methods.map MethodCode.name) := by
    rw [List.forall₂_map_left_iff, List.forall₂_map_right_iff]
    exact h.methods.imp fun operation method => MethodCode.name_of_ofPlan
  have haccessors : List.Forall₂ (fun text name => Identifier.escaped text = .ok name)
      (service.locators.map LocatorPlan.accessor) (code.accessors.map AccessorCode.name) := by
    rw [List.forall₂_map_left_iff, List.forall₂_map_right_iff]
    exact h.accessors.imp fun locator accessor haccessor => (AccessorCode.ofPlan_eq_ok haccessor).1
  exact List.rel_append hfixed (List.rel_append hmethods haccessors)

/-- The members of a service whose code is made are all different, the fixed ones included. -/
theorem members_nodup (h : ofPlan service = .ok code) :
    (ServicePlan.fixedMembers ++ service.memberNames).Nodup := by
  have hmembers := (ofPlan_isOk_iff.mp ⟨code, h⟩).members
  rw [ServicePlan.memberError?, Option.map_eq_none_iff, ServicePlan.firstRepeated?_eq_none_iff] at hmembers
  refine List.nodup_append.mpr ⟨by decide, hmembers.1, fun fixed hfixed member hmember hsame => ?_⟩
  exact hmembers.2 member hmember (hsame ▸ hfixed)

/-- The mark of raw identifiers is in front of no fixed member. -/
theorem marked_not_fixed (text : String) : "r#" ++ text ∉ ServicePlan.fixedMembers := by
  have hfixed : ∀ member ∈ ServicePlan.fixedMembers, '#' ∉ member.toList := by decide
  exact fun hmem => hfixed _ hmem (Identifier.mem_marked text)

/-- Functions have different names exactly if no member is a keyword that another one spells with the mark of
raw identifiers. -/
theorem functionNames_nodup_iff (hnames : service.NamesMembers) (h : ofPlan service = .ok code) :
    code.functionNames.Nodup ↔ ∀ keyword ∈ Identifier.keywords, keyword ∈ service.memberNames →
      "r#" ++ keyword ∉ service.memberNames := by
  have hplain : ∀ member ∈ ServicePlan.fixedMembers, member ∉ Identifier.keywords := by decide
  have hmeets := Identifier.nodup_map_iff id (fun a b => a ∈ Identifier.keywords ∧ b = "r#" ++ a)
    (functionNames_escaped (EmittedFrom.of_ofPlan h)) (members_nodup h)
    (fun text hself => Identifier.ne_marked text hself.2)
    fun a ha b hb x y => Identifier.eq_iff_of_escaped (hnames.getLast_member a ha) (hnames.getLast_member b hb)
  rw [← List.map_id code.functionNames, hmeets]
  constructor
  · intro hapart keyword hkeyword hmember hmarked
    exact hapart keyword (List.mem_append_right _ hmember) _ (List.mem_append_right _ hmarked)
      ⟨hkeyword, rfl⟩
  · rintro hapart a ha b hb ⟨hkeyword, rfl⟩
    have hmarked := (List.mem_append.mp hb).resolve_left (marked_not_fixed a)
    exact hapart a hkeyword ((List.mem_append.mp ha).resolve_left fun hfixed => hplain a hfixed hkeyword)
      hmarked

/-- Functions have names of different words exactly if no member is another one with the mark of raw
identifiers in front. -/
theorem functionWords_nodup_iff (hnames : service.NamesMembers) (h : ofPlan service = .ok code) :
    (code.functionNames.map Identifier.word).Nodup ↔
      ∀ member ∈ ServicePlan.fixedMembers ++ service.memberNames, "r#" ++ member ∉ service.memberNames := by
  rw [Identifier.nodup_map_iff Identifier.word (fun a b => b = "r#" ++ a)
    (functionNames_escaped (EmittedFrom.of_ofPlan h)) (members_nodup h) Identifier.ne_marked
    fun a ha b hb x y =>
      Identifier.word_eq_word_iff (hnames.getLast_member a ha) (hnames.getLast_member b hb)]
  constructor
  · intro hapart member hmember hmarked
    exact hapart member hmember _ (List.mem_append_right _ hmarked) rfl
  · rintro hapart a ha b hb rfl
    exact hapart a ha ((List.mem_append.mp hb).resolve_left (marked_not_fixed a))

end

/-- A service is refused for its members with an error that names one of them. -/
theorem ofPlan_eq_clashError_iff {service : ServicePlan} :
    (∃ member, ofPlan service = .error (service.clashError member)) ↔ service.memberError? ≠ none := by
  constructor
  · rintro ⟨member, hmember⟩ hnone
    cases ofPlan_namedBy hnone with
    | named _ hresult =>
      rw [hresult] at hmember
      cases hmember
    | unnamed _ _ herror =>
      rw [herror] at hmember
      cases hmember
  · intro hsome
    obtain ⟨error, herror⟩ := Option.ne_none_iff_exists'.mp hsome
    have hclash := herror
    rw [ServicePlan.memberError?, Option.map_eq_some_iff] at hclash
    obtain ⟨member, _, rfl⟩ := hclash
    refine ⟨member, ?_⟩
    unfold ofPlan
    rw [herror]
    rfl

end ServiceCode

/-- Members named after parsed names are refused exactly if an operation takes the name of a fixed member or of
an accessor; emitted functions share a name exactly if a keyword stands beside its raw form. -/
theorem members_told_apart {model : Model} {plan : ClientPlan} (hplan : model.plan = .ok plan)
    (hparsed : ∀ service ∈ model.services, (∀ method ∈ service.methods, method.name.IsParsed) ∧
      ∀ locator ∈ service.locators, locator.name.IsParsed)
    {made : ServicePlan} (hmade : made ∈ plan.services) :
    ((∃ member, ServiceCode.ofPlan made = .error (made.clashError member)) ↔ made.Clashes) ∧
    ((∃ code, ServiceCode.ofPlan made = .ok code) ↔
      ¬ made.Clashes ∧ ∀ text ∈ made.identifierTexts, Identifier.spells text = true) ∧
    ∀ code, ServiceCode.ofPlan made = .ok code →
      (code.functionNames.Nodup ↔ ∀ keyword ∈ Identifier.keywords, keyword ∈ made.memberNames →
        "r#" ++ keyword ∉ made.memberNames) ∧
      ((code.functionNames.map Identifier.word).Nodup ↔
        ∀ member ∈ ServicePlan.fixedMembers ++ made.memberNames, "r#" ++ member ∉ made.memberNames) := by
  obtain ⟨service, bases, hplanned⟩ := Model.planned_of_plan hplan made hmade
  have hnames := hplanned.namesMembers hparsed
  have hclash := hnames.memberError?_eq_none_iff
  refine ⟨?_, ?_, fun code hcode => ?_⟩
  · rw [ServiceCode.ofPlan_eq_clashError_iff, ne_eq, hclash, not_not]
  · rw [ServiceCode.ofPlan_isOk_iff, ← hclash]
    exact ⟨fun hsound => ⟨hsound.members, hsound.texts⟩, fun h => ⟨h.1, h.2⟩⟩
  · exact ⟨ServiceCode.functionNames_nodup_iff hnames hcode, ServiceCode.functionWords_nodup_iff hnames hcode⟩

/-- The service that redeclares inherited locators is emitted, with functions that the language tells apart. -/
theorem redeclaringModel_told_apart : redeclaringModel.plan = .ok redeclaringPlan ∧
    ∃ code, ServiceCode.ofPlan redeclaringServicePlan = .ok code ∧
      (code.functionNames.map Identifier.word).Nodup := by
  have hitem : Name.IsParsed ⟨["item"]⟩ := ⟨"Item", by decide⟩
  have hbox : Name.IsParsed ⟨["box"]⟩ := ⟨"Box", by decide⟩
  have hparsed : ∀ service ∈ redeclaringModel.services,
      (∀ method ∈ service.methods, method.name.IsParsed) ∧
        ∀ locator ∈ service.locators, locator.name.IsParsed := by
    simp [redeclaringModel, redeclaringService, shelfService, literalLocator, wildcardLocator, hitem, hbox]
  obtain ⟨_, hemitted, hapart⟩ := members_told_apart redeclaringModel_plan hparsed
    (List.mem_cons_of_mem _ List.mem_cons_self)
  obtain ⟨code, hcode⟩ := hemitted.mpr ⟨by simp [ServicePlan.Clashes, redeclaringServicePlan],
    by decide⟩
  exact ⟨redeclaringModel_plan, code, hcode, (hapart code hcode).2.mpr (by decide)⟩

/-- A service with a method named by a keyword and one named by the same keyword as a raw identifier. -/
def twinService : Service := .declare "Root" none [.declare "move" [], .declare "r#move" []] []

/-- A model of the service with the two methods alone. -/
def twinModel : Model := .declare "Shop" "Root" [twinService]

/-- The plan of the service. -/
def twinServicePlan : ServicePlan where
  name := ⟨["root"]⟩
  typeName := "RootService"
  base := none
  doc := none
  operations := twinService.methods.map Method.plan
  locators := []
  router := ⟨[], none⟩

/-- The model is planned with its one service. -/
theorem twinModel_plan : twinModel.plan = .ok ⟨"Shop", 0, [twinServicePlan]⟩ := by
  have hoperations : mergeMembers OperationPlan.name [] (twinService.methods.map Method.plan) =
      twinServicePlan.operations :=
    sortByName_eq_of_ordered (by decide) (by decide +kernel) (by decide +kernel)
  have hservice : twinService.plan twinModel none = .ok twinServicePlan := by
    have hplan : twinService.plan twinModel none = .ok _ :=
      Service.plan_of_merged rfl hoperations List.mergeSort_nil (by decide)
    exact hplan.trans (by decide)
  have hname : (Name.parse "Shop").camelCase = "Shop" := by decide
  have hplan : twinModel.plan = .ok ⟨(Name.parse "Shop").camelCase, 0, [twinServicePlan]⟩ :=
    Model.plan_alone rfl hservice
  rwa [hname] at hplan

/-- A service of a valid model with parsed names whose texts are identifiers may be emitted with two functions
of one name. -/
theorem twinModel_repeats : twinModel.validate = .ok () ∧
    (∀ service ∈ twinModel.services, (∀ method ∈ service.methods, method.name.IsParsed) ∧
      ∀ locator ∈ service.locators, locator.name.IsParsed) ∧
    twinModel.plan = .ok ⟨"Shop", 0, [twinServicePlan]⟩ ∧
    (∀ text ∈ twinServicePlan.identifierTexts, Identifier.spells text = true) ∧
    ∃ code, ServiceCode.ofPlan twinServicePlan = .ok code ∧ ¬ code.functionNames.Nodup := by
  refine ⟨by decide, ?_, twinModel_plan, by decide +kernel, ?_⟩
  · simp [twinModel, Model.declare, twinService, Service.declare, Method.declare, Name.IsParsed]
  · have hmade : (ServiceCode.ofPlan twinServicePlan).map ServiceCode.functionNames =
        .ok [⟨"new", false⟩, ⟨"path", false⟩, ⟨"resolve", false⟩, ⟨"move", true⟩, ⟨"move", true⟩] := by
      decide
    obtain ⟨code, hcode, hnames⟩ := Outcome.map_eq_ok.mp hmade
    refine ⟨code, hcode, ?_⟩
    rw [hnames]
    decide

end ServiceTree
