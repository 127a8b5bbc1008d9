import Mathlib.Data.List.Nodup
import ServiceTree.Model.Validation
import ServiceTree.Proofs.Inheritance

/-!
# Valid models

Validation succeeds exactly on the models that keep its rules, stated here one by one. In a valid
model every service is grounded, so that services can be put in order. Where services have different
names, a chain of bases meets none of them twice, so that the bounded walk along the bases of a service
is its whole chain.
-/

namespace ServiceTree

namespace Model

/-- No name repeats an earlier one exactly if all names are different and none was seen before. -/
theorem repeatedName?_eq_none_iff {seen names : List Name} :
    repeatedName? seen names = none ↔ names.Nodup ∧ ∀ name ∈ names, name ∉ seen := by
  induction names generalizing seen with
  | nil => simp [repeatedName?]
  | cons name rest ih =>
    rw [repeatedName?, List.nodup_cons]
    split
    case isTrue hseen =>
      have hmem : name ∈ seen := by simpa using hseen
      simp [hmem]
    case isFalse hseen =>
      have hfresh : name ∉ seen := by simpa using hseen
      rw [ih]
      constructor
      · rintro ⟨hrest, hnew⟩
        refine ⟨⟨fun hmem => hnew name hmem List.mem_cons_self, hrest⟩, ?_⟩
        intro other hother
        rcases List.mem_cons.mp hother with rfl | hother
        · exact hfresh
        · exact fun hmem => hnew other hother (List.mem_cons_of_mem _ hmem)
      · rintro ⟨⟨hname, hrest⟩, hnew⟩
        refine ⟨hrest, ?_⟩
        intro other hother hmem
        rcases List.mem_cons.mp hmem with rfl | hmem
        · exact hname hother
        · exact hnew other (List.mem_cons_of_mem _ hother) hmem

/-- A name is declared exactly if some service has it. -/
theorem declares_iff {model : Model} {name : Name} :
    model.declares name = true ↔ ∃ service ∈ model.services, service.name = name := by
  simp [declares]

/-- The rules for models, each as a property of its own. -/
structure Valid (model : Model) : Prop where
  names : (model.services.map Service.name).Nodup
  root : ∃ service ∈ model.services, service.name = model.root
  bases : ∀ service ∈ model.services, ∀ base, service.base = some base →
    ∃ other ∈ model.services, other.name = base
  targets : ∀ service ∈ model.services, ∀ locator ∈ service.locators,
    ∃ target ∈ model.services, target.name = locator.service
  ends : ∀ service ∈ model.services, model.endsWithin model.services.length service.name = true
  visible : ∀ service ∈ model.services,
    ((model.visibleLocators service).filter Locator.isParameterized).length ≤ 1

/-- A service refers to nothing undeclared exactly if its base and all its targets are declared. -/
theorem referenceError?_eq_none_iff {model : Model} {service : Service} :
    model.referenceError? service = none ↔
      (∀ base, service.base = some base → ∃ other ∈ model.services, other.name = base) ∧
        ∀ locator ∈ service.locators,
          ∃ target ∈ model.services, target.name = locator.service := by
  rw [referenceError?, Option.or_eq_none_iff]
  apply and_congr
  · unfold baseError?
    cases service.base with
    | none => simp
    | some base => simp [declares_iff]
  · rw [targetError?, Option.map_eq_none_iff, List.find?_eq_none]
    simp [declares_iff]

/-- The rules for models that look at one declaration at a time. -/
structure Declared (model : Model) : Prop where
  names : (model.services.map Service.name).Nodup
  root : ∃ service ∈ model.services, service.name = model.root
  bases : ∀ service ∈ model.services, ∀ base, service.base = some base →
    ∃ other ∈ model.services, other.name = base
  targets : ∀ service ∈ model.services, ∀ locator ∈ service.locators,
    ∃ target ∈ model.services, target.name = locator.service

/-- The first rule that the model breaks among those for which no bases are followed. -/
def declarationError? (model : Model) : Option ModelError :=
  match repeatedName? [] (model.services.map Service.name) with
  | some name => some (.duplicateService name.camelCase)
  | none =>
    if !model.declares model.root then some (.unknownRoot model.root.camelCase)
    else model.services.findSome? model.referenceError?

/-- Declarations are checked before any bases are followed. -/
theorem error?_eq (model : Model) : model.error? = model.declarationError?.or
    ((model.services.findSome? model.cycleError?).or
      (model.services.findSome? model.parameterError?)) := by
  rw [error?, declarationError?]
  cases repeatedName? [] (model.services.map Service.name) with
  | some name => rfl
  | none =>
    dsimp only
    split <;> rfl

/-- No declaration is wrong exactly if the model keeps the rules for them. -/
theorem declarationError?_eq_none_iff {model : Model} :
    model.declarationError? = none ↔ model.Declared := by
  rw [declarationError?]
  cases hrepeated : repeatedName? [] (model.services.map Service.name) with
  | some name =>
    simp only [reduceCtorEq, false_iff]
    intro hdeclared
    rw [repeatedName?_eq_none_iff.mpr ⟨hdeclared.names, by simp⟩] at hrepeated
    cases hrepeated
  | none =>
    have hnames := (repeatedName?_eq_none_iff.mp hrepeated).1
    by_cases hroot : model.declares model.root = true
    · simp only [hroot, Bool.not_true, Bool.false_eq_true, if_false, List.findSome?_eq_none_iff,
        referenceError?_eq_none_iff]
      constructor
      · intro hreferences
        exact ⟨hnames, declares_iff.mp hroot, fun service h => (hreferences service h).1,
          fun service h => (hreferences service h).2⟩
      · intro hdeclared
        exact fun service h => ⟨hdeclared.bases service h, hdeclared.targets service h⟩
    · simp only [hroot, Bool.not_false, if_true, reduceCtorEq, false_iff]
      intro hdeclared
      exact hroot (declares_iff.mpr hdeclared.root)

/-- Nothing is wrong with the bases of a service exactly if following them ends. -/
theorem cycleError?_eq_none_iff {model : Model} {service : Service} :
    model.cycleError? service = none ↔
      model.endsWithin model.services.length service.name = true := by
  unfold cycleError?
  split <;> simp_all

/-- Nothing is wrong with the locators visible from a service exactly if at most one takes an argument. -/
theorem parameterError?_eq_none_iff {model : Model} {service : Service} :
    model.parameterError? service = none ↔
      ((model.visibleLocators service).filter Locator.isParameterized).length ≤ 1 := by
  simp only [parameterError?]
  split <;> simp_all

/-- A model fails validation with the first rule that it breaks. -/
theorem validate_eq_error_iff {model : Model} {error : ModelError} :
    model.validate = .error error ↔ model.error? = some error := by
  unfold validate
  cases model.error? <;> simp

/-- A model passes validation exactly if it breaks no rule. -/
theorem validate_eq_ok_iff_error? {model : Model} :
    model.validate = .ok () ↔ model.error? = none := by
  unfold validate
  cases model.error? <;> simp

/-- A model passes validation exactly if it keeps all the rules. -/
theorem validate_eq_ok_iff {model : Model} : model.validate = .ok () ↔ model.Valid := by
  rw [validate_eq_ok_iff_error?, error?_eq]
  simp only [Option.or_eq_none_iff, declarationError?_eq_none_iff, List.findSome?_eq_none_iff,
    cycleError?_eq_none_iff, parameterError?_eq_none_iff]
  constructor
  · rintro ⟨hdeclared, hends, hfew⟩
    exact ⟨hdeclared.names, hdeclared.root, hdeclared.bases, hdeclared.targets, hends, hfew⟩
  · intro hvalid
    exact ⟨⟨hvalid.names, hvalid.root, hvalid.bases, hvalid.targets⟩, hvalid.ends, hvalid.visible⟩

variable {model : Model}

/-- In a model of different names a declared service is found by its name. -/
theorem find?_of_mem (hnames : (model.services.map Service.name).Nodup) {service : Service}
    (hmem : service ∈ model.services) : model.find? service.name = some service :=
  (find?_eq_some_iff_mem hnames service.name service).mpr ⟨hmem, rfl⟩

/-- In a model of different names the base of a service is the base of its name. -/
theorem base?_of_mem (hnames : (model.services.map Service.name).Nodup) {service : Service}
    (hmem : service ∈ model.services) : model.base? service.name = service.base := by
  rw [base?, find?_of_mem hnames hmem]
  rfl

/-- Following bases from a service ends at once if it has none. -/
theorem endsWithin_of_mem (hnames : (model.services.map Service.name).Nodup) {service : Service}
    (hmem : service ∈ model.services) (links : Nat) :
    model.endsWithin links service.name = true ↔
      ∀ base, service.base = some base →
        ∃ fewer, links = fewer + 1 ∧ model.endsWithin fewer base = true := by
  rw [← base?_of_mem hnames hmem]
  cases hbase : model.base? service.name with
  | none => cases links <;> simp [endsWithin, hbase]
  | some base => cases links <;> simp [endsWithin, hbase]

/-- A service whose bases are declared and come to an end is grounded. -/
theorem grounded_of_endsWithin (hnames : (model.services.map Service.name).Nodup)
    (hbases : ∀ service ∈ model.services, ∀ base, service.base = some base →
      ∃ other ∈ model.services, other.name = base)
    {links : Nat} {service : Service} (hmem : service ∈ model.services)
    (hends : model.endsWithin links service.name = true) : Grounded model.services service := by
  induction links generalizing service with
  | zero =>
    cases hbase : service.base with
    | none => exact .root hmem hbase
    | some name =>
      obtain ⟨fewer, hlinks, _⟩ := (endsWithin_of_mem hnames hmem 0).mp hends name hbase
      cases hlinks
  | succ links ih =>
    cases hbase : service.base with
    | none => exact .root hmem hbase
    | some name =>
      obtain ⟨fewer, hlinks, hfewer⟩ :=
        (endsWithin_of_mem hnames hmem (links + 1)).mp hends name hbase
      cases hlinks
      obtain ⟨base, hdeclared, rfl⟩ := hbases service hmem name hbase
      exact .derived hmem hbase (ih hdeclared hfewer)

end Model

namespace BaseChain

variable {model : Model} {service : Service} {bases : List Service}

/-- A chain of bases begins at a declared service. -/
theorem mem (h : BaseChain model service bases) : service ∈ model.services :=
  h.subset List.mem_cons_self

/-- In a model of different names only one chain of bases begins at a service. -/
theorem unique (hnames : (model.services.map Service.name).Nodup) (h : BaseChain model service bases)
    {others : List Service} (hothers : BaseChain model service others) : others = bases := by
  induction h generalizing others with
  | root _ hbase =>
    cases hothers with
    | root _ _ => rfl
    | derived _ hother _ => rw [hbase] at hother; cases hother
  | @derived service base bases _ hbase hchain ih =>
    cases hothers with
    | root _ hother => rw [hbase] at hother; cases hother
    | @derived _ other _ _ hother hotherChain =>
      have hname : other.name = base.name := Option.some.inj (hother.symm.trans hbase)
      obtain rfl : other = base :=
        List.inj_on_of_nodup_map hnames hotherChain.mem hchain.mem hname
      rw [ih hotherChain]

/-- From every base the rest of the chain goes on. -/
theorem of_mem_bases (h : BaseChain model service bases) {base : Service} (hmem : base ∈ bases) :
    ∃ rest, BaseChain model base rest ∧ rest.length < bases.length := by
  induction h with
  | root _ _ => cases hmem
  | @derived service next bases _ _ hchain ih =>
    rcases List.mem_cons.mp hmem with rfl | hmem
    · exact ⟨bases, hchain, Nat.lt_succ_self _⟩
    · obtain ⟨rest, hrest, hshorter⟩ := ih hmem
      exact ⟨rest, hrest, Nat.lt_succ_of_lt hshorter⟩

/-- In a model of different names no chain of bases meets a service twice. -/
theorem nodup (hnames : (model.services.map Service.name).Nodup) (h : BaseChain model service bases) :
    (service :: bases).Nodup := by
  induction h with
  | root _ _ => exact List.nodup_singleton _
  | @derived service base bases hmem hbase hchain ih =>
    refine List.nodup_cons.mpr ⟨fun hagain => ?_, ih⟩
    -- the rest of the chain from where the service is met again is its whole chain, but shorter
    have hwhole : BaseChain model service (base :: bases) := .derived hmem hbase hchain
    obtain ⟨rest, hrest, hshorter⟩ := hwhole.of_mem_bases hagain
    rw [hwhole.unique hnames hrest] at hshorter
    exact lt_irrefl _ hshorter

/-- In a model of different names a chain has fewer bases than there are services. -/
theorem length_lt (hnames : (model.services.map Service.name).Nodup)
    (h : BaseChain model service bases) : bases.length < model.services.length :=
  (List.subperm_of_subset (h.nodup hnames) h.subset).length_le

/-- Following bases along a chain ends within its length. -/
theorem endsWithin (hnames : (model.services.map Service.name).Nodup)
    (h : BaseChain model service bases) {links : Nat} (hlength : bases.length ≤ links) :
    model.endsWithin links service.name = true := by
  induction h generalizing links with
  | root hmem hbase =>
    refine (Model.endsWithin_of_mem hnames hmem links).mpr fun base hother => ?_
    rw [hbase] at hother
    cases hother
  | @derived service base bases hmem hbase _ ih =>
    obtain ⟨fewer, rfl⟩ := Nat.exists_eq_add_of_le' (Nat.one_le_of_lt hlength)
    refine (Model.endsWithin_of_mem hnames hmem _).mpr fun other hother => ⟨fewer, rfl, ?_⟩
    obtain rfl : base.name = other := Option.some.inj (hbase.symm.trans hother)
    exact ih (Nat.le_of_succ_le_succ hlength)

/-- A walk of enough links along the bases of a service is its chain. -/
theorem chain_eq (hnames : (model.services.map Service.name).Nodup)
    (h : BaseChain model service bases) {links : Nat} (hlength : bases.length ≤ links) :
    model.chain links service = service :: bases := by
  induction h generalizing links with
  | root _ hbase =>
    cases links with
    | zero => rfl
    | succ links => simp [Model.chain, hbase]
  | derived _ hbase hchain ih =>
    cases links with
    | zero => cases hlength
    | succ links =>
      simp only [Model.chain, hbase, Option.bind_some, Model.find?_of_mem hnames hchain.mem]
      rw [ih (Nat.le_of_succ_le_succ hlength)]

/-- In a model of different names the walk that validation takes from a service is its whole chain of
bases. -/
theorem walk_eq (hnames : (model.services.map Service.name).Nodup)
    (h : BaseChain model service bases) :
    model.chain model.services.length service = service :: bases :=
  h.chain_eq hnames (h.length_lt hnames).le

end BaseChain

/-- A chain of bases begins at every grounded service. -/
theorem Grounded.exists_baseChain {model : Model} {service : Service}
    (h : Grounded model.services service) : ∃ bases, BaseChain model service bases := by
  induction h with
  | root hmem hbase => exact ⟨[], .root hmem hbase⟩
  | derived hmem hbase _ ih =>
    obtain ⟨bases, hchain⟩ := ih
    exact ⟨_ :: bases, .derived hmem hbase hchain⟩

namespace Model.Valid

variable {model : Model}

/-- In a valid model every service is grounded. -/
theorem grounded (h : model.Valid) : ∀ service ∈ model.services, Grounded model.services service :=
  fun service hmem => grounded_of_endsWithin h.names h.bases hmem (h.ends service hmem)

/-- In a valid model a chain of bases begins at every service. -/
theorem exists_baseChain (h : model.Valid) {service : Service} (hmem : service ∈ model.services) :
    ∃ bases, BaseChain model service bases :=
  (h.grounded service hmem).exists_baseChain

end Model.Valid

end ServiceTree
