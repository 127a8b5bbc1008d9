import Mathlib.Logic.Relation
import ServiceTree.Proofs.PlannableModels

/-!
# Cycles of bases

Following the bases of a service comes to an end, or it leads into a cycle of services each of which
extends the next. Validation follows the bases of each service in turn and remembers the names that it
leaves behind. This ends for every model, since a name is left behind once only and there are finitely
many, and it comes back to a name exactly if there is a cycle ahead. What is reported is the service
from which validation set out: the first one declared whose bases lead into a cycle, which need not lie
on the cycle itself.
-/

namespace ServiceTree

namespace Model

/-- A declared service extends another one. -/
def BaseLink (model : Model) (service base : Service) : Prop :=
  service ∈ model.services ∧ base ∈ model.services ∧ service.base = some base.name

/-- Following bases from a service leads back to it. -/
def OnCycle (model : Model) (service : Service) : Prop :=
  Relation.TransGen model.BaseLink service service

/-- Following bases from a service leads to one that lies on a cycle. -/
def LeadsIntoCycle (model : Model) (service : Service) : Prop :=
  ∃ member, Relation.ReflTransGen model.BaseLink service member ∧ model.OnCycle member

variable {model : Model}

/-- In a model of different names a service extends one other service at most. -/
theorem BaseLink.unique (hnames : (model.services.map Service.name).Nodup) {service base other : Service}
    (h : model.BaseLink service base) (hother : model.BaseLink service other) : other = base := by
  have hname : other.name = base.name := Option.some.inj (hother.2.2.symm.trans h.2.2)
  exact List.inj_on_of_nodup_map hnames hother.2.1 h.2.1 hname

/-- A service on a cycle leads into one. -/
theorem OnCycle.leadsIntoCycle {service : Service} (h : model.OnCycle service) :
    model.LeadsIntoCycle service :=
  ⟨service, .refl, h⟩

/-- A service leads into every cycle that its base leads into. -/
theorem LeadsIntoCycle.of_link {service base : Service} (hlink : model.BaseLink service base)
    (h : model.LeadsIntoCycle base) : model.LeadsIntoCycle service := by
  obtain ⟨member, hreached, hcycle⟩ := h
  exact ⟨member, .head hlink hreached, hcycle⟩

end Model

namespace BaseChain

variable {model : Model} {service : Service} {bases : List Service}

/-- Whatever is reached from a service by following bases is in its chain. -/
theorem mem_of_transGen (hnames : (model.services.map Service.name).Nodup)
    (h : BaseChain model service bases) {other : Service}
    (hreached : Relation.TransGen model.BaseLink service other) : other ∈ bases := by
  induction h with
  | root _ hbase =>
    obtain ⟨next, ⟨_, _, hnext⟩, _⟩ := Relation.TransGen.head'_iff.mp hreached
    rw [hbase] at hnext
    cases hnext
  | @derived service base bases hmem hbase hchain ih =>
    have hlink : model.BaseLink service base := ⟨hmem, hchain.mem, hbase⟩
    obtain ⟨next, hnext, hrest⟩ := Relation.TransGen.head'_iff.mp hreached
    obtain rfl : next = base := hlink.unique hnames hnext
    rcases Relation.reflTransGen_iff_eq_or_transGen.mp hrest with rfl | hrest
    · exact List.mem_cons_self
    · exact List.mem_cons_of_mem _ (ih hrest)

/-- A service whose chain of bases ends is on no cycle. -/
theorem not_onCycle (hnames : (model.services.map Service.name).Nodup)
    (h : BaseChain model service bases) : ¬ model.OnCycle service :=
  fun hcycle => (List.nodup_cons.mp (h.nodup hnames)).1 (h.mem_of_transGen hnames hcycle)

/-- A service whose chain of bases ends leads into no cycle. -/
theorem not_leadsIntoCycle (hnames : (model.services.map Service.name).Nodup)
    (h : BaseChain model service bases) : ¬ model.LeadsIntoCycle service := by
  rintro ⟨member, hreached, hcycle⟩
  rcases Relation.reflTransGen_iff_eq_or_transGen.mp hreached with rfl | hreached
  · exact h.not_onCycle hnames hcycle
  · obtain ⟨rest, hrest, _⟩ := h.of_mem_bases (h.mem_of_transGen hnames hreached)
    exact hrest.not_onCycle hnames hcycle

end BaseChain

/-! ## The search for a cycle -/

/-- Following bases from a name while the names left behind are remembered: whether this comes to an
end, or else back to one of them. -/
inductive CycleSearch (model : Model) : List Name → Name → Bool → Prop
  | ends {visited : List Name} {name : Name} (hbase : model.base? name = none) :
      CycleSearch model visited name true
  | repeats {visited : List Name} {name base : Name} (hbase : model.base? name = some base)
      (hvisited : name ∈ visited) : CycleSearch model visited name false
  | follows {visited : List Name} {name base : Name} {outcome : Bool}
      (hbase : model.base? name = some base) (hfresh : name ∉ visited)
      (hrest : CycleSearch model (name :: visited) base outcome) :
      CycleSearch model visited name outcome

namespace Model

variable {model : Model}

/-- The base of a name is that of a declared service. -/
theorem exists_of_base? {name base : Name} (h : model.base? name = some base) :
    ∃ service ∈ model.services, service.name = name ∧ service.base = some base := by
  obtain ⟨service, hfound, hbase⟩ := Option.bind_eq_some_iff.mp h
  exact ⟨service, List.mem_of_find?_eq_some hfound, by simpa using List.find?_some hfound, hbase⟩

/-- The search for a cycle ends for every model, from every name: each step leaves behind another of the
declared names. -/
theorem exists_cycleSearch (model : Model) (visited : List Name) (name : Name) :
    ∃ outcome, CycleSearch model visited name outcome := by
  generalize hleft : ((model.services.map Service.name).filter (· ∉ visited)).length = left
  induction left using Nat.strong_induction_on generalizing visited name with
  | h left ih =>
    cases hbase : model.base? name with
    | none => exact ⟨true, .ends hbase⟩
    | some base =>
      by_cases hvisited : name ∈ visited
      · exact ⟨false, .repeats hbase hvisited⟩
      · have hfewer : ((model.services.map Service.name).filter (· ∉ name :: visited)).length < left := by
          obtain ⟨service, hmem, hname, _⟩ := exists_of_base? hbase
          have hsplit : (model.services.map Service.name).filter (· ∉ name :: visited) =
              ((model.services.map Service.name).filter (· ∉ visited)).filter (· ≠ name) := by
            rw [List.filter_filter]
            congr 1
            funext other
            simp [List.mem_cons, not_or]
          rw [hsplit, ← hleft, List.length_filter_lt_length_iff_exists]
          refine ⟨name, List.mem_filter.mpr ⟨List.mem_map.mpr ⟨service, hmem, hname⟩, ?_⟩, ?_⟩
          · simpa using hvisited
          · simp
        obtain ⟨outcome, hrest⟩ := ih _ hfewer (name :: visited) base rfl
        exact ⟨outcome, .follows hbase hvisited hrest⟩

end Model

section Declared

variable {model : Model} (hdeclared : model.Declared)

include hdeclared

/-- The base that a name has in a model whose declarations are right belongs to a linked service. -/
theorem Model.Declared.exists_link {service : Service} (hmem : service ∈ model.services) {base : Name}
    (hbase : model.base? service.name = some base) :
    ∃ other, other.name = base ∧ model.BaseLink service other := by
  rw [Model.base?_of_mem hdeclared.names hmem] at hbase
  obtain ⟨other, hother, rfl⟩ := hdeclared.bases service hmem base hbase
  exact ⟨other, rfl, hmem, hother, hbase⟩

/-- A search that comes back to a name has met a cycle. The invariant is that following bases leads from
every service left behind to the one that is reached. -/
theorem CycleSearch.leadsIntoCycle {visited : List Name} {service : Service}
    (hmem : service ∈ model.services)
    (hbehind : ∀ other ∈ model.services, other.name ∈ visited →
      Relation.TransGen model.BaseLink other service)
    (h : CycleSearch model visited service.name false) : model.LeadsIntoCycle service := by
  generalize hname : service.name = name at h
  generalize houtcome : false = outcome at h
  induction h generalizing service with
  | ends => cases houtcome
  | repeats _ hvisited =>
    have hcycle : model.OnCycle service := hbehind service hmem (hname ▸ hvisited)
    exact hcycle.leadsIntoCycle
  | @follows visited name base outcome hbase _ _ ih =>
    subst hname
    obtain ⟨other, hother, hlink⟩ := hdeclared.exists_link hmem hbase
    refine (ih hlink.2.1 ?_ hother houtcome).of_link hlink
    intro earlier hearlier hvisited
    rcases List.mem_cons.mp hvisited with hsame | hvisited
    · obtain rfl : earlier = service := List.inj_on_of_nodup_map hdeclared.names hearlier hmem hsame
      exact .single hlink
    · exact .tail (hbehind earlier hearlier hvisited) hlink

/-- A search that comes to an end has followed the whole chain of bases. -/
theorem CycleSearch.exists_baseChain {visited : List Name} {service : Service}
    (hmem : service ∈ model.services) (h : CycleSearch model visited service.name true) :
    ∃ bases, BaseChain model service bases := by
  generalize hname : service.name = name at h
  generalize houtcome : true = outcome at h
  induction h generalizing service with
  | ends hbase =>
    subst hname
    exact ⟨[], .root hmem ((Model.base?_of_mem hdeclared.names hmem).symm.trans hbase)⟩
  | repeats => cases houtcome
  | follows hbase _ _ ih =>
    subst hname
    obtain ⟨other, hother, hlink⟩ := hdeclared.exists_link hmem hbase
    obtain ⟨bases, hchain⟩ := ih hlink.2.1 hother houtcome
    exact ⟨other :: bases, .derived hmem hlink.2.2 hchain⟩

/-- The chain of bases of a service ends exactly if it leads into no cycle. -/
theorem Model.Declared.exists_baseChain_iff {service : Service} (hmem : service ∈ model.services) :
    (∃ bases, BaseChain model service bases) ↔ ¬ model.LeadsIntoCycle service := by
  constructor
  · rintro ⟨bases, hchain⟩
    exact hchain.not_leadsIntoCycle hdeclared.names
  · intro hno
    obtain ⟨outcome, hsearch⟩ := model.exists_cycleSearch [] service.name
    cases outcome with
    | true => exact hsearch.exists_baseChain hdeclared hmem
    | false => exact absurd (hsearch.leadsIntoCycle hdeclared hmem (by simp)) hno

/-- Following bases from a service ends within as many links as there are services exactly if it leads
into no cycle. -/
theorem Model.Declared.endsWithin_iff {service : Service} (hmem : service ∈ model.services) :
    model.endsWithin model.services.length service.name = true ↔ ¬ model.LeadsIntoCycle service := by
  rw [← hdeclared.exists_baseChain_iff hmem]
  constructor
  · intro hends
    exact (grounded_of_endsWithin hdeclared.names hdeclared.bases hmem hends).exists_baseChain
  · rintro ⟨bases, hchain⟩
    exact hchain.endsWithin hdeclared.names (hchain.length_lt hdeclared.names).le

/-- The bound on the links stands for the names that are remembered. -/
theorem Model.Declared.cycleSearch_iff {service : Service} (hmem : service ∈ model.services)
    {outcome : Bool} : CycleSearch model [] service.name outcome ↔
      model.endsWithin model.services.length service.name = outcome := by
  have hends (found : Bool) (h : CycleSearch model [] service.name found) :
      model.endsWithin model.services.length service.name = found := by
    cases found with
    | true =>
      rw [hdeclared.endsWithin_iff hmem, ← hdeclared.exists_baseChain_iff hmem]
      exact h.exists_baseChain hdeclared hmem
    | false =>
      rw [← Bool.not_eq_true, hdeclared.endsWithin_iff hmem, not_not]
      exact h.leadsIntoCycle hdeclared hmem (by simp)
  constructor
  · exact hends outcome
  · rintro rfl
    obtain ⟨found, hsearch⟩ := model.exists_cycleSearch [] service.name
    rwa [hends found hsearch]

end Declared

/-! ## The service that is reported -/

namespace Model

variable {model : Model}

/-- The first service declared whose bases lead into a cycle. -/
def FirstIntoCycle (model : Model) (service : Service) : Prop :=
  ∃ before after, model.services = before ++ service :: after ∧
    (∀ earlier ∈ before, ¬ model.LeadsIntoCycle earlier) ∧ model.LeadsIntoCycle service

/-- Every service that leads into a cycle from outside is declared behind one that lies on a cycle. -/
def CyclesFirst (model : Model) : Prop :=
  ∀ before service after, model.services = before ++ service :: after →
    model.LeadsIntoCycle service → ¬ model.OnCycle service → ∃ earlier ∈ before, model.OnCycle earlier

/-- The first service that leads into a cycle lies on one exactly if none that leads there from outside is
declared in front of all cycles. -/
theorem FirstIntoCycle.onCycle_iff {first : Service} (h : model.FirstIntoCycle first) :
    model.OnCycle first ↔ model.CyclesFirst := by
  obtain ⟨before, after, hservices, hbefore, hleads⟩ := h
  constructor
  · intro hcycle front service back hsplit hservice houtside
    refine ⟨first, ?_, hcycle⟩
    rcases List.append_eq_append_iff.mp (hservices.symm.trans hsplit) with
      ⟨between, rfl, hrest⟩ | ⟨between, rfl, hrest⟩
    · cases between with
      | nil =>
        obtain rfl : first = service := (List.cons.inj hrest).1
        exact absurd hcycle houtside
      | cons other between =>
        obtain rfl : first = other := (List.cons.inj hrest).1
        simp
    · cases between with
      | nil =>
        obtain rfl : service = first := (List.cons.inj hrest).1
        exact absurd hcycle houtside
      | cons other between =>
        obtain rfl : service = other := (List.cons.inj hrest).1
        exact absurd hservice (hbefore service (by simp))
  · intro hfirst
    by_contra houtside
    obtain ⟨earlier, hearlier, hcycle⟩ := hfirst before first after hservices hleads houtside
    exact hbefore earlier hearlier hcycle.leadsIntoCycle

/-- In a model whose declarations are right, what is wrong with its bases is wrong with the first service
that leads into a cycle. -/
theorem Declared.findSome?_cycleError? (hdeclared : model.Declared) {error : ModelError} :
    model.services.findSome? model.cycleError? = some error ↔
      ∃ service, model.FirstIntoCycle service ∧ error = .baseCycle service.name.camelCase := by
  have hnone (service : Service) (hmem : service ∈ model.services) :
      model.cycleError? service = none ↔ ¬ model.LeadsIntoCycle service :=
    cycleError?_eq_none_iff.trans (hdeclared.endsWithin_iff hmem)
  have hsome (service : Service) (hmem : service ∈ model.services) :
      model.cycleError? service = some error ↔
        model.LeadsIntoCycle service ∧ error = .baseCycle service.name.camelCase := by
    rw [cycleError?]
    by_cases hends : model.endsWithin model.services.length service.name = true
    · simp [hends, (hdeclared.endsWithin_iff hmem).mp hends]
    · simp [hends, not_not.mp (mt (hdeclared.endsWithin_iff hmem).mpr hends), eq_comm]
  rw [List.findSome?_eq_some_iff]
  constructor
  · rintro ⟨before, service, after, hservices, hfound, hbefore⟩
    obtain ⟨hleads, herror⟩ := (hsome service (by simp [hservices])).mp hfound
    refine ⟨service, ⟨before, after, hservices, fun earlier hearlier => ?_, hleads⟩, herror⟩
    exact (hnone earlier (by simp [hservices, hearlier])).mp (hbefore earlier hearlier)
  · rintro ⟨service, ⟨before, after, hservices, hbefore, hleads⟩, herror⟩
    refine ⟨before, service, after, hservices, ?_, fun earlier hearlier => ?_⟩
    · exact (hsome service (by simp [hservices])).mpr ⟨hleads, herror⟩
    · exact (hnone earlier (by simp [hservices, hearlier])).mpr (hbefore earlier hearlier)

/-- What is wrong with a declaration is no cycle. -/
theorem declarationError?_ne_baseCycle (text : String) :
    model.declarationError? ≠ some (.baseCycle text) := by
  have hreference (service : Service) : model.referenceError? service ≠ some (.baseCycle text) := by
    rw [referenceError?, baseError?, targetError?]
    cases service.base <;> simp [Option.or_eq_some_iff]
  rw [declarationError?]
  split
  · simp
  · split
    · simp
    · intro h
      obtain ⟨service, _, herror⟩ := List.exists_of_findSome?_eq_some h
      exact hreference service herror

/-- What is wrong with the locators visible from a service is no cycle. -/
theorem parameterError?_ne_baseCycle (text : String) :
    model.services.findSome? model.parameterError? ≠ some (.baseCycle text) := by
  intro h
  obtain ⟨service, _, herror⟩ := List.exists_of_findSome?_eq_some h
  simp only [parameterError?] at herror
  split at herror <;> simp at herror

end Model

/-- A cycle is reported exactly where all declarations are right and some bases lead into one, by the first
service from which they do; that service may lie outside. -/
theorem baseCycle_reported (model : Model) (text : String) :
    (model.validate = .error (.baseCycle text) ↔
      model.Declared ∧ ∃ service, model.FirstIntoCycle service ∧ service.name.camelCase = text) ∧
    ∀ service, model.FirstIntoCycle service → (model.OnCycle service ↔ model.CyclesFirst) := by
  refine ⟨?_, fun service hfirst => hfirst.onCycle_iff⟩
  rw [Model.validate_eq_error_iff, Model.error?_eq, Option.or_eq_some_iff, Option.or_eq_some_iff,
    Model.declarationError?_eq_none_iff]
  simp only [Model.declarationError?_ne_baseCycle, Model.parameterError?_ne_baseCycle, false_or,
    and_false, or_false]
  refine and_congr_right fun hdeclared => ?_
  rw [hdeclared.findSome?_cycleError?]
  simp only [ModelError.baseCycle.injEq, eq_comm]

/-- The cyclic model is reported under the name of its root, which lies on the cycle. -/
theorem cyclicModel_reported : cyclicModel.validate = .error (.baseCycle "Root") ∧
    cyclicModel.OnCycle redeclaringService := by
  have hup : cyclicModel.BaseLink redeclaringService { shelfService with base := some ⟨["root"]⟩ } := by
    simp [Model.BaseLink, cyclicModel, redeclaringService, shelfService]
  have hdown : cyclicModel.BaseLink { shelfService with base := some ⟨["root"]⟩ } redeclaringService := by
    simp [Model.BaseLink, cyclicModel, redeclaringService, shelfService]
  have hcycle : cyclicModel.OnCycle redeclaringService := .tail (.single hup) hdown
  have hfirst : cyclicModel.FirstIntoCycle redeclaringService :=
    ⟨[], _, rfl, by simp, hcycle.leadsIntoCycle⟩
  have hdeclared : cyclicModel.Declared := Model.declarationError?_eq_none_iff.mp (by decide)
  refine ⟨?_, hcycle⟩
  exact (baseCycle_reported cyclicModel "Root").1.mpr ⟨hdeclared, redeclaringService, hfirst, by decide⟩

/-- The redeclaring model with its shelf as the base of itself. -/
def leadInModel : Model where
  name := ⟨["shop"]⟩
  root := ⟨["root"]⟩
  services := [redeclaringService, { shelfService with base := some ⟨["shelf"]⟩ }]

/-- A service that is reported need not lie on a cycle: the root of the lead-in model leads to the shelf,
which is its own base, but nothing leads back to the root. -/
theorem leadInModel_misreported : ¬ ∀ (model : Model) (text : String),
    model.validate = .error (.baseCycle text) →
      ∃ service ∈ model.services, service.name.camelCase = text ∧ model.OnCycle service := by
  intro h
  obtain ⟨service, _, htext, hcycle⟩ := h leadInModel "Root" (by decide)
  -- every link of this model leads to the shelf
  have hbases : ∀ other ∈ leadInModel.services, other.base = some ⟨["shelf"]⟩ := by decide
  obtain ⟨last, _, hlast, _, hbase⟩ := Relation.TransGen.tail'_iff.mp hcycle
  have hshelf : service.name = ⟨["shelf"]⟩ :=
    (Option.some.inj ((hbases last hlast).symm.trans hbase)).symm
  rw [hshelf] at htext
  exact absurd htext (by decide)

end ServiceTree
