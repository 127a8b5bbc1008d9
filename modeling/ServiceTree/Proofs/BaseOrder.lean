import Mathlib.Data.List.Perm.Basic
import Mathlib.Data.String.Basic
import ServiceTree.Plan.Order
import ServiceTree.Proofs.Outcome

/-!
# Services after their bases

Placing services ends in one of two ways. Either all of them are placed, each after its base, or the
ones left over all wait for names that were never placed. Which of the two happens depends only on
the services: those that can be placed are the grounded ones, whose chain of bases ends in a service
without a base. So an error names exactly the others.
-/

namespace ServiceTree

/-- A service is ready exactly if its base, where it has one, is placed. -/
theorem isReady_iff {placed : List Name} {service : Service} :
    isReady placed service = true ↔ ∀ base, service.base = some base → base ∈ placed := by
  unfold isReady
  cases service.base with
  | none => simp
  | some base => simp

/-- Each service in turn is ready after the names placed before it. -/
def BaseFirst (placed : List Name) : List Service → Prop
  | [] => True
  | service :: rest => isReady placed service = true ∧ BaseFirst (service.name :: placed) rest

/-- Every service of the list is ready after the ones in front of it. -/
theorem BaseFirst.ready_of_append {placed : List Name} {before after : List Service}
    {service : Service} (h : BaseFirst placed (before ++ service :: after)) :
    isReady ((before.map Service.name).reverse ++ placed) service = true := by
  induction before generalizing placed with
  | nil => exact h.1
  | cons first rest ih => simpa using ih h.2

/-- Placing that succeeds places every service that waited, each after its base. -/
theorem placeServices_ok {placed : List Name} {front putBack ordered : List Service}
    (h : placeServices placed front putBack = .ok ordered) :
    ordered.Perm (front ++ putBack) ∧ BaseFirst placed ordered := by
  fun_induction placeServices placed front putBack generalizing ordered with
  | case1 placed putBack hempty =>
    cases h
    rw [List.isEmpty_iff.mp hempty]
    exact ⟨List.Perm.refl _, trivial⟩
  | case2 placed putBack hempty => cases h
  | case3 placed putBack service rest hready ih =>
    obtain ⟨tail, htail, rfl⟩ := Outcome.map_eq_ok.mp h
    obtain ⟨hperm, hfirst⟩ := ih htail
    rw [List.append_nil] at hperm
    exact ⟨hperm.cons service, hready, hfirst⟩
  | case4 placed putBack service rest hready ih =>
    obtain ⟨hperm, hfirst⟩ := ih h
    refine ⟨hperm.trans ?_, hfirst⟩
    rw [← List.append_assoc]
    exact List.perm_append_singleton service (rest ++ putBack)

/-- How placing fails: some of the services are placed, and each of the others waits for a name that
is not among those placed. -/
structure PlacingStuck (placed : List Name) (waiting : List Service) (error : GenerationError)
    (ordered stuck : List Service) : Prop where
  perm : (ordered ++ stuck).Perm waiting
  baseFirst : BaseFirst placed ordered
  stuck_ne_nil : stuck ≠ []
  not_ready : ∀ service ∈ stuck,
    isReady ((ordered.map Service.name).reverse ++ placed) service = false
  error_eq : error = .unresolvableBase (sortTexts (stuck.map fun service => service.name.camelCase))

/-- Placing that fails leaves services over. The invariant of the queue is that nothing put back since
a service was last placed is ready. -/
theorem placeServices_error {placed : List Name} {front putBack : List Service}
    {error : GenerationError} (hputBack : ∀ service ∈ putBack, isReady placed service = false)
    (h : placeServices placed front putBack = .error error) :
    ∃ ordered stuck, PlacingStuck placed (front ++ putBack) error ordered stuck := by
  fun_induction placeServices placed front putBack with
  | case1 placed putBack hempty => cases h
  | case2 placed putBack hempty =>
    cases h
    refine ⟨[], putBack, List.Perm.refl _, trivial, ?_, hputBack, rfl⟩
    rintro rfl
    exact hempty rfl
  | case3 placed putBack service rest hready ih =>
    obtain ⟨ordered, stuck, hstuck⟩ := ih (by simp) (Outcome.map_eq_error.mp h)
    refine ⟨service :: ordered, stuck, ?_, ⟨hready, hstuck.baseFirst⟩, hstuck.stuck_ne_nil, ?_,
      hstuck.error_eq⟩
    · simpa using hstuck.perm.cons service
    · simpa using hstuck.not_ready
  | case4 placed putBack service rest hready ih =>
    have hready' : isReady placed service = false := by simpa using hready
    have hinvariant : ∀ other ∈ putBack ++ [service], isReady placed other = false := by
      intro other hother
      rcases List.mem_append.mp hother with hold | hnew
      · exact hputBack other hold
      · rw [List.mem_singleton.mp hnew]
        exact hready'
    obtain ⟨ordered, stuck, hstuck⟩ := ih hinvariant h
    refine ⟨ordered, stuck, hstuck.perm.trans ?_, hstuck.baseFirst, hstuck.stuck_ne_nil,
      hstuck.not_ready, hstuck.error_eq⟩
    rw [← List.append_assoc]
    exact List.perm_append_singleton service (rest ++ putBack)

/-- The services that can be placed at all: those without a base, and those whose base is the name of
a service that can be placed. -/
inductive Grounded (services : List Service) : Service → Prop
  | root {service : Service} (hmem : service ∈ services) (hbase : service.base = none) :
      Grounded services service
  | derived {service base : Service} (hmem : service ∈ services)
      (hbase : service.base = some base.name) (hgrounded : Grounded services base) :
      Grounded services service

/-- Grounded services are among the services. -/
theorem Grounded.mem {services : List Service} {service : Service}
    (h : Grounded services service) : service ∈ services := by
  cases h with
  | root hmem _ => exact hmem
  | derived hmem _ _ => exact hmem

/-- Services placed after their bases are grounded, if the names placed before are those of grounded
services. -/
theorem BaseFirst.grounded {services : List Service} {placed : List Name} {ordered : List Service}
    (h : BaseFirst placed ordered) (hsub : ordered ⊆ services)
    (hplaced : ∀ name ∈ placed, ∃ base, Grounded services base ∧ base.name = name) :
    ∀ service ∈ ordered, Grounded services service := by
  induction ordered generalizing placed with
  | nil => simp
  | cons first rest ih =>
    have hmem : first ∈ services := hsub List.mem_cons_self
    have hfirst : Grounded services first := by
      cases hbase : first.base with
      | none => exact .root hmem hbase
      | some name =>
        obtain ⟨base, hgrounded, rfl⟩ := hplaced name (isReady_iff.mp h.1 name hbase)
        exact .derived hmem hbase hgrounded
    have hrest : ∀ service ∈ rest, Grounded services service := by
      apply ih h.2 fun _ hservice => hsub (List.mem_cons_of_mem _ hservice)
      intro name hname
      rcases List.mem_cons.mp hname with rfl | hname
      · exact ⟨first, hfirst, rfl⟩
      · exact hplaced name hname
    intro service hservice
    rcases List.mem_cons.mp hservice with rfl | hservice
    · exact hfirst
    · exact hrest service hservice

/-- Services that are left over are not grounded. -/
theorem PlacingStuck.not_grounded {services ordered stuck : List Service} {error : GenerationError}
    (h : PlacingStuck [] services error ordered stuck) {service : Service}
    (hgrounded : Grounded services service) : service ∉ stuck := by
  induction hgrounded with
  | root hmem hbase =>
    intro hstuck
    have hready := h.not_ready _ hstuck
    simp [isReady, hbase] at hready
  | @derived service base hmem hbase hgrounded ih =>
    intro hstuck
    have hordered : base ∈ ordered :=
      (List.mem_append.mp (h.perm.mem_iff.mpr hgrounded.mem)).resolve_right ih
    have hready : isReady ((ordered.map Service.name).reverse ++ []) service = true := by
      rw [isReady_iff]
      intro name hname
      rw [hbase] at hname
      cases hname
      simpa using ⟨base, hordered, rfl⟩
    rw [h.not_ready _ hstuck] at hready
    cases hready

/-- Ordering that succeeds rearranges the services so that each stands after its base. -/
theorem orderServices_ok {services ordered : List Service} (h : orderServices services = .ok ordered) :
    ordered.Perm services ∧ BaseFirst [] ordered := by
  obtain ⟨hperm, hfirst⟩ := placeServices_ok h
  rw [List.append_nil] at hperm
  exact ⟨hperm.trans (List.mergeSort_perm _ _), hfirst⟩

/-- Ordering that fails leaves services over. -/
theorem orderServices_error {services : List Service} {error : GenerationError}
    (h : orderServices services = .error error) :
    ∃ ordered stuck, PlacingStuck [] services error ordered stuck := by
  obtain ⟨ordered, stuck, hstuck⟩ := placeServices_error (by simp) h
  refine ⟨ordered, stuck, ?_, hstuck.baseFirst, hstuck.stuck_ne_nil, hstuck.not_ready,
    hstuck.error_eq⟩
  have hperm := hstuck.perm
  rw [List.append_nil] at hperm
  exact hperm.trans (List.mergeSort_perm _ _)

/-- Services can be ordered exactly if all of them are grounded. -/
theorem orderServices_isOk_iff {services : List Service} :
    (∃ ordered, orderServices services = .ok ordered) ↔
      ∀ service ∈ services, Grounded services service := by
  constructor
  · rintro ⟨ordered, h⟩
    obtain ⟨hperm, hfirst⟩ := orderServices_ok h
    intro service hservice
    exact hfirst.grounded hperm.subset (by simp) service (hperm.mem_iff.mpr hservice)
  · intro hgrounded
    cases h : orderServices services with
    | ok ordered => exact ⟨ordered, rfl⟩
    | error error =>
      obtain ⟨ordered, stuck, hstuck⟩ := orderServices_error h
      obtain ⟨service, hservice⟩ := List.exists_mem_of_ne_nil stuck hstuck.stuck_ne_nil
      have hmem : service ∈ services :=
        hstuck.perm.mem_iff.mp (List.mem_append_right ordered hservice)
      exact absurd hservice (hstuck.not_grounded (hgrounded service hmem))

/-- Sorted texts stand in the order of their code points. -/
theorem sortTexts_ordered (texts : List String) : (sortTexts texts).Pairwise (· ≤ ·) := by
  have hsorted : (sortTexts texts).Pairwise fun a b => decide (¬ b < a) = true := by
    apply List.pairwise_mergeSort
    · intro a b c hab hbc
      rw [decide_eq_true_eq, not_lt] at hab hbc ⊢
      exact hab.trans hbc
    · intro a b
      simp only [Bool.or_eq_true, decide_eq_true_eq, not_lt]
      exact le_total a b
  exact hsorted.imp fun h => not_lt.mp (of_decide_eq_true h)

/-- Services placed after their bases have their bases in front of them. -/
theorem BaseFirst.base_before {before after : List Service} {service : Service} {base : Name}
    (h : BaseFirst [] (before ++ service :: after)) (hbase : service.base = some base) :
    ∃ earlier ∈ before, earlier.name = base := by
  have hready := isReady_iff.mp h.ready_of_append base hbase
  rw [List.append_nil, List.mem_reverse] at hready
  exact List.mem_map.mp hready

open scoped Classical in
/-- The services that are left over are those that are not grounded, however often each of them
occurs. -/
theorem PlacingStuck.stuck_perm {services ordered stuck : List Service} {error : GenerationError}
    (h : PlacingStuck [] services error ordered stuck) :
    stuck.Perm (services.filter fun service => ¬ Grounded services service) := by
  have hsub : ordered ⊆ services := fun _ hmem => h.perm.subset (List.mem_append_left _ hmem)
  have hplaced : ordered.filter (fun service => ¬ Grounded services service) = [] := by
    rw [List.filter_eq_nil_iff]
    intro service hmem
    simpa using h.baseFirst.grounded hsub (by simp) service hmem
  have hstuck : stuck.filter (fun service => ¬ Grounded services service) = stuck := by
    rw [List.filter_eq_self]
    intro service hmem
    simpa using fun hgrounded => h.not_grounded hgrounded hmem
  have hfiltered := h.perm.filter fun service => ¬ Grounded services service
  rwa [List.filter_append, hplaced, hstuck, List.nil_append] at hfiltered

open scoped Classical in
/-- Ordering places all services, bases in front, exactly if all of them are grounded, and otherwise reports in
order the names of those that are not. -/
theorem orderServices_complete (services : List Service) :
    ((∃ ordered, orderServices services = .ok ordered) ↔
      ∀ service ∈ services, Grounded services service) ∧
    (∀ ordered, orderServices services = .ok ordered → ordered.Perm services ∧
      ∀ before service after, ordered = before ++ service :: after →
        ∀ base, service.base = some base → ∃ earlier ∈ before, earlier.name = base) ∧
    ∀ error, orderServices services = .error error → ∃ names, error = .unresolvableBase names ∧
      names.Pairwise (· ≤ ·) ∧
      names.Perm ((services.filter fun service => ¬ Grounded services service).map
        fun service => service.name.camelCase) := by
  refine ⟨orderServices_isOk_iff, ?_, ?_⟩
  · intro ordered h
    obtain ⟨hperm, hfirst⟩ := orderServices_ok h
    refine ⟨hperm, ?_⟩
    rintro before service after rfl base hbase
    exact hfirst.base_before hbase
  · intro error h
    obtain ⟨ordered, stuck, hstuck⟩ := orderServices_error h
    refine ⟨_, hstuck.error_eq, sortTexts_ordered _, ?_⟩
    exact (List.mergeSort_perm _ _).trans (hstuck.stuck_perm.map _)

end ServiceTree
