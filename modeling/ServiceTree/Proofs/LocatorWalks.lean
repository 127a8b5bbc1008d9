import ServiceTree.Proofs.LiteralRoutes

/-!
# Walks along locators

Following locators one after the other appends a segment to the path at every step. Where the literal
segments of each service are told apart, and no argument is one of them, every step is the one that
resolving takes along its segment: so the segments of a walk, with slashes between them, resolve to
where the walk ends.
-/

namespace ServiceTree

/-- The literal segments of a service are told apart: none is empty, none holds a slash, and no two of
them are equal. -/
structure Router.ToldApart (router : Router) : Prop where
  nonempty : ∀ edge ∈ router.literals, edge.segment ≠ ""
  unslashed : ∀ edge ∈ router.literals, '/' ∉ edge.segment.toList
  distinct : (router.literals.map RouteEdge.segment).Nodup

/-- Segments with slashes between them begin with the first one and a slash. -/
theorem toList_slashed (segment : String) {segments : List String} (hne : segments ≠ []) :
    ("/".intercalate (segment :: segments)).toList =
      segment.toList ++ '/' :: ("/".intercalate segments).toList := by
  rw [String.intercalate_cons_of_ne_nil hne, String.toList_append, String.toList_append,
    List.append_assoc]
  rfl

namespace Position

variable {position child target : Position}

/-- A locator is followed if the service has it, there is a segment for it, and it leads to a service of
the plan. -/
theorem locate_eq_ok {spelling : String} {argument : Option String} :
    position.locate spelling argument = .ok child ↔
      ∃ locator segment, position.service.locator? (.parse spelling) = some locator ∧
        locatorSegment locator argument = .ok segment ∧
        position.child? locator.target segment = some child := by
  rw [locate]
  cases position.service.locator? (.parse spelling) with
  | none => simp
  | some locator =>
    simp only [Outcome.bind_eq_ok, Option.some.injEq, exists_and_left, exists_eq_left']
    refine exists_congr fun segment => and_congr_right fun _ => ?_
    cases position.child? locator.target segment <;> simp

/-- A call that follows a locator, with the segment that it appends: the argument of one that takes any is not
empty, holds no slash and is no literal segment of the service. -/
inductive Follows (position : Position) : String → Position → Prop
  | literal {spelling : String} {locator : LocatorPlan}
      (hfound : position.service.locator? (.parse spelling) = some locator)
      (hliteral : locator.argument = none) (argument : Option String) {child : Position}
      (hlocate : position.locate spelling argument = .ok child) :
      Follows position locator.segment child
  | argument {spelling : String} {locator : LocatorPlan}
      (hfound : position.service.locator? (.parse spelling) = some locator)
      (htakes : locator.argument.isSome) {text : String} (hne : text ≠ "")
      (hslash : '/' ∉ text.toList)
      (hfree : ∀ edge ∈ position.service.router.literals, edge.segment ≠ text) {child : Position}
      (hlocate : position.locate spelling (some text) = .ok child) :
      Follows position text child

/-- Locators followed one after the other, with the segments that they append. -/
inductive Walk : Position → List String → Position → Prop
  | here (position : Position) : Walk position [] position
  | step {position child target : Position} {segment : String} {segments : List String}
      (hfollows : position.Follows segment child) (hrest : Walk child segments target) :
      Walk position (segment :: segments) target

/-- Where a segment without a slash is entered, a path that begins with it is followed from the child. -/
theorem resolveFrom_of_enter {segment : List Char} (hclear : position.service.router.ToldApart)
    (hne : segment ≠ []) (hslash : '/' ∉ segment) (henter : position.enter? segment = some child) :
    position.resolveFrom segment = .ok child ∧
      ∀ rest, position.resolveFrom (segment ++ '/' :: rest) = child.resolveFrom rest := by
  refine ⟨?_, fun rest => ?_⟩
  · rw [resolveFrom_eq hclear.unslashed hne, splitSegment_self hslash, henter]
    exact resolveFrom_nil
  · rw [resolveFrom_eq hclear.unslashed (by simp), splitSegment_append hslash, henter]

end Position

variable {model : Model} {plan : ClientPlan}

namespace Planned

variable {service : Service} {bases : List Service} {made : ServicePlan} {locator : LocatorPlan}

/-- The edge of a literal segment that no other edge has is that of its locator. -/
theorem edge?_of_literal (h : Planned model service bases made) (hclear : made.router.ToldApart)
    (hlocator : locator ∈ made.locators) (hliteral : locator.argument = none) :
    made.router.edge? locator.segment.toList = some locator.edge := by
  have hedge : locator.edge ∈ made.router.literals :=
    h.literal_iff.mpr ⟨locator, hlocator, hliteral, rfl⟩
  have hdistinct : (made.router.literals.map fun edge => edge.segment.toList).Nodup := by
    have hlists := hclear.distinct.map fun _ _ => String.toList_injective
    rwa [List.map_map] at hlists
  have hfind := (find?_eq_some_iff_mem hdistinct locator.segment.toList locator.edge).mpr ⟨hedge, rfl⟩
  rw [Router.edge?, hfind, Option.some_or]

/-- The edge of a segment that no literal edge has is that of the locator that takes an argument. -/
theorem edge?_of_argument (h : Planned model service bases made)
    (hlocator : locator ∈ made.locators) (htakes : locator.argument.isSome) {text : String}
    (hfree : ∀ edge ∈ made.router.literals, edge.segment ≠ text) :
    made.router.edge? text.toList = some locator.edge := by
  have hnone : (made.router.literals.find? fun edge => edge.segment.toList = text.toList) = none := by
    rw [List.find?_eq_none]
    intro edge hedge hsame
    exact hfree edge hedge (String.toList_injective (of_decide_eq_true hsame))
  rw [Router.edge?, hnone, Option.none_or]
  exact h.wildcard_iff.mpr ⟨locator, hlocator, htakes, rfl⟩

/-- A call that follows a locator enters the segment that it appends, which is not empty and holds no
slash. -/
theorem enter?_of_follows (h : Planned model service bases made) (hclear : made.router.ToldApart)
    {stored segment : String} {child : Position}
    (hfollows : Position.Follows ⟨plan, made, stored⟩ segment child) :
    segment ≠ "" ∧ '/' ∉ segment.toList ∧
      Position.enter? ⟨plan, made, stored⟩ segment.toList = some child := by
  cases hfollows with
  | @literal spelling locator hfound hliteral argument _ hlocate =>
    have hlocator : locator ∈ made.locators := List.mem_of_find?_eq_some hfound
    have hedge := h.literal_iff.mpr ⟨locator, hlocator, hliteral, rfl⟩
    refine ⟨hclear.nonempty _ hedge, hclear.unslashed _ hedge, ?_⟩
    obtain ⟨other, segment, hother, hsegment, hchild⟩ := Position.locate_eq_ok.mp hlocate
    obtain rfl : locator = other := Option.some.inj (hfound.symm.trans hother)
    simp only [Position.locatorSegment, hliteral, Except.ok.injEq] at hsegment
    rw [Position.enter?, h.edge?_of_literal hclear hlocator hliteral, Option.bind_some,
      String.ofList_toList, hsegment]
    exact hchild
  | @argument spelling locator hfound htakes _ hne hslash hfree _ hlocate =>
    have hlocator : locator ∈ made.locators := List.mem_of_find?_eq_some hfound
    refine ⟨hne, hslash, ?_⟩
    obtain ⟨other, text, hother, htext, hchild⟩ := Position.locate_eq_ok.mp hlocate
    obtain rfl : locator = other := Option.some.inj (hfound.symm.trans hother)
    obtain ⟨name, hname⟩ := Option.isSome_iff_exists.mp htakes
    simp only [Position.locatorSegment, hname, Except.ok.injEq] at htext
    rw [Position.enter?, h.edge?_of_argument hlocator htakes hfree, Option.bind_some,
      String.ofList_toList, htext]
    exact hchild

end Planned

/-- Where literal segments are told apart, the segments of a walk resolve to where it ends. The induction
is on the walk: each step enters its segment, and stays among the services of the plan. -/
theorem Position.resolveFrom_of_walk
    (hplanned : ∀ made ∈ plan.services, ∃ service bases, Planned model service bases made)
    (hclear : ∀ made ∈ plan.services, made.router.ToldApart) {position target : Position}
    {segments : List String} (hwalk : position.Walk segments target) (hplan : position.plan = plan)
    (hmem : position.service ∈ plan.services) :
    position.resolveFrom ("/".intercalate segments).toList = .ok target := by
  induction hwalk with
  | here position => exact Position.resolveFrom_nil
  | @step position child target segment segments hfollows hrest ih =>
    obtain ⟨service, bases, hmade⟩ := hplanned _ hmem
    obtain ⟨hne, hslash, henter⟩ := hmade.enter?_of_follows (hclear _ hmem) hfollows
    obtain ⟨hchildPlan, hchildMem, _⟩ := Position.enter?_eq_some henter
    obtain ⟨hlast, hmore⟩ :=
      Position.resolveFrom_of_enter (hclear _ hmem) (by simpa using hne) hslash henter
    have hthere := ih (hchildPlan.trans hplan) (hplan ▸ hchildMem)
    by_cases hsegments : segments = []
    · subst hsegments
      cases hrest
      rw [String.intercalate_singleton]
      exact hlast
    · rw [toList_slashed segment hsegments, hmore]
      exact hthere

/-- Where the literal segments of every service are told apart, the joined segments of a walk along locators
resolve to the position at which the walk ends. -/
theorem resolve_of_walk (hplan : model.plan = .ok plan)
    (hclear : ∀ made ∈ plan.services, made.router.ToldApart) {made : ServicePlan}
    (hmade : made ∈ plan.services) {stored : String} {segments : List String} {target : Position}
    (hwalk : Position.Walk ⟨plan, made, stored⟩ segments target) :
    Position.resolve ⟨plan, made, stored⟩ ("/".intercalate segments) = .ok target :=
  Position.resolveFrom_of_walk (Model.planned_of_plan hplan) hclear hwalk rfl hmade

/-- In the redeclaring model the argument `7` for `box` and then `box` without one lead from the root to
the path `7/box`, and so does resolving it. -/
theorem redeclaringModel_walk : ∃ target,
    Position.locate ⟨redeclaringPlan, redeclaringServicePlan, ""⟩ "box" (some "7") =
      .ok ⟨redeclaringPlan, shelfServicePlan, "7"⟩ ∧
    Position.locate ⟨redeclaringPlan, shelfServicePlan, "7"⟩ "box" none = .ok target ∧
    target.path = "7/box" ∧
    Position.resolve ⟨redeclaringPlan, redeclaringServicePlan, ""⟩ "7/box" = .ok target := by
  have hfirst : Position.locate ⟨redeclaringPlan, redeclaringServicePlan, ""⟩ "box" (some "7") =
      .ok ⟨redeclaringPlan, shelfServicePlan, "7"⟩ := by decide +kernel
  have hsecond : Position.locate ⟨redeclaringPlan, shelfServicePlan, "7"⟩ "box" none =
      .ok ⟨redeclaringPlan, shelfServicePlan, "7/box"⟩ := by decide +kernel
  have htakes : redeclaringServicePlan.locator? (.parse "box") =
      some (wordLocator "box" (some "id") "shelf" "ShelfService") := by decide +kernel
  have hliteral : shelfServicePlan.locator? (.parse "box") =
      some (wordLocator "box" none "shelf" "ShelfService") := by decide +kernel
  have hwalk : Position.Walk ⟨redeclaringPlan, redeclaringServicePlan, ""⟩ ["7", "box"]
      ⟨redeclaringPlan, shelfServicePlan, "7/box"⟩ :=
    .step (.argument htakes rfl (by decide) (by decide) (by decide) hfirst)
      (.step (.literal hliteral rfl none hsecond) (.here _))
  have hclear : ∀ made ∈ redeclaringPlan.services, made.router.ToldApart := by
    intro made hmade
    simp only [redeclaringPlan, List.mem_cons, List.not_mem_nil, or_false] at hmade
    obtain rfl | rfl := hmade <;> exact ⟨by decide, by decide, by decide⟩
  exact ⟨_, hfirst, hsecond, rfl,
    resolve_of_walk redeclaringModel_plan hclear (List.mem_cons_of_mem _ List.mem_cons_self) hwalk⟩

end ServiceTree
