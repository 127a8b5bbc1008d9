import ServiceTree.Proofs.LiteralRoutes
import ServiceTree.Proofs.TextPieces

/-!
# Paths as walks over segments

The router compares a path with whole texts and their fronts and never cuts it into segments. Where no
literal segment holds a slash, it does what a walk over the pieces between slashes does: at each service
the piece decides the edge, the first literal one in the order of names or else the wildcard, and the
walk ends where nothing is left or no edge fits.
-/

namespace ServiceTree

namespace Router

variable {router : Router} {segment : List Char} {edge : RouteEdge}

/-- The edge that a segment takes: the literal edge of exactly that segment, of several the one whose
name comes first, and the wildcard edge where no literal edge has the segment. -/
inductive Takes (router : Router) (segment : List Char) : RouteEdge → Prop
  | literal {edge : RouteEdge} (hedge : edge ∈ router.literals)
      (hsegment : edge.segment.toList = segment)
      (hfirst : ∀ other ∈ router.literals, other.segment.toList = segment → other ≠ edge →
        edge.locator < other.locator) : Takes router segment edge
  | wildcard {edge : RouteEdge} (hnone : ∀ other ∈ router.literals, other.segment.toList ≠ segment)
      (hedge : router.wildcard = some edge) : Takes router segment edge

/-- A segment takes one edge. -/
theorem Takes.unique {other : RouteEdge} (h : router.Takes segment edge)
    (hother : router.Takes segment other) : edge = other := by
  cases h with
  | literal hedge hsegment hfirst =>
    cases hother with
    | literal hedge' hsegment' hfirst' =>
      by_contra hne
      exact lt_asymm (α := List String) (hfirst other hedge' hsegment' (Ne.symm hne))
        (hfirst' edge hedge hsegment hne)
    | wildcard hnone _ => exact absurd hsegment (hnone edge hedge)
  | wildcard hnone hwildcard =>
    cases hother with
    | literal hedge' hsegment' _ => exact absurd hsegment' (hnone other hedge')
    | wildcard _ hwildcard' => exact Option.some.inj (hwildcard.symm.trans hwildcard')

/-- Where the literal edges increase by name, the edge that is found for a segment is the one it takes. -/
theorem takes_of_edge? (hincreasing : router.literals.Pairwise fun a b => a.locator < b.locator)
    (h : router.edge? segment = some edge) : router.Takes segment edge := by
  rcases Option.or_eq_some_iff.mp h with hliteral | ⟨hnone, hwildcard⟩
  · obtain ⟨hsegment, before, after, hsplit, hbefore⟩ := List.find?_eq_some_iff_append.mp hliteral
    refine .literal (List.mem_of_find?_eq_some hliteral) (of_decide_eq_true hsegment) ?_
    intro other hother hsame hne
    rw [hsplit] at hother hincreasing
    rcases List.mem_append.mp hother with hother | hother
    · simpa [hsame] using hbefore other hother
    · exact (List.pairwise_cons.mp (List.pairwise_append.mp hincreasing).2.1).1 other
        ((List.mem_cons.mp hother).resolve_left hne)
  · refine .wildcard (fun other hother hsame => ?_) hwildcard
    simpa [hsame] using List.find?_eq_none.mp hnone other hother

/-- Where the literal edges increase by name, an edge is found for a segment exactly if the segment takes
it. -/
theorem edge?_eq_some_iff (hincreasing : router.literals.Pairwise fun a b => a.locator < b.locator) :
    router.edge? segment = some edge ↔ router.Takes segment edge := by
  refine ⟨takes_of_edge? hincreasing, fun htakes => ?_⟩
  have hfound : (router.edge? segment).isSome := by
    rw [edge?, Option.isSome_or, Bool.or_eq_true]
    cases htakes with
    | literal hedge hsegment _ =>
      exact .inl (List.find?_isSome.mpr ⟨edge, hedge, decide_eq_true hsegment⟩)
    | wildcard _ hwildcard => exact .inr (Option.isSome_of_eq_some hwildcard)
  obtain ⟨found, hfound⟩ := Option.isSome_iff_exists.mp hfound
  rw [hfound, (takes_of_edge? hincreasing hfound).unique htakes]

end Router

/-- A plan is passable if at each of its services the literal edges increase by name, no literal segment
holds a slash, and every edge leads to a service of the plan. -/
structure ClientPlan.Passable (plan : ClientPlan) : Prop where
  increasing : ∀ made ∈ plan.services,
    made.router.literals.Pairwise fun a b => a.locator < b.locator
  unslashed : ∀ made ∈ plan.services, ∀ edge ∈ made.router.literals, '/' ∉ edge.segment.toList
  leads : ∀ made ∈ plan.services, ∀ segment edge, made.router.Takes segment edge →
    ∃ service ∈ plan.services, plan.service? edge.target = some service

namespace Model

variable {model : Model} {plan : ClientPlan}

/-- In a plan every locator leads to a service of the plan. -/
theorem plan_leads (hplan : model.plan = .ok plan) {made : ServicePlan} (hmade : made ∈ plan.services)
    {locator : LocatorPlan} (hlocator : locator ∈ made.locators) :
    ∃ service ∈ plan.services, plan.service? locator.target = some service := by
  obtain ⟨service, bases, hplanned⟩ := planned_of_plan hplan made hmade
  obtain ⟨_, _, declared, _, hdeclared⟩ := hplanned.locator_declared hlocator
  obtain ⟨target, hfound, htarget, _⟩ := Locator.plan_target hdeclared
  have hname : locator.target ∈ plan.services.map ServicePlan.name := by
    rw [htarget]
    exact (plan_names_perm hplan).symm.subset (List.mem_map_of_mem (List.mem_of_find?_eq_some hfound))
  obtain ⟨reached, hreached, hsame⟩ := List.mem_map.mp hname
  have hsome : (plan.service? locator.target).isSome :=
    List.find?_isSome.mpr ⟨reached, hreached, decide_eq_true hsame⟩
  obtain ⟨first, hfirst⟩ := Option.isSome_iff_exists.mp hsome
  exact ⟨first, List.mem_of_find?_eq_some hfirst, hfirst⟩

/-- A plan without slashes in its literal segments is passable. -/
theorem plan_passable (hplan : model.plan = .ok plan)
    (hslash : ∀ made ∈ plan.services, ∀ edge ∈ made.router.literals, '/' ∉ edge.segment.toList) :
    plan.Passable where
  increasing := fun made hmade => by
    obtain ⟨service, bases, hplanned⟩ := planned_of_plan hplan made hmade
    exact hplanned.literals_increasing
  unslashed := hslash
  leads := fun made hmade segment edge htakes => by
    obtain ⟨service, bases, hplanned⟩ := planned_of_plan hplan made hmade
    cases htakes with
    | literal hedge _ _ =>
      obtain ⟨locator, hlocator, _, rfl⟩ := hplanned.literal_iff.mp hedge
      exact plan_leads hplan hmade hlocator
    | wildcard _ hedge =>
      obtain ⟨locator, hlocator, _, rfl⟩ := hplanned.wildcard_iff.mp hedge
      exact plan_leads hplan hmade hlocator

end Model

namespace Position

/-- A walk over segments and what it comes to: it stops where nothing or only the empty text is left, goes on
where the first segment takes an edge, and else fails with the rest. -/
inductive SegmentWalk : Position → List (List Char) → Except ClientError Position → Prop
  | ended (position : Position) : SegmentWalk position [] (.ok position)
  | stopped (position : Position) : SegmentWalk position [[]] (.ok position)
  | followed {position : Position} {segment : List Char} {rest : List (List Char)} {edge : RouteEdge}
      {service : ServicePlan} {outcome : Except ClientError Position} (hleft : segment :: rest ≠ [[]])
      (hedge : position.service.router.Takes segment edge)
      (hservice : position.plan.service? edge.target = some service)
      (hrest : SegmentWalk
        ⟨position.plan, service, joinPath position.path (String.ofList segment)⟩ rest outcome) :
      SegmentWalk position (segment :: rest) outcome
  | lost {position : Position} {segment : List Char} {rest : List (List Char)}
      (hleft : segment :: rest ≠ [[]]) (hedge : ∀ edge, ¬ position.service.router.Takes segment edge) :
      SegmentWalk position (segment :: rest)
        (.error (.noSuchService (String.ofList (List.intercalate ['/'] (segment :: rest)))))

variable {plan : ClientPlan} {position : Position} {segment : List Char} {rest : List (List Char)}

/-- The first of some segments with slashes between them is the one that is split off. -/
theorem splitSegment_intercalate (hslash : '/' ∉ segment) :
    splitSegment (List.intercalate ['/'] (segment :: rest)) = (segment, List.intercalate ['/'] rest) := by
  cases rest with
  | nil => rw [List.intercalate_singleton, splitSegment_self hslash, List.intercalate_nil]
  | cons next rest =>
    rw [List.intercalate_cons_cons, List.append_assoc, List.singleton_append, splitSegment_append hslash]

/-- Segments with slashes between them are a path unless they are the empty segment alone. -/
theorem intercalate_ne_nil (hleft : segment :: rest ≠ [[]]) :
    List.intercalate ['/'] (segment :: rest) ≠ [] := by
  cases rest with
  | nil =>
    rw [List.intercalate_singleton]
    rintro rfl
    exact hleft rfl
  | cons next rest => simp [List.intercalate_cons_cons]

/-- In a passable plan an edge that a segment takes is entered. -/
theorem enter?_of_takes (hpass : position.plan.Passable)
    (hmade : position.service ∈ position.plan.services) {edge : RouteEdge}
    (hedge : position.service.router.Takes segment edge) :
    ∃ service ∈ position.plan.services, position.plan.service? edge.target = some service ∧
      position.enter? segment =
        some ⟨position.plan, service, joinPath position.path (String.ofList segment)⟩ := by
  obtain ⟨service, hservice, hfound⟩ := hpass.leads _ hmade segment edge hedge
  refine ⟨service, hservice, hfound, ?_⟩
  rw [enter?, (Router.edge?_eq_some_iff (hpass.increasing _ hmade)).mpr hedge, Option.bind_some, child?,
    hfound, Option.map_some]

section Walks

variable {outcome : Except ClientError Position}

/-- A walk over no segment comes to the position it is at. -/
theorem segmentWalk_nil : position.SegmentWalk [] outcome ↔ .ok position = outcome := by
  constructor
  · rintro ⟨⟩
    rfl
  · rintro rfl
    exact .ended position

/-- A walk over the empty segment alone comes to the position it is at. -/
theorem segmentWalk_empty : position.SegmentWalk [[]] outcome ↔ .ok position = outcome := by
  constructor
  · intro hwalk
    cases hwalk with
    | stopped => rfl
    | followed hleft _ _ _ => exact absurd rfl hleft
    | lost hleft _ => exact absurd rfl hleft
  · rintro rfl
    exact .stopped position

/-- A walk goes on where the edge leads that its first segment takes. -/
theorem segmentWalk_of_takes (hleft : segment :: rest ≠ [[]]) {edge : RouteEdge}
    (hedge : position.service.router.Takes segment edge) {service : ServicePlan}
    (hservice : position.plan.service? edge.target = some service) :
    position.SegmentWalk (segment :: rest) outcome ↔
      SegmentWalk ⟨position.plan, service, joinPath position.path (String.ofList segment)⟩ rest
        outcome := by
  refine ⟨fun hwalk => ?_, .followed hleft hedge hservice⟩
  cases hwalk with
  | stopped => exact absurd rfl hleft
  | followed _ hother hreached hrest =>
    cases hedge.unique hother
    cases hservice.symm.trans hreached
    exact hrest
  | lost _ hnone => exact absurd hedge (hnone edge)

/-- A walk whose first segment takes no edge fails with the segments that are left. -/
theorem segmentWalk_of_lost (hleft : segment :: rest ≠ [[]])
    (hnone : ∀ edge, ¬ position.service.router.Takes segment edge) :
    position.SegmentWalk (segment :: rest) outcome ↔
      .error (.noSuchService (String.ofList (List.intercalate ['/'] (segment :: rest)))) = outcome := by
  constructor
  · intro hwalk
    cases hwalk with
    | stopped => exact absurd rfl hleft
    | followed _ hother _ _ => exact absurd hother (hnone _)
    | lost => rfl
  · rintro rfl
    exact .lost hleft hnone

end Walks

/-- In a passable plan a path is followed as its segments are walked. The induction is on the segments:
the first one is what the path is split at, and entering it stays in the plan. -/
theorem resolveFrom_iff_segmentWalk (hpass : plan.Passable) {segments : List (List Char)}
    (hslash : ∀ segment ∈ segments, '/' ∉ segment) (hplan : position.plan = plan)
    (hmade : position.service ∈ plan.services) (outcome : Except ClientError Position) :
    position.resolveFrom (List.intercalate ['/'] segments) = outcome ↔
      position.SegmentWalk segments outcome := by
  subst hplan
  induction segments generalizing position with
  | nil => rw [List.intercalate_nil, resolveFrom_nil, segmentWalk_nil]
  | cons segment rest ih =>
    rw [List.forall_mem_cons] at hslash
    by_cases hleft : segment :: rest = [[]]
    · rw [hleft, List.intercalate_singleton, resolveFrom_nil, segmentWalk_empty]
    · rw [resolveFrom_eq (hpass.unslashed _ hmade) (intercalate_ne_nil hleft),
        splitSegment_intercalate hslash.1]
      by_cases htakes : ∃ edge, position.service.router.Takes segment edge
      case pos =>
        obtain ⟨edge, hedge⟩ := htakes
        obtain ⟨service, hservice, hfound, henter⟩ := enter?_of_takes hpass hmade hedge
        have hrest : Position.resolveFrom
            ⟨position.plan, service, joinPath position.path (String.ofList segment)⟩
            (List.intercalate ['/'] rest) = outcome ↔ SegmentWalk _ rest outcome :=
          ih hslash.2 hpass hservice
        simp only [henter]
        rw [hrest, segmentWalk_of_takes hleft hedge hfound]
      case neg =>
        have hnone : position.enter? segment = none := by
          rw [enter?, Option.bind_eq_none_iff]
          intro edge hedge
          exact absurd ⟨edge, Router.takes_of_edge? (hpass.increasing _ hmade) hedge⟩ htakes
        simp only [hnone]
        rw [segmentWalk_of_lost hleft (not_exists.mp htakes)]

end Position

/-- Where no literal segment of a compiled plan holds a slash, resolving a path is walking over its pieces
between slashes, from any service and at any stored path. -/
theorem resolve_iff_segmentWalk {model : Model} {plan : ClientPlan} (hplan : model.plan = .ok plan)
    (hslash : ∀ made ∈ plan.services, ∀ edge ∈ made.router.literals, '/' ∉ edge.segment.toList)
    {made : ServicePlan} (hmade : made ∈ plan.services) (stored path : String)
    (outcome : Except ClientError Position) :
    Position.resolve ⟨plan, made, stored⟩ path = outcome ↔
      Position.SegmentWalk ⟨plan, made, stored⟩ (Text.pieces (· == '/') path.toList) outcome := by
  have hpieces : ∀ piece ∈ Text.pieces (· == '/') path.toList, '/' ∉ piece := by
    intro piece hpiece hmem
    simpa using (Text.mem_of_mem_pieces hpiece '/' hmem).2
  rw [← Position.resolveFrom_iff_segmentWalk (Model.plan_passable hplan hslash) hpieces rfl hmade,
    Text.intercalate_pieces, Position.resolve]

/-- In the redeclaring model the walk over `7/box/` takes the wildcard, then the literal edge, and stops at the
empty segment with the path `7/box`, to which the path resolves as well. -/
theorem redeclaringModel_segmentWalk :
    redeclaringModel.plan = .ok redeclaringPlan ∧ redeclaringServicePlan ∈ redeclaringPlan.services ∧
      Position.resolve ⟨redeclaringPlan, redeclaringServicePlan, ""⟩ "7/box/" =
        .ok ⟨redeclaringPlan, shelfServicePlan, "7/box"⟩ := by
  have hslash : ∀ made ∈ redeclaringPlan.services, ∀ edge ∈ made.router.literals,
      '/' ∉ edge.segment.toList := by decide
  have hmade : redeclaringServicePlan ∈ redeclaringPlan.services :=
    List.mem_cons_of_mem _ List.mem_cons_self
  have hwildcard : redeclaringServicePlan.router.Takes ['7'] ⟨⟨["box"]⟩, "box", ⟨["shelf"]⟩⟩ :=
    .wildcard (by decide) rfl
  have hliteral : shelfServicePlan.router.Takes ['b', 'o', 'x'] ⟨⟨["box"]⟩, "box", ⟨["shelf"]⟩⟩ :=
    .literal (by decide) (by decide) (by decide)
  have hpieces : Text.pieces (· == '/') "7/box/".toList = [['7'], ['b', 'o', 'x'], []] := by decide
  refine ⟨redeclaringModel_plan, hmade,
    (resolve_iff_segmentWalk redeclaringModel_plan hslash hmade "" "7/box/" _).mpr ?_⟩
  rw [hpieces]
  exact .followed (by decide) hwildcard (by decide)
    (.followed (by decide) hliteral (by decide) (.stopped _))

end ServiceTree
