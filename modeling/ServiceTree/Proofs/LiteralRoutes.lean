import ServiceTree.Proofs.PathSteps
import ServiceTree.Proofs.PlanInvariants

/-!
# Literal locators and their segments

Locators are told apart by the words of their names, edges by the words run together. So a segment leads
where the first locator leads whose words make that segment, unless a locator before it has a front of
the segment up to a slash. Every literal locator is reached by its segment as long as no other one of its
service has the same segment.
-/

namespace ServiceTree

/-- The first locator without an argument that has a segment. -/
def ServicePlan.routed? (service : ServicePlan) (segment : String) : Option LocatorPlan :=
  service.locators.find? fun locator => !locator.isParameterized && locator.segment = segment

/-- A segment is not behind a path that is neither the segment nor goes on with a slash behind it. -/
theorem restBehind?_eq_none {segment path : List Char} (hwhole : path ≠ segment)
    (hfront : ¬ (segment ++ ['/']) <+: path) : restBehind? segment path = none := by
  rw [restBehind?, if_neg hwhole, if_neg]
  rwa [List.isPrefixOf_iff_prefix]

/-- The step along the segment of a literal locator is taken at its edge, if no literal locator in front
of it has the segment or a front of it up to a slash. -/
theorem Router.step?_of_first {locators before after : List LocatorPlan} {first : LocatorPlan}
    (hsplit : locators = before ++ first :: after) (hliteral : first.argument = none)
    (hbefore : ∀ other ∈ before, other.argument = none → other.segment ≠ first.segment ∧
      ¬ (other.segment.toList ++ ['/']) <+: first.segment.toList) :
    (Router.ofLocators locators).step? first.segment.toList =
      some ⟨first.target, first.segment, []⟩ := by
  have hedges : (Router.ofLocators locators).literals =
      (before.filter fun other => !other.isParameterized).map LocatorPlan.edge ++
        first.edge :: (after.filter fun other => !other.isParameterized).map LocatorPlan.edge := by
    rw [Router.ofLocators, hsplit, List.filter_append, List.map_append, List.filter_cons]
    simp [LocatorPlan.isParameterized, hliteral]
  have hstep : ((Router.ofLocators locators).literals.findSome? fun edge =>
      edge.step? first.segment.toList) = some ⟨first.target, first.segment, []⟩ := by
    rw [List.findSome?_eq_some_iff]
    refine ⟨_, _, _, hedges, ?_, ?_⟩
    · simp [RouteEdge.step?, LocatorPlan.edge, restBehind?]
    · intro edge hedge
      obtain ⟨other, hother, rfl⟩ := List.mem_map.mp hedge
      obtain ⟨hmem, hplain⟩ := List.mem_filter.mp hother
      obtain ⟨hsegment, hfront⟩ := hbefore other hmem (by
        simpa [LocatorPlan.isParameterized] using hplain)
      rw [RouteEdge.step?, Option.map_eq_none_iff]
      exact restBehind?_eq_none (fun heq => hsegment (String.toList_injective heq).symm) hfront
  rw [Router.step?, hstep, Option.some_or]

/-- The segment of a literal locator is that of a first such locator. Where the locators increase by name,
all of them in front of the first have smaller names. -/
theorem ServicePlan.exists_routed {service : ServicePlan} {locator : LocatorPlan}
    (hincreasing : service.locators.Pairwise fun a b => a.name < b.name)
    (hlocator : locator ∈ service.locators) (hliteral : locator.argument = none) :
    ∃ before first after, service.locators = before ++ first :: after ∧
      service.routed? locator.segment = some first ∧ first.argument = none ∧
      first.segment = locator.segment ∧
      ∀ other ∈ before, other.name < locator.name ∧
        (other.argument = none → other.segment ≠ locator.segment) := by
  have hsome : (service.routed? locator.segment).isSome :=
    List.find?_isSome.mpr ⟨locator, hlocator, by simp [LocatorPlan.isParameterized, hliteral]⟩
  obtain ⟨first, hfirst⟩ := Option.isSome_iff_exists.mp hsome
  obtain ⟨hfits, before, after, hsplit, hbefore⟩ := List.find?_eq_some_iff_append.mp hfirst
  simp only [Bool.and_eq_true, Bool.not_eq_true', decide_eq_true_eq, LocatorPlan.isParameterized,
    Option.isSome_eq_false_iff, Option.isNone_iff_eq_none] at hfits
  have hskipped : ∀ other ∈ before, other.argument = none → other.segment ≠ locator.segment := by
    intro other hother hargument hsegment
    simpa [LocatorPlan.isParameterized, hargument, hsegment] using hbefore other hother
  refine ⟨before, first, after, hsplit, hfirst, hfits.1, hfits.2, ?_⟩
  intro other hother
  refine ⟨?_, hskipped other hother⟩
  rw [hsplit] at hlocator hincreasing
  rcases List.mem_append.mp hlocator with hmem | hmem
  · exact absurd rfl (hskipped locator hmem hliteral)
  · exact (List.pairwise_append.mp hincreasing).2.2 other hother locator hmem

namespace Position

variable {position child : Position} {locator : LocatorPlan}

/-- A path that fits an edge as a whole ends at the child of the edge. -/
theorem resolve_of_last {path : String} {target : Name} (hne : path ≠ "")
    (hstep : position.service.router.step? path.toList = some ⟨target, path, []⟩)
    (hchild : position.child? target path = some child) : position.resolve path = .ok child := by
  rw [resolve, resolveFrom_of_step (by simpa using hne) hstep hchild]
  exact resolveFrom_nil

/-- A literal locator leads to the child of its segment, whatever argument is given. -/
theorem locate_of_literal {spelling : String}
    (hfound : position.service.locator? (.parse spelling) = some locator)
    (hliteral : locator.argument = none)
    (hchild : position.child? locator.target locator.segment = some child)
    (argument : Option String) : position.locate spelling argument = .ok child := by
  have hsegment : locatorSegment locator argument = .ok locator.segment := by
    simp only [locatorSegment, hliteral]
  simp only [locate, hfound, hsegment, bind, Except.bind, hchild]

end Position

variable {model : Model} {plan : ClientPlan}

/-- In a plan every locator has a child to lead to, which is the service it names. -/
theorem Model.plan_child? (hnames : (model.services.map Service.name).Nodup)
    (hplan : model.plan = .ok plan) {made : ServicePlan} (hmade : made ∈ plan.services)
    {locator : LocatorPlan} (hlocator : locator ∈ made.locators) :
    ∃ target, target.name = locator.target ∧ ∀ path segment,
      Position.child? ⟨plan, made, path⟩ locator.target segment =
        some ⟨plan, target, joinPath path segment⟩ := by
  obtain ⟨target, _, hfound, hname, _⟩ := plan_target hnames hplan hmade hlocator
  refine ⟨target, hname, fun path segment => ?_⟩
  rw [Position.child?]
  change (plan.service? locator.target).map _ = _
  rw [hfound]
  rfl

/-- The step along the segment of a literal locator of a plan is that of the first literal locator with the
segment, if no smaller one has a front of the segment up to a slash. -/
theorem Planned.step?_segment {service : Service} {bases : List Service} {made : ServicePlan}
    (h : Planned model service bases made) {locator : LocatorPlan}
    (hlocator : locator ∈ made.locators) (hliteral : locator.argument = none)
    (hfront : ∀ other ∈ made.locators, other.argument = none → other.name < locator.name →
      ¬ (other.segment.toList ++ ['/']) <+: locator.segment.toList) :
    ∃ first ∈ made.locators, made.routed? locator.segment = some first ∧ first.argument = none ∧
      first.segment = locator.segment ∧
      made.router.step? locator.segment.toList = some ⟨first.target, locator.segment, []⟩ := by
  obtain ⟨before, first, after, hsplit, hfirst, hfirstLiteral, hsegment, hbefore⟩ :=
    ServicePlan.exists_routed h.merged.locators hlocator hliteral
  refine ⟨first, List.mem_of_find?_eq_some hfirst, hfirst, hfirstLiteral, hsegment, ?_⟩
  rw [h.router_eq, ← hsegment]
  refine Router.step?_of_first hsplit hfirstLiteral fun other hother hargument => ?_
  rw [hsegment]
  have hmem : other ∈ made.locators := hsplit ▸ List.mem_append_left _ hother
  obtain ⟨hsmaller, hdifferent⟩ := hbefore other hother
  exact ⟨hdifferent hargument, hfront other hmem hargument hsmaller⟩

/-- A literal locator is reached by its segment exactly if the first one with that segment leads to the same
service, unless the segment is empty or begins with a smaller one and a slash. -/
theorem resolve_segment_eq_locate (hvalidate : model.validate = .ok ()) (hplan : model.plan = .ok plan)
    {made : ServicePlan} (hmade : made ∈ plan.services) {locator : LocatorPlan}
    (hlocator : locator ∈ made.locators) (hliteral : locator.argument = none)
    (hne : locator.segment ≠ "")
    (hfront : ∀ other ∈ made.locators, other.argument = none → other.name < locator.name →
      ¬ (other.segment.toList ++ ['/']) <+: locator.segment.toList) :
    ∃ first, made.routed? locator.segment = some first ∧
      ∀ path, ∃ reached, Position.resolve ⟨plan, made, path⟩ locator.segment = .ok reached ∧
        (∀ spelling argument, Name.parse spelling = first.name →
          Position.locate ⟨plan, made, path⟩ spelling argument = .ok reached) ∧
        ∀ spelling argument, Name.parse spelling = locator.name →
          (Position.locate ⟨plan, made, path⟩ spelling argument = .ok reached ↔
            first.target = locator.target) ∧
          ((∀ other ∈ made.locators, other.argument = none → other.segment = locator.segment →
            other = locator) → Position.locate ⟨plan, made, path⟩ spelling argument = .ok reached) := by
  have hnames := (Model.validate_eq_ok_iff.mp hvalidate).names
  obtain ⟨service, bases, hplanned⟩ := Model.planned_of_plan hplan made hmade
  obtain ⟨first, hfirstMem, hfirst, hfirstLiteral, hsegment, hstep⟩ :=
    hplanned.step?_segment hlocator hliteral hfront
  obtain ⟨target, htarget, hchild⟩ := Model.plan_child? hnames hplan hmade hfirstMem
  obtain ⟨own, hown, hownChild⟩ := Model.plan_child? hnames hplan hmade hlocator
  have hfound {member : LocatorPlan} (hmember : member ∈ made.locators) (spelling : String)
      (hspelling : Name.parse spelling = member.name) :
      made.locator? (.parse spelling) = some member := by
    rw [hspelling]
    exact hplanned.locator?_of_mem hmember
  refine ⟨first, hfirst, fun path => ⟨⟨plan, target, joinPath path locator.segment⟩, ?_, ?_, ?_⟩⟩
  · exact Position.resolve_of_last hne hstep (hchild path locator.segment)
  · intro spelling argument hspelling
    rw [Position.locate_of_literal (hfound hfirstMem spelling hspelling) hfirstLiteral
      (hchild path first.segment), hsegment]
  · intro spelling argument hspelling
    have hreaches : Position.locate ⟨plan, made, path⟩ spelling argument =
        .ok ⟨plan, target, joinPath path locator.segment⟩ ↔ first.target = locator.target := by
      rw [Position.locate_of_literal (hfound hlocator spelling hspelling) hliteral
        (hownChild path locator.segment)]
      simp only [Except.ok.injEq, Position.mk.injEq, true_and, and_true]
      constructor
      · rintro rfl
        rw [← htarget, hown]
      · intro hsame
        have hboth := (hchild path "").symm.trans (hsame ▸ hownChild path "")
        simpa using hboth.symm
    refine ⟨hreaches, fun honly => hreaches.mpr ?_⟩
    rw [honly first hfirstMem hfirstLiteral hsegment]

/-- A service whose locators get in each other's way: one has no words, one has another's segment and a
slash in front of its own, and two have the same words run together. -/
def crossroadsService : Service where
  name := ⟨["root"]⟩
  base := none
  methods := []
  locators := [literalLocator ⟨[]⟩ ⟨["inner"]⟩, literalLocator ⟨["a"]⟩ ⟨["root"]⟩,
    literalLocator ⟨["a/b"]⟩ ⟨["inner"]⟩, literalLocator ⟨["c", "d"]⟩ ⟨["root"]⟩,
    literalLocator ⟨["cd"]⟩ ⟨["inner"]⟩]
  doc := none

/-- A model of that service and one without any locators. -/
def crossroadsModel : Model where
  name := ⟨["shop"]⟩
  root := ⟨["root"]⟩
  services := [crossroadsService, ⟨⟨["inner"]⟩, none, [], [], none⟩]

/-- The plan of a locator without an argument. -/
def literalPlan (name target : Name) : LocatorPlan where
  name := name
  accessor := name.accessor
  segment := name.segment
  argument := none
  target := target
  targetType := target.serviceType
  doc := "Locates the `" ++ name.identifier ++ "` service."

/-- The plans of the locators, in the order of their names. -/
def crossroadsLocators : List LocatorPlan :=
  [literalPlan ⟨[]⟩ ⟨["inner"]⟩, literalPlan ⟨["a"]⟩ ⟨["root"]⟩, literalPlan ⟨["a/b"]⟩ ⟨["inner"]⟩,
    literalPlan ⟨["c", "d"]⟩ ⟨["root"]⟩, literalPlan ⟨["cd"]⟩ ⟨["inner"]⟩]

/-- The model is valid, and its root is planned with these locators. -/
theorem crossroadsModel_plan : crossroadsModel.validate = .ok () ∧ ∃ plan made,
    crossroadsModel.plan = .ok plan ∧ made ∈ plan.services ∧ plan.service? ⟨["root"]⟩ = some made ∧
      made.locators = crossroadsLocators ∧ made.router = Router.ofLocators crossroadsLocators := by
  have hvalidate : crossroadsModel.validate = .ok () := by decide
  have hvalid : crossroadsModel.Valid := Model.validate_eq_ok_iff.mp hvalidate
  obtain ⟨plan, hplan⟩ := hvalid.plan_isOk (by decide)
  have hmem : crossroadsService ∈ crossroadsModel.services := List.mem_cons_self
  obtain ⟨bases, made, hplanned, hmade, hfound⟩ := Model.plan_service? hvalid.names hplan hmem
  have hlocators : made.locators = crossroadsLocators := by
    cases hplanned with
    | derived _ hbase _ _ => cases hbase
    | root _ _ hmadeFrom =>
      obtain ⟨declared, hdeclared, _, rfl⟩ := Service.plan_eq_ok.mp hmadeFrom
      have hplans : crossroadsService.locators.mapM (Locator.plan crossroadsModel) =
          .ok crossroadsLocators := by decide +kernel
      rw [hplans] at hdeclared
      cases hdeclared
      change List.mergeSort crossroadsLocators _ = _
      exact List.mergeSort_of_pairwise (by decide)
  refine ⟨hvalidate, plan, made, hplan, hmade, hfound, hlocators, ?_⟩
  rw [hplanned.router_eq, hlocators]

/-- In a valid model the segment of a literal locator may lead elsewhere: where the name has no words, where
another segment is its front, and where another name has the same words run together. -/
theorem crossroadsModel_unreached : crossroadsModel.validate = .ok () ∧ ∃ plan made,
    crossroadsModel.plan = .ok plan ∧ made ∈ plan.services ∧
      ∀ spelling ∈ ["", "A/B", "Cd"], ∃ locator ∈ made.locators,
        locator.argument = none ∧ Name.parse spelling = locator.name ∧
          ∀ path, Position.resolve ⟨plan, made, path⟩ locator.segment ≠
            Position.locate ⟨plan, made, path⟩ spelling none := by
  obtain ⟨hvalidate, plan, made, hplan, hmade, hroot, hlocators, hrouter⟩ := crossroadsModel_plan
  have hnames := (Model.validate_eq_ok_iff.mp hvalidate).names
  have hself (path segment : String) : Position.child? ⟨plan, made, path⟩ ⟨["root"]⟩ segment =
      some ⟨plan, made, joinPath path segment⟩ := by
    change (plan.service? ⟨["root"]⟩).map _ = _
    rw [hroot]
    rfl
  have hmem : literalPlan ⟨[]⟩ ⟨["inner"]⟩ ∈ made.locators := hlocators ▸ List.mem_cons_self
  obtain ⟨inner, hinner, hchild⟩ := Model.plan_child? hnames hplan hmade hmem
  have hdifferent : inner ≠ made := by
    rintro rfl
    have hname := List.find?_some hroot
    rw [decide_eq_true_eq, hinner] at hname
    exact absurd hname (by decide)
  have hfound : ∀ name ∈ [⟨[]⟩, ⟨["a/b"]⟩, ⟨["cd"]⟩],
      made.locator? name = some (literalPlan name ⟨["inner"]⟩) := by
    simp only [ServicePlan.locator?, hlocators]
    decide
  -- each of the three locators leads to the inner service
  have hlocate {spelling : String} {name : Name} (hspelling : Name.parse spelling = name)
      (hname : name ∈ [⟨[]⟩, ⟨["a/b"]⟩, ⟨["cd"]⟩]) (path : String) :
      Position.locate ⟨plan, made, path⟩ spelling none =
        .ok ⟨plan, inner, joinPath path name.segment⟩ := by
    have hown := hfound name hname
    have hinnerChild : Position.child? ⟨plan, made, path⟩ (literalPlan name ⟨["inner"]⟩).target
        name.segment = some ⟨plan, inner, joinPath path name.segment⟩ := hchild path name.segment
    subst hspelling
    exact Position.locate_of_literal hown rfl hinnerChild none
  have hspelled : Name.parse "" = ⟨[]⟩ ∧ Name.parse "A/B" = ⟨["a/b"]⟩ ∧
      Name.parse "Cd" = ⟨["cd"]⟩ := by decide +kernel
  refine ⟨hvalidate, plan, made, hplan, hmade, ?_⟩
  simp only [List.forall_mem_cons, List.not_mem_nil, false_imp_iff, implies_true, and_true]
  refine ⟨⟨literalPlan ⟨[]⟩ ⟨["inner"]⟩, hmem, rfl, hspelled.1, fun path => ?_⟩,
    ⟨literalPlan ⟨["a/b"]⟩ ⟨["inner"]⟩, ?_, rfl, hspelled.2.1, fun path => ?_⟩,
    ⟨literalPlan ⟨["cd"]⟩ ⟨["inner"]⟩, ?_, rfl, hspelled.2.2, fun path => ?_⟩⟩
  · -- nothing is left of the path, so that it ends where it begins
    rw [hlocate hspelled.1 (by decide)]
    change Position.resolveFrom ⟨plan, made, path⟩ [] ≠ _
    rw [Position.resolveFrom_nil]
    intro hsame
    exact hdifferent (congrArg Position.service (Except.ok.inj hsame)).symm
  · rw [hlocators]
    decide
  · -- the first segment leads back to the root, where the second one leads nowhere
    have hfirst : made.router.step? "a/b".toList = some ⟨⟨["root"]⟩, "a", ['b']⟩ := by
      rw [hrouter]
      decide +kernel
    have hsecond : made.router.step? ['b'] = none := by
      rw [hrouter]
      decide +kernel
    rw [hlocate hspelled.2.1 (by decide)]
    change Position.resolveFrom ⟨plan, made, path⟩ "a/b".toList ≠ _
    rw [Position.resolveFrom_of_step (by decide) hfirst (hself path "a"),
      Position.resolveFrom_of_none (by decide) hsecond]
    exact fun hsame => nomatch hsame
  · rw [hlocators]
    decide
  · -- the other locator of the segment leads back to the root
    have hstep : made.router.step? "cd".toList = some ⟨⟨["root"]⟩, "cd", []⟩ := by
      rw [hrouter]
      decide +kernel
    rw [hlocate hspelled.2.2 (by decide)]
    change Position.resolve ⟨plan, made, path⟩ "cd" ≠ _
    rw [Position.resolve_of_last (by decide) hstep (hself path "cd")]
    intro hsame
    exact hdifferent (congrArg Position.service (Except.ok.inj hsame)).symm

/-- In the model of crossroads the segment of the locator `cd` leads where the locator `c_d` leads, and not
where `cd` itself does. -/
theorem crossroadsModel_routed : ∃ plan made reached, crossroadsModel.plan = .ok plan ∧
    Position.resolve ⟨plan, made, "shops"⟩ "cd" = .ok reached ∧
      Position.locate ⟨plan, made, "shops"⟩ "c_d" none = .ok reached ∧
        Position.locate ⟨plan, made, "shops"⟩ "cd" none ≠ .ok reached := by
  obtain ⟨hvalidate, plan, made, hplan, hmade, _, hlocators, _⟩ := crossroadsModel_plan
  have hmem : literalPlan ⟨["cd"]⟩ ⟨["inner"]⟩ ∈ made.locators := by
    rw [hlocators]
    decide
  obtain ⟨first, hfirst, hroutes⟩ := resolve_segment_eq_locate hvalidate hplan hmade hmem rfl
    (by decide) (by rw [hlocators]; decide +kernel)
  have hrouted : first = literalPlan ⟨["c", "d"]⟩ ⟨["root"]⟩ := by
    rw [ServicePlan.routed?, hlocators] at hfirst
    exact (Option.some.inj (hfirst.symm.trans (by decide +kernel)))
  obtain ⟨reached, hresolve, hthere, hown⟩ := hroutes "shops"
  refine ⟨plan, made, reached, hplan, hresolve, hthere "c_d" none ?_, ?_⟩
  · rw [hrouted]
    decide +kernel
  · rw [Ne, (hown "cd" none (by decide +kernel)).1, hrouted]
    decide

end ServiceTree
