import ServiceTree.Proofs.EmittedServices
import ServiceTree.Proofs.PathSteps

/-!
# Emitted resolvers

An emitted resolver calls accessors by name, an interpreted one follows the edges of the plan. From
corresponding places both take the same step, to corresponding children and with the same rest of the
path left; since the rest gets shorter, both end at corresponding places or fail at the same point.
-/

namespace ServiceTree

/-- The segment that the accessor of a locator appends, given the argument it is called with. -/
inductive LocatorPlan.Appends (locator : LocatorPlan) : Option String → String → Prop
  | fixed (hliteral : locator.argument = none) : Appends locator none locator.segment
  | given (hwildcard : locator.argument.isSome) (segment : String) :
      Appends locator (some segment) segment

/-- The emitted form of a step: the accessor of the same locator is called, and the child returned if nothing of
the path is left, or else asked to resolve the rest. -/
inductive StepOf (service : ServicePlan) : RouteStep → Resolved → Prop
  | last {locator : LocatorPlan} {accessor : Identifier} {argument : Option String} {segment : String}
      (hlocator : locator ∈ service.locators)
      (haccessor : Identifier.escaped locator.accessor = .ok accessor)
      (hsegment : locator.Appends argument segment) :
      StepOf service ⟨locator.target, segment, []⟩ (.child accessor argument)
  | inner {locator : LocatorPlan} {accessor : Identifier} {argument : Option String}
      {segment : String} (hlocator : locator ∈ service.locators)
      (haccessor : Identifier.escaped locator.accessor = .ok accessor)
      (hsegment : locator.Appends argument segment) (rest : List Char) :
      StepOf service ⟨locator.target, segment, rest⟩ (.descend accessor argument rest)

/-- The branch that is emitted for a literal edge of a service. -/
structure BranchOf (service : ServicePlan) (edge : RouteEdge) (branch : LiteralBranch) : Prop where
  segment : branch.segment = edge.segment
  locator : ∃ locator ∈ service.locators, locator.argument = none ∧ edge = locator.edge ∧
    Identifier.escaped locator.accessor = .ok branch.accessor

namespace BranchOf

variable {service : ServicePlan}

/-- A branch fits a path exactly if its edge does, and then takes the same step. -/
theorem run? {edge : RouteEdge} {branch : LiteralBranch} (h : BranchOf service edge branch)
    (path : List Char) :
    (edge.step? path = none ∧ branch.run? path = none) ∨
      ∃ step resolved, edge.step? path = some step ∧ branch.run? path = some resolved ∧
        StepOf service step resolved := by
  obtain ⟨locator, hlocator, hliteral, rfl, haccessor⟩ := h.locator
  simp only [RouteEdge.step?, LiteralBranch.run?, restBehind?, h.segment]
  split
  · exact .inr ⟨_, _, rfl, rfl, .last hlocator haccessor (.fixed hliteral)⟩
  · split
    · right
      refine ⟨_, _, rfl, rfl, ?_⟩
      rw [List.length_append]
      exact .inner hlocator haccessor (.fixed hliteral) _
    · exact .inl ⟨rfl, rfl⟩

/-- The first branch that fits is that of the first edge that fits. -/
theorem findSome? {edges : List RouteEdge} {branches : List LiteralBranch}
    (h : List.Forall₂ (BranchOf service) edges branches) (path : List Char) :
    ((edges.findSome? fun edge => edge.step? path) = none ∧
      (branches.findSome? fun branch => branch.run? path) = none) ∨
    ∃ step resolved, (edges.findSome? fun edge => edge.step? path) = some step ∧
      (branches.findSome? fun branch => branch.run? path) = some resolved ∧
      StepOf service step resolved := by
  induction h with
  | nil => exact .inl ⟨rfl, rfl⟩
  | cons hfirst _ ih =>
    rw [List.findSome?_cons, List.findSome?_cons]
    rcases hfirst.run? path with ⟨hedge, hbranch⟩ | ⟨step, resolved, hedge, hbranch, hstep⟩
    · rw [hedge, hbranch]
      exact ih
    · rw [hedge, hbranch]
      exact .inr ⟨step, resolved, rfl, rfl, hstep⟩

/-- Every edge that has a branch keeps it when the edges without are left out. -/
theorem filterMap {edges : List RouteEdge} {branches : List (Option LiteralBranch)}
    (h : List.Forall₂ (fun edge branch? => ∃ branch, branch? = some branch ∧
      BranchOf service edge branch) edges branches) :
    List.Forall₂ (BranchOf service) edges (branches.filterMap id) := by
  induction h with
  | nil => exact .nil
  | cons hfirst _ ih =>
    obtain ⟨branch, rfl, hbranch⟩ := hfirst
    exact .cons hbranch ih

end BranchOf

/-- The code behind all branches takes the step of the wildcard edge. -/
theorem wildcardRun_stepOf {service : ServicePlan} {locator : LocatorPlan} {accessor : Identifier}
    (hlocator : locator ∈ service.locators)
    (haccessor : Identifier.escaped locator.accessor = .ok accessor)
    (hwildcard : locator.argument.isSome) (path : List Char) :
    StepOf service (locator.edge.wildcardStep path) (wildcardRun (some accessor) path) := by
  simp only [wildcardRun, RouteEdge.wildcardStep]
  split
  case isTrue hslash => exact .inner hlocator haccessor (.given hwildcard _) _
  case isFalse hslash =>
    rw [splitSegment_self (by simpa using hslash)]
    exact .last hlocator haccessor (.given hwildcard _)

/-- What the code of a resolver consists of. -/
theorem ResolverCode.ofPlan_eq_ok {service : ServicePlan} {resolver : ResolverCode}
    (h : ofPlan service = .ok resolver) :
    (∃ branches, service.router.literals.mapM (branch? service) = .ok branches ∧
      resolver.literals = branches.filterMap id) ∧
    (service.router.wildcard = none → resolver.wildcard = none) ∧
    ∀ edge, service.router.wildcard = some edge →
      accessor? service edge = .ok resolver.wildcard := by
  obtain ⟨variant, _, h⟩ := Outcome.bind_eq_ok.mp h
  obtain ⟨branches, hbranches, h⟩ := Outcome.bind_eq_ok.mp h
  dsimp only at h
  cases hwildcard : service.router.wildcard with
  | none =>
    rw [hwildcard] at h
    cases h
    exact ⟨⟨branches, hbranches, rfl⟩, fun _ => rfl, by simp⟩
  | some edge =>
    rw [hwildcard] at h
    obtain ⟨accessor?, haccessor, h⟩ := Outcome.bind_eq_ok.mp h
    cases h
    refine ⟨⟨branches, hbranches, rfl⟩, by simp, ?_⟩
    intro other hother
    cases hother
    exact haccessor

/-- What resolvers rely on in a service of a plan: its edges are those of its locators, which differ in
name, and these lead to services of the plan. -/
structure Routable (plan : ClientPlan) (service : ServicePlan) : Prop where
  names : (service.locators.map LocatorPlan.name).Nodup
  accessors : ∀ locator ∈ service.locators, locator.accessor = locator.name.accessor
  literals : ∀ edge ∈ service.router.literals, ∃ locator ∈ service.locators,
    locator.argument = none ∧ edge = locator.edge
  wildcard : ∀ edge, service.router.wildcard = some edge → ∃ locator ∈ service.locators,
    locator.argument.isSome ∧ edge = locator.edge
  targets : ∀ locator ∈ service.locators, ∃ target ∈ plan.services,
    plan.service? locator.target = some target ∧ target.typeName = locator.targetType

namespace Routable

variable {plan : ClientPlan} {service : ServicePlan} {resolver : ResolverCode}

/-- The accessor for the edge of a locator is that of the locator. -/
theorem accessor?_edge (h : Routable plan service) {locator : LocatorPlan}
    (hlocator : locator ∈ service.locators) :
    ResolverCode.accessor? service locator.edge = (Identifier.escaped locator.accessor).map some := by
  have hfound : service.locator? locator.edge.locator = some locator :=
    (find?_eq_some_iff_mem h.names _ _).mpr ⟨hlocator, rfl⟩
  rw [ResolverCode.accessor?, hfound]

/-- The emitted resolver has a branch for each literal edge. -/
theorem branches (h : Routable plan service) (hresolver : ResolverCode.ofPlan service = .ok resolver) :
    List.Forall₂ (BranchOf service) service.router.literals resolver.literals := by
  obtain ⟨⟨branches, hbranches, hliterals⟩, _⟩ := ResolverCode.ofPlan_eq_ok hresolver
  rw [hliterals]
  apply BranchOf.filterMap
  refine ((List.forall₂_and_left _ _).mpr ⟨h.literals, Outcome.mapM_eq_ok.mp hbranches⟩).imp ?_
  rintro edge branch? ⟨⟨locator, hlocator, hliteral, rfl⟩, hbranch⟩
  rw [ResolverCode.branch?, h.accessor?_edge hlocator] at hbranch
  obtain ⟨accessor?, haccessor, hbranch⟩ := Outcome.bind_eq_ok.mp hbranch
  obtain ⟨accessor, hescaped, rfl⟩ := Outcome.map_eq_ok.mp haccessor
  cases hbranch
  exact ⟨_, rfl, rfl, locator, hlocator, hliteral, rfl, hescaped⟩

/-- The emitted resolver calls the accessor of the wildcard edge, if there is one. -/
theorem wildcard_accessor (h : Routable plan service)
    (hresolver : ResolverCode.ofPlan service = .ok resolver) :
    (service.router.wildcard = none ∧ resolver.wildcard = none) ∨
      ∃ locator ∈ service.locators, ∃ accessor, locator.argument.isSome ∧
        service.router.wildcard = some locator.edge ∧ resolver.wildcard = some accessor ∧
        Identifier.escaped locator.accessor = .ok accessor := by
  obtain ⟨_, hnone, hsome⟩ := ResolverCode.ofPlan_eq_ok hresolver
  cases hedge : service.router.wildcard with
  | none => exact .inl ⟨rfl, hnone hedge⟩
  | some edge =>
    obtain ⟨locator, hlocator, hargument, rfl⟩ := h.wildcard edge hedge
    have hwildcard := hsome _ hedge
    rw [h.accessor?_edge hlocator] at hwildcard
    obtain ⟨accessor, haccessor, hwildcard⟩ := Outcome.map_eq_ok.mp hwildcard
    exact .inr ⟨locator, hlocator, accessor, hargument, rfl, hwildcard.symm, haccessor⟩

/-- At each service the emitted resolver takes the step of the interpreted one, or both find none. -/
theorem run_stepOf (h : Routable plan service)
    (hresolver : ResolverCode.ofPlan service = .ok resolver) (path : List Char) :
    (service.router.step? path = none ∧ resolver.run path = .missing) ∨
      ∃ step, service.router.step? path = some step ∧ StepOf service step (resolver.run path) := by
  unfold Router.step? ResolverCode.run
  rcases BranchOf.findSome? (h.branches hresolver) path with
    ⟨hedge, hbranch⟩ | ⟨step, resolved, hedge, hbranch, hstep⟩
  · rw [hedge, hbranch, Option.none_or]
    rcases h.wildcard_accessor hresolver with
      ⟨hnone, hcode⟩ | ⟨locator, hlocator, accessor, hargument, hsome, hcode, haccessor⟩
    · rw [hnone, hcode]
      exact .inl ⟨rfl, rfl⟩
    · rw [hsome, hcode]
      exact .inr ⟨_, rfl, wildcardRun_stepOf hlocator haccessor hargument path⟩
  · rw [hedge, hbranch, Option.some_or]
    exact .inr ⟨step, rfl, hstep⟩

end Routable

namespace ClientCode

variable {client : ClientCode} {handle child : Handle} {path rest : List Char}
  {accessor : Identifier} {argument : Option String}

/-- Nothing is left to resolve at the end of a path. -/
theorem resolveFrom_nil : client.resolveFrom handle [] = some (.ok handle) := by
  rw [resolveFrom, if_pos rfl]

/-- Where no code fits, the rest of the path is reported. -/
theorem resolveFrom_of_missing (hne : path ≠ [])
    (hrun : handle.service.resolver.run path = .missing) :
    client.resolveFrom handle path = some (.error (.noSuchService (String.ofList path))) := by
  rw [resolveFrom, if_neg hne]
  split <;> simp_all

/-- A path that is left at a child ends there. -/
theorem resolveFrom_of_child (hne : path ≠ [])
    (hrun : handle.service.resolver.run path = .child accessor argument)
    (haccess : client.access? handle accessor argument = some child) :
    client.resolveFrom handle path = some (.ok child) := by
  rw [resolveFrom, if_neg hne]
  split <;> simp_all

/-- A path that goes on is resolved from the child. -/
theorem resolveFrom_of_descend (hne : path ≠ [])
    (hrun : handle.service.resolver.run path = .descend accessor argument rest)
    (haccess : client.access? handle accessor argument = some child) :
    client.resolveFrom handle path = client.resolveFrom child rest := by
  rw [resolveFrom, if_neg hne]
  split <;> simp_all

end ClientCode

/-- A place in the tree and the instance of emitted code that stands there. -/
structure Mirrors (plan : ClientPlan) (position : Position) (handle : Handle) : Prop where
  plan_eq : position.plan = plan
  mem : position.service ∈ plan.services
  code : ServiceCode.ofPlan position.service = .ok handle.service
  path_eq : handle.path = position.path

/-- Two resolvers end alike if both reach the same place, or both fail with the same rest of the
path. -/
inductive ResolvesAlike (plan : ClientPlan) :
    Except ClientError Position → Option (Except ClientError Handle) → Prop
  | found {position : Position} {handle : Handle} (h : Mirrors plan position handle) :
      ResolvesAlike plan (.ok position) (some (.ok handle))
  | missing (rest : String) :
      ResolvesAlike plan (.error (.noSuchService rest)) (some (.error (.noSuchService rest)))

namespace Mirrors

variable {plan : ClientPlan} {client : ClientCode} {position : Position} {handle : Handle}

/-- The accessor of a locator makes the instance that stands at the child. -/
theorem access? (h : Mirrors plan position handle) (hclient : ClientCode.ofPlan plan = .ok client)
    (htypes : (plan.services.map ServicePlan.typeName).Nodup)
    (hroutable : ∀ service ∈ plan.services, Routable plan service) {locator : LocatorPlan}
    (hlocator : locator ∈ position.service.locators) {accessor : Identifier}
    (haccessor : Identifier.escaped locator.accessor = .ok accessor) {argument : Option String}
    {segment : String} (hsegment : locator.Appends argument segment) :
    ∃ child made, position.child? locator.target segment = some child ∧
      client.access? handle accessor argument = some made ∧ Mirrors plan child made := by
  have hroutes := hroutable _ h.mem
  have hemitted := EmittedFrom.of_ofPlan h.code
  obtain ⟨member, hmember, hcode⟩ := Outcome.exists_of_mem_left hemitted.accessors hlocator
  obtain ⟨hname, htarget, happends⟩ := AccessorCode.ofPlan_eq_ok hcode
  rw [haccessor] at hname
  cases hname
  have hfound : (handle.service.accessors.find? fun other => other.name = member.name) =
      some member :=
    (find?_eq_some_iff_mem (hemitted.accessors_nodup hroutes.accessors) _ _).mpr ⟨hmember, rfl⟩
  obtain ⟨target, hmem, hservice, htype⟩ := hroutes.targets locator hlocator
  rw [← htype] at htarget
  obtain ⟨code, hfoundCode, htargetCode⟩ :=
    ClientCode.service?_of_mem hclient htypes hmem htarget
  -- the accessor appends the segment of the locator, or its argument
  have hfollow : client.follow? handle member argument =
      some ⟨code, joinPath handle.path segment⟩ := by
    cases hsegment with
    | fixed hliteral =>
      rw [AccessorCode.segmentOfPlan, hliteral] at happends
      simp only [ClientCode.follow?, ← Except.ok.inj happends, hfoundCode, Option.map_some]
    | given hwildcard segment =>
      obtain ⟨name, hargument⟩ := Option.isSome_iff_exists.mp hwildcard
      rw [AccessorCode.segmentOfPlan, hargument] at happends
      obtain ⟨identifier, _, happends⟩ := Outcome.map_eq_ok.mp happends
      simp only [ClientCode.follow?, ← happends, hfoundCode, Option.map_some]
  refine ⟨⟨position.plan, target, joinPath position.path segment⟩,
    ⟨code, joinPath handle.path segment⟩, ?_, ?_, ⟨h.plan_eq, hmem, htargetCode, ?_⟩⟩
  · rw [Position.child?, h.plan_eq, hservice]
    rfl
  · rw [ClientCode.access?, hfound, Option.bind_some, hfollow]
  · rw [h.path_eq]

/-- From corresponding places the emitted resolver ends as the interpreted one. -/
theorem resolveFrom (h : Mirrors plan position handle) (hclient : ClientCode.ofPlan plan = .ok client)
    (htypes : (plan.services.map ServicePlan.typeName).Nodup)
    (hroutable : ∀ service ∈ plan.services, Routable plan service) (path : List Char) :
    ResolvesAlike plan (position.resolveFrom path) (client.resolveFrom handle path) := by
  induction hlength : path.length using Nat.strong_induction_on
    generalizing position handle path with
  | _ length ih =>
    by_cases hne : path = []
    · rw [hne, Position.resolveFrom_nil, ClientCode.resolveFrom_nil]
      exact .found h
    · have hresolver := (EmittedFrom.of_ofPlan h.code).resolver
      rcases (hroutable _ h.mem).run_stepOf hresolver path with
        ⟨hnone, hmissing⟩ | ⟨step, hstep, hstepOf⟩
      · rw [Position.resolveFrom_of_none hne hnone, ClientCode.resolveFrom_of_missing hne hmissing]
        exact .missing _
      · -- what the code does is fixed by the step, and the rest it leaves is shorter
        generalize hrun : handle.service.resolver.run path = resolved at hstepOf
        cases hstepOf with
        | last hlocator haccessor hsegment =>
          obtain ⟨child, made, hchild, haccess, hmirrors⟩ :=
            h.access? hclient htypes hroutable hlocator haccessor hsegment
          rw [Position.resolveFrom_of_step hne hstep hchild, Position.resolveFrom_nil,
            ClientCode.resolveFrom_of_child hne hrun haccess]
          exact .found hmirrors
        | inner hlocator haccessor hsegment rest =>
          obtain ⟨child, made, hchild, haccess, hmirrors⟩ :=
            h.access? hclient htypes hroutable hlocator haccessor hsegment
          have hshorter : rest.length < length := by
            rw [← hlength]
            exact Router.step?_length_lt hne hstep
          rw [Position.resolveFrom_of_step hne hstep hchild,
            ClientCode.resolveFrom_of_descend hne hrun haccess]
          exact ih rest.length hshorter hmirrors rest rfl

end Mirrors

end ServiceTree
