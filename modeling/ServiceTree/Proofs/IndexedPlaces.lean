import ServiceTree.Proofs.OwnPaths

/-!
# Places by number

A client may hold the number of the service it stands at instead of the service, and read the service from the plan
whenever it is asked to move. On a plan of which nothing is known such a reading might be out of range. It never is,
since the number of the root is looked at before the client stands there, and every other number was found by the
name of a service; so the client by number does what the one that holds its service does. Following a path ends
on every plan, since the rest of the path gets shorter with every edge.
-/

namespace ServiceTree

/-- A place in a plan: the number of a service among those of the plan, and the path that leads there. There need
not be a service of that number. -/
structure Place where
  plan : ClientPlan
  index : Nat
  path : String
  deriving DecidableEq, Repr

/-- What a client may be asked for: to follow a path, or to follow a locator. -/
inductive Move where
  | resolve (path : String)
  | locate (spelling : String) (argument : Option String)
  deriving DecidableEq, Repr

/-- Where a move leads from a position. -/
def Position.move (position : Position) : Move → Except ClientError Position
  | .resolve path => position.resolve path
  | .locate spelling argument => position.locate spelling argument

namespace Place

/-- The service at a place, unless its number is out of range. -/
def service? (place : Place) : Option ServicePlan := place.plan.services[place.index]?

/-- The position of the service at a place. -/
def position? (place : Place) : Option Position :=
  place.service?.map fun service => ⟨place.plan, service, place.path⟩

/-- The place of the root of a plan. -/
def root (plan : ClientPlan) : Except ClientError Place :=
  match plan.rootService? with
  | some _ => .ok ⟨plan, plan.root, ""⟩
  | none => .error (.noSuchService "")

/-- The place of the first service of a name, if the plan has one, one segment further. -/
def child? (place : Place) (target : Name) (segment : String) : Option Place :=
  (place.plan.index? target).map fun index =>
    { place with index := index, path := joinPath place.path segment }

/-- Follow a path from a place. There is no answer if a service is read out of range. -/
def resolveFrom (place : Place) (path : List Char) : Option (Except ClientError Place) :=
  if _hne : path = [] then some (.ok place)
  else
    match place.service? with
    | none => none
    | some service =>
      match _hstep : service.router.step? path with
      | none => some (.error (.noSuchService (String.ofList path)))
      | some step =>
        match place.child? step.target step.segment with
        | none => some (.error (.noSuchService (String.ofList path)))
        | some child => child.resolveFrom step.rest
  termination_by path.length
  decreasing_by exact Router.step?_length_lt _hne _hstep

/-- Follow a locator from a place. There is no answer if the service is read out of range. -/
def locate (place : Place) (spelling : String) (argument : Option String) :
    Option (Except ClientError Place) :=
  place.service?.map fun service =>
    match service.locator? (.parse spelling) with
    | none => .error (.unknownLocator service.typeName spelling)
    | some locator => do
      match place.child? locator.target (← Position.locatorSegment locator argument) with
      | some child => .ok child
      | none => .error (.unknownLocator service.typeName spelling)

/-- Where a move leads from a place. -/
def move (place : Place) : Move → Option (Except ClientError Place)
  | .resolve path => place.resolveFrom path.toList
  | .locate spelling argument => place.locate spelling argument

/-- The places that moves lead to from the root of a plan, one after the other. -/
inductive Reached (plan : ClientPlan) : Place → Prop
  | root {place : Place} (hroot : Place.root plan = .ok place) : Reached plan place
  | moved {place child : Place} (hreached : Reached plan place) (move : Move)
      (hmove : place.move move = some (.ok child)) : Reached plan child

end Place

/-- The edge that a step takes along a path: a literal one whose segment is behind the path, or the wildcard. -/
inductive Router.StepsAlong (router : Router) (path : List Char) : RouteEdge → RouteStep → Prop
  | literal {edge : RouteEdge} {step : RouteStep} (hedge : edge ∈ router.literals)
      (hstep : edge.step? path = some step) : StepsAlong router path edge step
  | wildcard {edge : RouteEdge} (hedge : router.wildcard = some edge) :
      StepsAlong router path edge (edge.wildcardStep path)

/-- Every step takes an edge, and leads where the edge leads. -/
theorem Router.stepsAlong_of_step? {router : Router} {path : List Char} {step : RouteStep}
    (h : router.step? path = some step) :
    ∃ edge, router.StepsAlong path edge step ∧ step.target = edge.target := by
  rcases Option.or_eq_some_iff.mp h with hliteral | ⟨_, hwildcard⟩
  · obtain ⟨edge, hedge, hstep⟩ := List.exists_of_findSome?_eq_some hliteral
    obtain ⟨rest, _, rfl⟩ := Option.map_eq_some_iff.mp hstep
    exact ⟨edge, .literal hedge hstep, rfl⟩
  · obtain ⟨edge, hedge, rfl⟩ := Option.map_eq_some_iff.mp hwildcard
    exact ⟨edge, .wildcard hedge, rfl⟩

/-- What a step leaves is the end of the path. -/
theorem Router.step?_suffix {router : Router} {path : List Char} {step : RouteStep}
    (h : router.step? path = some step) : step.rest <:+ path := by
  rcases Router.step?_split h with ⟨_, hrest⟩ | hpath
  · rw [hrest]
    exact List.nil_suffix
  · rw [hpath]
    exact (List.suffix_cons '/' step.rest).trans (List.suffix_append _ _)

namespace Place

/-- The edges that are followed along a path, up to its end. -/
inductive Trail : Place → List Char → List RouteEdge → Place → Prop
  | here (place : Place) : Trail place [] [] place
  | follow {place child target : Place} {service : ServicePlan} {edge : RouteEdge} {step : RouteStep}
      {path : List Char} {edges : List RouteEdge} (hne : path ≠ [])
      (hservice : place.service? = some service) (hstep : service.router.step? path = some step)
      (hedge : service.router.StepsAlong path edge step)
      (hchild : place.child? edge.target step.segment = some child)
      (hrest : Trail child step.rest edges target) : Trail place path (edge :: edges) target

/-- What a move comes to: a path stays, leads along edges to the service that the last one names or fails with
its rest; a locator leads to the service that it names, or fails. -/
inductive Answers (place : Place) (service : ServicePlan) : Move → Except ClientError Place → Prop
  | stayed : Answers place service (.resolve "") (.ok place)
  | resolved {path : String} {edges : List RouteEdge} {edge : RouteEdge} {child : Place}
      {target : ServicePlan} (htrail : place.Trail path.toList (edges ++ [edge]) child)
      (hbound : (edges ++ [edge]).length ≤ path.length) (hplan : child.plan = place.plan)
      (htarget : child.service? = some target) (hname : target.name = edge.target) :
      Answers place service (.resolve path) (.ok child)
  | lost {path : String} {rest : List Char} (hne : rest ≠ []) (hrest : rest <:+ path.toList) :
      Answers place service (.resolve path) (.error (.noSuchService (String.ofList rest)))
  | located {spelling : String} {argument : Option String} {locator : LocatorPlan} {child : Place}
      {target : ServicePlan} (hlocator : service.locator? (.parse spelling) = some locator)
      (hplan : child.plan = place.plan) (htarget : child.service? = some target)
      (hname : target.name = locator.target) :
      Answers place service (.locate spelling argument) (.ok child)
  | unknown (spelling : String) (argument : Option String) :
      Answers place service (.locate spelling argument)
        (.error (.unknownLocator service.typeName spelling))
  | missing {spelling : String} {locator : LocatorPlan} {name : String}
      (hlocator : service.locator? (.parse spelling) = some locator)
      (hargument : locator.argument = some name) :
      Answers place service (.locate spelling none) (.error (.missingArgument locator.accessor name))

variable {place child target : Place} {service : ServicePlan} {path : List Char} {edges : List RouteEdge}

/-- A child is at the first service of the name that is looked for. -/
theorem child?_eq_some {name : Name} {segment : String} (h : place.child? name segment = some child) :
    child.plan = place.plan ∧ ∃ service, child.service? = some service ∧ service.name = name := by
  obtain ⟨index, hindex, rfl⟩ := Option.map_eq_some_iff.mp h
  obtain ⟨hrange, hname, _⟩ := List.findIdx?_eq_some_iff_getElem.mp hindex
  exact ⟨rfl, _, List.getElem?_eq_getElem hrange, of_decide_eq_true hname⟩

namespace Trail

/-- A trail has at most as many edges as its path has characters. -/
theorem length_le (h : place.Trail path edges target) : edges.length ≤ path.length := by
  induction h with
  | here place => exact Nat.le_refl _
  | follow hne _ hstep _ _ _ ih => exact Nat.succ_le_of_lt (ih.trans_lt (Router.step?_length_lt hne hstep))

/-- A trail without edges stays where it is. -/
theorem of_nil (h : place.Trail path [] target) : path = [] ∧ target = place := by
  cases h
  exact ⟨rfl, rfl⟩

/-- The end of a trail is in range, at a service with the name that its last edge leads to. -/
theorem last (h : place.Trail path edges target) :
    target.plan = place.plan ∧ ∀ edge ∈ edges.getLast?, ∃ service,
      target.service? = some service ∧ service.name = edge.target := by
  induction h with
  | here place => simp
  | @follow place child target service edge step path edges _ _ _ _ hchild hrest ih =>
    obtain ⟨hplan, hservice⟩ := child?_eq_some hchild
    refine ⟨ih.1.trans hplan, ?_⟩
    cases edges with
    | nil =>
      obtain ⟨_, rfl⟩ := hrest.of_nil
      simpa using hservice
    | cons next edges => simpa using ih.2

end Trail

/-- From a place in range a path is followed along a trail to its end, or it fails with what is left of it. -/
theorem resolveFrom_cases (hservice : place.service? = some service) (path : List Char) :
    (∃ edges child, place.resolveFrom path = some (.ok child) ∧ place.Trail path edges child) ∨
      ∃ rest, place.resolveFrom path = some (.error (.noSuchService (String.ofList rest))) ∧
        rest ≠ [] ∧ rest <:+ path := by
  fun_induction resolveFrom place path generalizing service with
  | case1 place => exact .inl ⟨[], _, rfl, .here _⟩
  | case2 place path hne hnone =>
    rw [hnone] at hservice
    cases hservice
  | case3 place path hne other hfound hstep => exact .inr ⟨path, rfl, hne, List.suffix_refl path⟩
  | case4 place path hne other hfound step hstep hlost =>
    exact .inr ⟨path, rfl, hne, List.suffix_refl path⟩
  | case5 place path hne other hfound step hstep child hchild ih =>
    obtain ⟨edge, hedge, htarget⟩ := Router.stepsAlong_of_step? hstep
    obtain ⟨_, service, hchildService, _⟩ := child?_eq_some hchild
    rcases ih hchildService with ⟨edges, target, hresolve, htrail⟩ | ⟨rest, hresolve, hleft, hrest⟩
    · exact .inl ⟨edge :: edges, target, hresolve,
        .follow hne hfound hstep hedge (htarget ▸ hchild) htrail⟩
    · exact .inr ⟨rest, hresolve, hleft, hrest.trans (Router.step?_suffix hstep)⟩

/-- From a place in range a locator is followed to where it leads, or there is none, or no argument for it. -/
theorem locate_answers (hservice : place.service? = some service) (spelling : String)
    (argument : Option String) :
    ∃ answer, place.locate spelling argument = some answer ∧
      place.Answers service (.locate spelling argument) answer := by
  rw [locate, hservice, Option.map_some]
  refine ⟨_, rfl, ?_⟩
  cases hlocator : service.locator? (.parse spelling) with
  | none => exact .unknown spelling argument
  | some locator =>
    dsimp only
    cases hsegment : Position.locatorSegment locator argument with
    | error error =>
      unfold Position.locatorSegment at hsegment
      split at hsegment
      case h_3 name hargument =>
        cases hsegment
        exact .missing hlocator hargument
      all_goals cases hsegment
    | ok segment =>
      dsimp only [bind, Except.bind]
      cases hchild : place.child? locator.target segment with
      | none => exact .unknown spelling argument
      | some child =>
        obtain ⟨hplan, target, htarget, hname⟩ := child?_eq_some hchild
        exact .located hlocator hplan htarget hname

/-- From a place in range every move has an answer. -/
theorem move_answers (hservice : place.service? = some service) (move : Move) :
    ∃ answer, place.move move = some answer ∧ place.Answers service move answer := by
  cases move with
  | locate spelling argument => exact locate_answers hservice spelling argument
  | resolve path =>
    rcases resolveFrom_cases hservice path.toList with
      ⟨edges, child, hmove, htrail⟩ | ⟨rest, hmove, hne, hrest⟩
    · refine ⟨.ok child, hmove, ?_⟩
      rcases List.eq_nil_or_concat edges with rfl | ⟨edges, edge, rfl⟩
      · obtain ⟨hempty, rfl⟩ := htrail.of_nil
        rw [String.toList_eq_nil_iff.mp hempty]
        exact .stayed
      · obtain ⟨hplan, hlast⟩ := htrail.last
        obtain ⟨target, htarget, hname⟩ := hlast edge (by simp)
        rw [List.concat_eq_append] at htrail
        exact .resolved htrail (htrail.length_le.trans_eq String.length_toList) hplan htarget hname
    · exact ⟨_, hmove, .lost hne hrest⟩

variable {position : Position}

/-- What is known of a place is known of the position of its service. -/
theorem position?_eq_some (hservice : place.service? = some service) :
    place.position? = some ⟨place.plan, service, place.path⟩ := by
  rw [position?, hservice, Option.map_some]

/-- The child by number is the child that holds its service. -/
theorem child?_position? (place : Place) (service : ServicePlan) (name : Name) (segment : String) :
    (place.child? name segment).map position? =
      (Position.child? ⟨place.plan, service, place.path⟩ name segment).map some := by
  have hlookup : place.plan.service? name =
      (place.plan.index? name).bind fun index => place.plan.services[index]? :=
    List.find?_eq_bind_findIdx?_getElem?
  rw [child?, Position.child?, hlookup]
  cases hindex : place.plan.index? name with
  | none => rfl
  | some index =>
    obtain ⟨hrange, _⟩ := List.findIdx?_eq_some_iff_getElem.mp hindex
    simp [position?, service?, List.getElem?_eq_getElem hrange]

/-- Following a path by number is following it with the service in hand. The induction is on the steps along the
path, which are the same for both. -/
theorem resolveFrom_position? (hservice : place.service? = some service) (path : List Char) :
    (place.resolveFrom path).map (Except.map position?) =
      some ((Position.resolveFrom ⟨place.plan, service, place.path⟩ path).map some) := by
  fun_induction resolveFrom place path generalizing service with
  | case1 place =>
    rw [Position.resolveFrom_nil, Option.map_some, Except.map, position?_eq_some hservice]
    rfl
  | case2 place path hne hnone =>
    rw [hnone] at hservice
    cases hservice
  | case3 place path hne other hfound hstep =>
    obtain rfl : other = service := Option.some.inj (hfound.symm.trans hservice)
    rw [Position.resolveFrom_of_none hne hstep]
    rfl
  | case4 place path hne other hfound step hstep hlost =>
    obtain rfl : other = service := Option.some.inj (hfound.symm.trans hservice)
    have hsame := child?_position? place other step.target step.segment
    rw [hlost, Option.map_none, eq_comm, Option.map_eq_none_iff] at hsame
    rw [Position.resolveFrom_of_lost hne hstep hsame]
    rfl
  | case5 place path hne other hfound step hstep child hchild ih =>
    obtain rfl : other = service := Option.some.inj (hfound.symm.trans hservice)
    obtain ⟨_, next, hnext, _⟩ := child?_eq_some hchild
    have hsame := child?_position? place other step.target step.segment
    rw [hchild, Option.map_some, position?_eq_some hnext, eq_comm, Option.map_eq_some_iff] at hsame
    obtain ⟨_, hposition, hequal⟩ := hsame
    cases hequal
    rw [Position.resolveFrom_of_step hne hstep hposition]
    exact ih hnext

/-- Following a locator by number is following it with the service in hand. -/
theorem locate_position? (hservice : place.service? = some service) (spelling : String)
    (argument : Option String) :
    (place.locate spelling argument).map (Except.map position?) =
      some ((Position.locate ⟨place.plan, service, place.path⟩ spelling argument).map some) := by
  rw [locate, hservice, Option.map_some, Option.map_some, Position.locate]
  cases service.locator? (.parse spelling) with
  | none => rfl
  | some locator =>
    dsimp only
    cases Position.locatorSegment locator argument with
    | error error => rfl
    | ok segment =>
      have hsame := child?_position? place service locator.target segment
      dsimp only [bind, Except.bind]
      cases hchild : place.child? locator.target segment with
      | none =>
        rw [hchild, Option.map_none, eq_comm, Option.map_eq_none_iff] at hsame
        rw [hsame]
        rfl
      | some child =>
        rw [hchild, Option.map_some, eq_comm, Option.map_eq_some_iff] at hsame
        obtain ⟨position, hposition, hequal⟩ := hsame
        rw [hposition, Except.map, ← hequal]
        rfl

/-- The place of the root is that of the client that holds its service. -/
theorem root_position? (plan : ClientPlan) :
    (Place.root plan).map position? = (Position.root plan).map some := by
  unfold Place.root Position.root
  cases hroot : plan.rootService? with
  | none => rfl
  | some service =>
    have hservice : plan.services[plan.root]? = some service := hroot
    simp [Except.map, position?, service?, hservice]

/-- A move by number is the move with the service in hand. -/
theorem move_position? (hservice : place.service? = some service) (move : Move) :
    (place.move move).map (Except.map position?) =
      some ((Position.move ⟨place.plan, service, place.path⟩ move).map some) := by
  cases move with
  | resolve path => exact resolveFrom_position? hservice path.toList
  | locate spelling argument => exact locate_position? hservice spelling argument

/-- Reached places are in range. The induction is on the moves: each is answered from a place that is in range, and
no answer leaves the range. -/
theorem Reached.inRange {plan : ClientPlan} {place : Place} (hreached : Reached plan place) :
    place.plan = plan ∧ ∃ service, place.service? = some service := by
  induction hreached with
  | @root place hroot =>
    unfold Place.root at hroot
    split at hroot
    case h_1 service hservice =>
      cases hroot
      exact ⟨rfl, service, hservice⟩
    case h_2 => cases hroot
  | @moved place child _ move hmove ih =>
    obtain ⟨hplan, service, hservice⟩ := ih
    obtain ⟨answer, hanswer, hanswers⟩ := move_answers hservice move
    rw [hmove] at hanswer
    cases hanswer
    cases hanswers with
    | stayed => exact ⟨hplan, service, hservice⟩
    | resolved _ _ hchild htarget _ => exact ⟨hchild.trans hplan, _, htarget⟩
    | located _ hchild htarget _ => exact ⟨hchild.trans hplan, _, htarget⟩

end Place

/-- On any plan, moves from the root only reach services in range, and every further move is answered as by the
client that holds the service, from the same root on. -/
theorem reached_safe {plan : ClientPlan} {place : Place} (hreached : Place.Reached plan place) :
    (Place.root plan).map Place.position? = (Position.root plan).map some ∧
    place.plan = plan ∧ place.index < plan.services.length ∧ ∃ service, place.service? = some service ∧
      ∀ move, ∃ answer, place.move move = some answer ∧ place.Answers service move answer ∧
        answer.map Place.position? = (Position.move ⟨plan, service, place.path⟩ move).map some := by
  obtain ⟨rfl, service, hservice⟩ := hreached.inRange
  obtain ⟨hrange, _⟩ := List.getElem?_eq_some_iff.mp hservice
  refine ⟨Place.root_position? _, rfl, hrange, service, hservice, fun move => ?_⟩
  obtain ⟨answer, hanswer, hanswers⟩ := Place.move_answers hservice move
  have hsame := Place.move_position? hservice move
  rw [hanswer, Option.map_some] at hsame
  exact ⟨answer, hanswer, hanswers, Option.some.inj hsame⟩

/-- An edge between services that are named by one word each. -/
def wordEdge (locator segment target : String) : RouteEdge := ⟨⟨[locator]⟩, segment, ⟨[target]⟩⟩

/-- The root of the tangled plan. -/
def tangledRoot : ServicePlan :=
  ⟨⟨["root"]⟩, "RootService", none, none, [], [],
    ⟨[wordEdge "again" "" "root", wordEdge "first" "a/b" "shelf"], none⟩⟩

/-- A plan in which two services have one name, edges lead back or to no service at all, segments are empty or hold
a slash, and no edge has a locator. -/
def tangledPlan : ClientPlan where
  name := "Shop"
  root := 1
  services := [
    ⟨⟨["shelf"]⟩, "ShelfService", none, none, [], [],
      ⟨[wordEdge "again" "" "shelf", wordEdge "lost" "a/b" "nowhere"], some (wordEdge "box" "" "root")⟩⟩,
    tangledRoot,
    ⟨⟨["shelf"]⟩, "OtherService", none, none, [], [], ⟨[], none⟩⟩]

/-- In the tangled plan the path `/a/b//x` leads from the root over the first shelf back to the root, and from there
`/a/b/a/b` fails with `a/b`, for which the shelf has an edge to no service. -/
theorem tangledPlan_reached :
    Place.Reached tangledPlan ⟨tangledPlan, 1, "a/b//x"⟩ ∧ 1 < tangledPlan.services.length ∧
      ∃ answer, Place.move ⟨tangledPlan, 1, "a/b//x"⟩ (.resolve "/a/b/a/b") = some answer ∧
        Place.Answers ⟨tangledPlan, 1, "a/b//x"⟩ tangledRoot (.resolve "/a/b/a/b") answer ∧
          answer.map Place.position? = .error (.noSuchService "a/b") := by
  have hroot : Place.root tangledPlan = .ok ⟨tangledPlan, 1, ""⟩ := rfl
  have hmove : Place.move ⟨tangledPlan, 1, ""⟩ (.resolve "/a/b//x") =
      some (.ok ⟨tangledPlan, 1, "a/b//x"⟩) := by decide +kernel
  have hreached : Place.Reached tangledPlan ⟨tangledPlan, 1, "a/b//x"⟩ := .moved (.root hroot) _ hmove
  have hlost : Position.move ⟨tangledPlan, tangledRoot, "a/b//x"⟩ (.resolve "/a/b/a/b") =
      .error (.noSuchService "a/b") := by decide +kernel
  obtain ⟨_, _, hrange, service, hservice, hsafe⟩ := reached_safe hreached
  obtain rfl : tangledRoot = service := Option.some.inj hservice
  obtain ⟨answer, hanswer, hanswers, hsame⟩ := hsafe (.resolve "/a/b/a/b")
  rw [hlost] at hsame
  exact ⟨hreached, hrange, answer, hanswer, hanswers, hsame⟩

end ServiceTree
