import ServiceTree.Client.Position

/-!
# Resolving paths

A path is followed edge by edge. At each service the literal edges are tried in order, each against
the whole path and against its front up to a slash; failing these, the wildcard takes everything up to
the first slash as its argument. What is left of the path gets shorter with every step, so that
resolving ends on any plan.
-/

namespace ServiceTree

/-- A step to a child: where it leads, the segment it appends, and what is left of the path. -/
structure RouteStep where
  target : Name
  segment : String
  rest : List Char
  deriving DecidableEq, Repr

/-- What is left of a path behind a segment that is the whole of it, or its front up to a slash. -/
def restBehind? (segment path : List Char) : Option (List Char) :=
  if path = segment then some []
  else if (segment ++ ['/']).isPrefixOf path then some (path.drop (segment.length + 1))
  else none

/-- The front of a path up to its first slash, and what is left behind it. -/
def splitSegment (path : List Char) : List Char × List Char :=
  (path.takeWhile (· ≠ '/'), (path.dropWhile (· ≠ '/')).drop 1)

/-- The step along a literal edge, if the edge fits the path. -/
def RouteEdge.step? (edge : RouteEdge) (path : List Char) : Option RouteStep :=
  (restBehind? edge.segment.toList path).map fun rest => ⟨edge.target, edge.segment, rest⟩

/-- The step along a wildcard edge. -/
def RouteEdge.wildcardStep (edge : RouteEdge) (path : List Char) : RouteStep :=
  ⟨edge.target, String.ofList (splitSegment path).1, (splitSegment path).2⟩

/-- The step that a service takes along a path. -/
def Router.step? (router : Router) (path : List Char) : Option RouteStep :=
  (router.literals.findSome? fun edge => edge.step? path).or
    (router.wildcard.map fun edge => edge.wildcardStep path)

/-- A literal segment leaves less than the path. -/
theorem restBehind?_length_lt {segment path rest : List Char} (hne : path ≠ [])
    (h : restBehind? segment path = some rest) : rest.length < path.length := by
  have hpos : 0 < path.length := List.length_pos_iff.2 hne
  unfold restBehind? at h
  split at h
  · cases h
    simpa using hpos
  · split at h
    · cases h
      rw [List.length_drop]
      omega
    · cases h

/-- A wildcard leaves less than the path. -/
theorem splitSegment_length_lt {path : List Char} (hne : path ≠ []) :
    (splitSegment path).2.length < path.length := by
  have hpos : 0 < path.length := List.length_pos_iff.2 hne
  have hdrop : (path.dropWhile (· ≠ '/')).length ≤ path.length :=
    (List.dropWhile_suffix _).length_le
  simp only [splitSegment, List.length_drop]
  omega

/-- Every step leaves less than the path. -/
theorem Router.step?_length_lt {router : Router} {path : List Char} {step : RouteStep}
    (hne : path ≠ []) (h : router.step? path = some step) : step.rest.length < path.length := by
  unfold Router.step? at h
  rcases Option.or_eq_some_iff.1 h with hliteral | ⟨_, hwildcard⟩
  · obtain ⟨edge, _, hedge⟩ := List.exists_of_findSome?_eq_some hliteral
    obtain ⟨rest, hrest, rfl⟩ := Option.map_eq_some_iff.1 hedge
    exact restBehind?_length_lt hne hrest
  · obtain ⟨edge, _, rfl⟩ := Option.map_eq_some_iff.1 hwildcard
    exact splitSegment_length_lt hne

namespace Position

/-- Follow a path from a position. A path that leads nowhere is reported from where it was left. -/
def resolveFrom (position : Position) (path : List Char) : Except ClientError Position :=
  if _hne : path = [] then .ok position
  else
    match _hstep : position.service.router.step? path with
    | none => .error (.noSuchService (String.ofList path))
    | some step =>
      match position.child? step.target step.segment with
      | none => .error (.noSuchService (String.ofList path))
      | some child => child.resolveFrom step.rest
  termination_by path.length
  decreasing_by exact Router.step?_length_lt _hne _hstep

/-- The service that a path leads to. -/
def resolve (position : Position) (path : String) : Except ClientError Position :=
  position.resolveFrom path.toList

/-- The segment that a locator appends, given the caller's argument. -/
def locatorSegment (locator : LocatorPlan) (argument : Option String) : Except ClientError String :=
  match locator.argument, argument with
  | none, _ => .ok locator.segment
  | some _, some text => .ok text
  | some name, none => .error (.missingArgument locator.accessor name)

/-- The service behind a locator. A locator without argument ignores the one it is given. -/
def locate (position : Position) (spelling : String) (argument : Option String) :
    Except ClientError Position :=
  match position.service.locator? (.parse spelling) with
  | none => .error (.unknownLocator position.typeName spelling)
  | some locator => do
    match position.child? locator.target (← locatorSegment locator argument) with
    | some child => .ok child
    | none => .error (.unknownLocator position.typeName spelling)

end Position

end ServiceTree
