import Mathlib.Data.List.TakeWhile
import ServiceTree.Client.Resolution

/-!
# Steps along a path

Edges are matched against the front of a path, character by character. Where no literal segment holds a
slash, this comes to the same as cutting the first segment off the path and looking it up: the first
literal edge of that segment is taken, or else the wildcard edge.
-/

namespace ServiceTree

/-- Without a slash a path is one segment, with nothing left behind it. -/
theorem splitSegment_self {segment : List Char} (hslash : '/' ∉ segment) :
    splitSegment segment = (segment, []) := by
  have hall : ∀ c ∈ segment, decide (c ≠ '/') = true := by
    intro c hc
    rw [decide_eq_true_eq]
    rintro rfl
    exact hslash hc
  rw [splitSegment, List.takeWhile_eq_self_iff.mpr hall, List.dropWhile_eq_nil_iff.mpr hall]
  rfl

/-- The first slash ends the first segment. -/
theorem splitSegment_append {segment : List Char} (hslash : '/' ∉ segment) (rest : List Char) :
    splitSegment (segment ++ '/' :: rest) = (segment, rest) := by
  have hall : ∀ c ∈ segment, decide (c ≠ '/') = true := by
    intro c hc
    rw [decide_eq_true_eq]
    rintro rfl
    exact hslash hc
  rw [splitSegment, List.takeWhile_append_of_pos hall, List.dropWhile_append_of_pos hall]
  simp

/-- A path is its first segment alone, or that and a slash with the rest behind it. -/
theorem splitSegment_cases (path : List Char) :
    (path = (splitSegment path).1 ∧ (splitSegment path).2 = []) ∨
      path = (splitSegment path).1 ++ '/' :: (splitSegment path).2 := by
  have hsplit := List.takeWhile_append_dropWhile (p := fun c => decide (c ≠ '/')) (l := path)
  cases hrest : path.dropWhile fun c => decide (c ≠ '/') with
  | nil =>
    left
    rw [hrest, List.append_nil] at hsplit
    simp only [splitSegment, hrest]
    exact ⟨hsplit.symm, rfl⟩
  | cons c rest =>
    right
    have hc : c = '/' := by
      have hhead := List.head_dropWhile_not (fun c => decide (c ≠ '/')) (l := path)
        (by rw [hrest]; exact List.cons_ne_nil c rest)
      simpa only [hrest, List.head_cons, decide_eq_false_iff_not, not_not] using hhead
    rw [hrest, hc] at hsplit
    simp only [splitSegment, hrest]
    exact hsplit.symm

/-- A segment without a slash is behind us exactly if it is the first one of the path. -/
theorem restBehind?_eq {segment : List Char} (hslash : '/' ∉ segment) (path : List Char) :
    restBehind? segment path =
      if (splitSegment path).1 = segment then some (splitSegment path).2 else none := by
  rw [restBehind?]
  split
  case isTrue hwhole => rw [hwhole, splitSegment_self hslash, if_pos rfl]
  case isFalse hwhole =>
    split
    case isTrue hfront =>
      obtain ⟨rest, rfl⟩ := List.isPrefixOf_iff_prefix.mp hfront
      rw [List.append_assoc, List.singleton_append, splitSegment_append hslash, if_pos rfl]
      simp
    case isFalse hfront =>
      rw [if_neg]
      rintro rfl
      rcases splitSegment_cases path with ⟨hpath, _⟩ | hpath
      · exact hwhole hpath
      · rw [List.isPrefixOf_iff_prefix] at hfront
        exact hfront ⟨(splitSegment path).2, by simpa using hpath.symm⟩

/-- The edge of a segment: the first literal edge that has it, or else the wildcard edge. -/
def Router.edge? (router : Router) (segment : List Char) : Option RouteEdge :=
  (router.literals.find? fun edge => edge.segment.toList = segment).or router.wildcard

/-- Among edges whose segments hold no slash, the first one that fits a path is the first one of its
first segment. -/
theorem literalStep?_eq {edges : List RouteEdge}
    (hslash : ∀ edge ∈ edges, '/' ∉ edge.segment.toList) (path : List Char) :
    (edges.findSome? fun edge => edge.step? path) =
      (edges.find? fun edge => edge.segment.toList = (splitSegment path).1).map fun edge =>
        ⟨edge.target, String.ofList (splitSegment path).1, (splitSegment path).2⟩ := by
  induction edges with
  | nil => rfl
  | cons edge rest ih =>
    have hfirst := restBehind?_eq (hslash edge List.mem_cons_self) path
    have hothers := ih fun other hother => hslash other (List.mem_cons_of_mem edge hother)
    rw [List.findSome?_cons, List.find?_cons, RouteEdge.step?, hfirst]
    by_cases hsegment : (splitSegment path).1 = edge.segment.toList
    · simp [hsegment]
    · simpa [hsegment, Ne.symm hsegment] using hothers

/-- Where no literal segment holds a slash, the step along a path is decided by its first segment. -/
theorem Router.step?_eq {router : Router}
    (hslash : ∀ edge ∈ router.literals, '/' ∉ edge.segment.toList) (path : List Char) :
    router.step? path = (router.edge? (splitSegment path).1).map fun edge =>
      ⟨edge.target, String.ofList (splitSegment path).1, (splitSegment path).2⟩ := by
  rw [Router.step?, literalStep?_eq hslash, Router.edge?]
  cases router.literals.find? fun edge => edge.segment.toList = (splitSegment path).1 with
  | none => rfl
  | some edge => rfl

namespace Position

variable {position child : Position} {path : List Char} {step : RouteStep}

/-- Nothing is left to follow at the end of a path. -/
theorem resolveFrom_nil : position.resolveFrom [] = .ok position := by
  rw [resolveFrom, dif_pos rfl]

/-- Where there is no step to take, the rest of the path is reported. -/
theorem resolveFrom_of_none (hne : path ≠ []) (hstep : position.service.router.step? path = none) :
    position.resolveFrom path = .error (.noSuchService (String.ofList path)) := by
  rw [resolveFrom, dif_neg hne]
  split
  case h_1 => rfl
  case h_2 _ hsome =>
    rw [hstep] at hsome
    cases hsome

/-- A step to a service that is not there is reported like a missing one. -/
theorem resolveFrom_of_lost (hne : path ≠ [])
    (hstep : position.service.router.step? path = some step)
    (hchild : position.child? step.target step.segment = none) :
    position.resolveFrom path = .error (.noSuchService (String.ofList path)) := by
  rw [resolveFrom, dif_neg hne]
  split
  case h_1 => rfl
  case h_2 other hsome =>
    rw [hstep] at hsome
    cases hsome
    rw [hchild]

/-- A path is followed from the child that its first step leads to. -/
theorem resolveFrom_of_step (hne : path ≠ [])
    (hstep : position.service.router.step? path = some step)
    (hchild : position.child? step.target step.segment = some child) :
    position.resolveFrom path = child.resolveFrom step.rest := by
  rw [resolveFrom, dif_neg hne]
  split
  case h_1 hnone =>
    rw [hstep] at hnone
    cases hnone
  case h_2 other hsome =>
    rw [hstep] at hsome
    cases hsome
    rw [hchild]

/-- The child that a segment leads to. -/
def enter? (position : Position) (segment : List Char) : Option Position :=
  (position.service.router.edge? segment).bind fun edge =>
    position.child? edge.target (String.ofList segment)

/-- Entering a segment appends it to the path and stays among the services of the plan. -/
theorem enter?_eq_some {segment : List Char} (h : position.enter? segment = some child) :
    child.plan = position.plan ∧ child.service ∈ position.plan.services ∧
      child.path = joinPath position.path (String.ofList segment) := by
  obtain ⟨edge, _, hchild⟩ := Option.bind_eq_some_iff.mp h
  obtain ⟨service, hservice, rfl⟩ := Option.map_eq_some_iff.mp hchild
  exact ⟨rfl, List.mem_of_find?_eq_some hservice, rfl⟩

/-- Where no literal segment holds a slash, a path is followed segment by segment. -/
theorem resolveFrom_eq (hslash : ∀ edge ∈ position.service.router.literals, '/' ∉ edge.segment.toList)
    (hne : path ≠ []) :
    position.resolveFrom path =
      match position.enter? (splitSegment path).1 with
      | some child => child.resolveFrom (splitSegment path).2
      | none => .error (.noSuchService (String.ofList path)) := by
  have hstep := Router.step?_eq hslash path
  cases hedge : position.service.router.edge? (splitSegment path).1 with
  | none =>
    rw [hedge, Option.map_none] at hstep
    rw [resolveFrom_of_none hne hstep, enter?, hedge]
    rfl
  | some edge =>
    rw [hedge, Option.map_some] at hstep
    rw [enter?, hedge, Option.bind_some]
    cases hchild : position.child? edge.target (String.ofList (splitSegment path).1) with
    | none => exact resolveFrom_of_lost hne hstep hchild
    | some child => exact resolveFrom_of_step hne hstep hchild

end Position

end ServiceTree
