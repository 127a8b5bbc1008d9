import ServiceTree.Proofs.PathSteps
import ServiceTree.Proofs.PlanInvariants
import ServiceTree.Text.Split

/-!
# Paths one after the other

Resolving a path and then another from where it led is resolving the two with a slash between them,
and a path that leads nowhere leads nowhere when it is made longer, with the addition behind what was
left of it. This needs the first path to consist of segments that are not empty, and literal segments
without slashes.
-/

namespace ServiceTree

/-- Appending a path to a child's is appending the longer path. -/
theorem joinPath_joinPath {segment : String} (hne : segment ≠ "") (path rest : String) :
    joinPath (joinPath path segment) rest = joinPath path (segment ++ "/" ++ rest) := by
  by_cases hpath : path = ""
  · simp [joinPath, hpath, hne]
  · simp [joinPath, hpath, String.append_assoc]

/-- A path of segments that are neither empty nor hold a slash, with slashes between them. -/
inductive Segmented : List Char → Prop
  | last {segment : List Char} (hne : segment ≠ []) (hslash : '/' ∉ segment) : Segmented segment
  | more {segment rest : List Char} (hne : segment ≠ []) (hslash : '/' ∉ segment)
      (hrest : Segmented rest) : Segmented (segment ++ '/' :: rest)

/-- A path whose pieces between slashes are not empty consists of segments, of whose first one the
front may be read already. -/
theorem segmented_of_piecesFrom {reversed path : List Char} (hslash : '/' ∉ reversed)
    (h : ∀ piece ∈ Text.piecesFrom (· == '/') reversed path, piece ≠ []) :
    Segmented (reversed.reverse ++ path) := by
  induction path generalizing reversed with
  | nil =>
    rw [List.append_nil]
    exact .last (h _ (by simp [Text.piecesFrom])) (by simpa using hslash)
  | cons c rest ih =>
    by_cases hc : c = '/'
    · subst hc
      rw [Text.piecesFrom, if_pos (by rfl), List.forall_mem_cons] at h
      exact .more h.1 (by simpa using hslash) (ih List.not_mem_nil h.2)
    · rw [Text.piecesFrom, if_neg (by simpa using hc)] at h
      have hrest := ih (List.not_mem_cons_of_ne_of_not_mem (Ne.symm hc) hslash) h
      rwa [List.reverse_cons, List.append_assoc, List.singleton_append] at hrest

/-- A path whose pieces between slashes are not empty consists of segments. -/
theorem segmented_of_pieces {path : List Char}
    (h : ∀ piece ∈ Text.pieces (· == '/') path, piece ≠ []) : Segmented path :=
  segmented_of_piecesFrom List.not_mem_nil h

namespace Position

/-- How following a longer path depends on following its front: it goes on from where the front led,
or is left where the front was left. -/
inductive Continues (position : Position) (path : List Char) : Prop
  | reached {target : Position} (hresolve : position.resolveFrom path = .ok target)
      (hpath : target.path = joinPath position.path (String.ofList path))
      (hlonger : ∀ rest, position.resolveFrom (path ++ '/' :: rest) = target.resolveFrom rest)
  | left {remainder : List Char}
      (hresolve : position.resolveFrom path = .error (.noSuchService (String.ofList remainder)))
      (hlonger : ∀ rest, position.resolveFrom (path ++ '/' :: rest) =
        .error (.noSuchService (String.ofList (remainder ++ '/' :: rest))))

/-- Where no literal segment of the plan holds a slash, following a path of segments and then another is
following both. The induction is on the segments, whose first leads to the same child. -/
theorem continues {plan : ClientPlan}
    (hslash : ∀ service ∈ plan.services, ∀ edge ∈ service.router.literals,
      '/' ∉ edge.segment.toList) {path : List Char} (hpath : Segmented path) {position : Position}
    (hplan : position.plan = plan) (hmem : position.service ∈ plan.services) :
    position.Continues path := by
  induction hpath generalizing position with
  | @last segment hne hseparate =>
    have hshort := resolveFrom_eq (hslash _ hmem) hne
    have hlong (rest : List Char) : position.resolveFrom (segment ++ '/' :: rest) = _ :=
      resolveFrom_eq (hslash _ hmem) (by simp)
    simp only [splitSegment_self hseparate, splitSegment_append hseparate] at hshort hlong
    cases hchild : position.enter? segment with
    | none =>
      rw [hchild] at hshort
      refine .left hshort fun rest => ?_
      rw [hlong, hchild]
    | some child =>
      rw [hchild] at hshort
      refine .reached (hshort.trans resolveFrom_nil) (enter?_eq_some hchild).2.2 fun rest => ?_
      rw [hlong, hchild]
  | @more segment front hne hseparate hfront ih =>
    have hstep (rest : List Char) : position.resolveFrom (segment ++ '/' :: rest) = _ :=
      resolveFrom_eq (hslash _ hmem) (by simp)
    simp only [splitSegment_append hseparate] at hstep
    cases hchild : position.enter? segment with
    | none =>
      rw [hchild] at hstep
      refine .left (hstep front) fun rest => ?_
      rw [List.append_assoc, List.cons_append, hstep]
    | some child =>
      rw [hchild] at hstep
      obtain ⟨hsame, hservice, hchildPath⟩ := enter?_eq_some hchild
      cases ih (hsame.trans hplan) (hplan ▸ hservice) with
      | @reached target hresolve htarget hlonger =>
        refine .reached ((hstep front).trans hresolve) ?_ fun rest => ?_
        · rw [htarget, hchildPath, joinPath_joinPath (by simpa using hne)]
          congr 1
          apply String.toList_injective
          simp
        · rw [List.append_assoc, List.cons_append, hstep]
          exact hlonger rest
      | left hresolve hlonger =>
        refine .left ((hstep front).trans hresolve) fun rest => ?_
        rw [List.append_assoc, List.cons_append, hstep]
        exact hlonger rest

end Position

/-- Paths compose where no literal segment holds a slash: segments that are not empty are appended to the path
of a place, and a path behind them leads on from there, or joins what they leave. -/
theorem resolve_append {plan : ClientPlan}
    (hslash : ∀ made ∈ plan.services, ∀ edge ∈ made.router.literals, '/' ∉ edge.segment.toList)
    {service : ServicePlan} (hservice : service ∈ plan.services) (stored : String) {path : String}
    (hpath : ∀ segment ∈ Text.pieces (· == '/') path.toList, segment ≠ []) :
    (∃ target, Position.resolve ⟨plan, service, stored⟩ path = .ok target ∧
      target.path = joinPath stored path ∧
      ∀ rest, Position.resolve ⟨plan, service, stored⟩ (path ++ "/" ++ rest) = target.resolve rest) ∨
    ∃ remainder, Position.resolve ⟨plan, service, stored⟩ path = .error (.noSuchService remainder) ∧
      ∀ rest, Position.resolve ⟨plan, service, stored⟩ (path ++ "/" ++ rest) =
        .error (.noSuchService (remainder ++ "/" ++ rest)) := by
  have hlist (front rest : String) :
      (front ++ "/" ++ rest).toList = front.toList ++ '/' :: rest.toList := by simp
  have hcontinues : Position.Continues ⟨plan, service, stored⟩ path.toList :=
    Position.continues hslash (segmented_of_pieces hpath) rfl hservice
  cases hcontinues with
  | @reached target hresolve htarget hlonger =>
    refine .inl ⟨target, hresolve, by simpa using htarget, fun rest => ?_⟩
    rw [Position.resolve, hlist]
    exact hlonger rest.toList
  | @left remainder hresolve hlonger =>
    refine .inr ⟨String.ofList remainder, hresolve, fun rest => ?_⟩
    rw [Position.resolve, hlist, hlonger]
    congr 2
    apply String.toList_injective
    simp

/-- A literal edge of a planned service has the segment of a locator that the model declares. -/
theorem Model.plan_literal_segment {model : Model} {plan : ClientPlan} (hplan : model.plan = .ok plan)
    {made : ServicePlan} (hmade : made ∈ plan.services) {edge : RouteEdge}
    (hedge : edge ∈ made.router.literals) :
    ∃ declaring ∈ model.services, ∃ declared ∈ declaring.locators,
      edge.segment = declared.name.segment := by
  obtain ⟨service, bases, hplanned⟩ := planned_of_plan hplan made hmade
  obtain ⟨locator, hlocator, _, rfl⟩ := hplanned.literal_iff.mp hedge
  obtain ⟨declaring, hchain, declared, hdeclared, hfrom⟩ := hplanned.locator_declared hlocator
  exact ⟨declaring, hplanned.baseChain.subset hchain, declared, hdeclared,
    (Locator.plan_name hfrom).2.2.2⟩

/-- In the plan of the redeclaring model two segments and whatever follows them compose. -/
theorem redeclaringModel_resolve_append : ∃ plan, redeclaringModel.plan = .ok plan ∧
    ∀ service ∈ plan.services,
      (∃ target, Position.resolve ⟨plan, service, "shops"⟩ "item/7" = .ok target ∧
        target.path = "shops/item/7" ∧
        ∀ rest, Position.resolve ⟨plan, service, "shops"⟩ ("item/7/" ++ rest) =
          target.resolve rest) ∨
      ∃ remainder,
        Position.resolve ⟨plan, service, "shops"⟩ "item/7" = .error (.noSuchService remainder) ∧
        ∀ rest, Position.resolve ⟨plan, service, "shops"⟩ ("item/7/" ++ rest) =
          .error (.noSuchService (remainder ++ "/" ++ rest)) := by
  have hvalid : redeclaringModel.Valid := Model.validate_eq_ok_iff.mp (by decide)
  obtain ⟨plan, hplan⟩ := hvalid.plan_isOk (by decide)
  refine ⟨plan, hplan, fun service hservice => ?_⟩
  have hdeclared : ∀ declaring ∈ redeclaringModel.services, ∀ declared ∈ declaring.locators,
      '/' ∉ declared.name.segment.toList := by decide +kernel
  refine resolve_append (fun made hmade edge hedge => ?_) hservice "shops" (by decide +kernel)
  obtain ⟨declaring, hdeclaring, declared, hmem, hsegment⟩ :=
    Model.plan_literal_segment hplan hmade hedge
  rw [hsegment]
  exact hdeclared declaring hdeclaring declared hmem

end ServiceTree
