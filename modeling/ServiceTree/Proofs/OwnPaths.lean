import ServiceTree.Proofs.LocatorWalks

/-!
# Services and their own paths

A service that a path leads to from the root keeps the segments of the steps as its own path. That path
leads back to it unless an empty segment stands at an end of the route. In front, an empty segment is
lost, since the path of its child is empty like that of the root; and at the end, the slash behind the
segments is all that made a step of it.
-/

namespace ServiceTree

/-- A segment is behind a path that is the segment or goes on with a slash behind it. -/
theorem restBehind?_isSome_iff {segment path : List Char} :
    (restBehind? segment path).isSome ↔ path = segment ∨ (segment ++ ['/']) <+: path := by
  rw [restBehind?]
  split_ifs with hwhole hfront
  · simp [hwhole]
  · simpa [hwhole, List.isPrefixOf_iff_prefix] using hfront
  · simpa [hwhole, List.isPrefixOf_iff_prefix] using hfront

/-- A segment that is behind a path stands in front of what is left, with a slash between them where
anything is. -/
theorem restBehind?_split {segment path rest : List Char} (h : restBehind? segment path = some rest) :
    (path = segment ∧ rest = []) ∨ path = segment ++ '/' :: rest := by
  rw [restBehind?] at h
  split_ifs at h with hwhole hfront
  · exact .inl ⟨hwhole, (Option.some.inj h).symm⟩
  · obtain ⟨tail, rfl⟩ := List.isPrefixOf_iff_prefix.mp hfront
    have htail : tail = rest := by simpa using h
    exact .inr (by simp [htail])

/-- A slash at the end does not put another segment behind a path, unless the segment ends with it. -/
theorem restBehind?_isSome_shorten {segment path : List Char} (hsegment : segment ≠ path ++ ['/']) :
    (restBehind? segment (path ++ ['/'])).isSome ↔ (restBehind? segment path).isSome := by
  rw [restBehind?_isSome_iff, restBehind?_isSome_iff, List.prefix_concat_iff,
    List.append_cancel_right_eq]
  simp only [Ne.symm hsegment, false_or, eq_comm]

/-- A segment that is not behind a path with a slash at its end is not behind the path either. -/
theorem restBehind?_eq_none_of_longer {segment path : List Char}
    (h : restBehind? segment (path ++ ['/']) = none) : restBehind? segment path = none := by
  rw [← Option.not_isSome_iff_eq_none, restBehind?_isSome_iff] at h ⊢
  rintro (rfl | hfront)
  · exact h (.inr (List.prefix_refl _))
  · exact h (.inr (hfront.trans (List.prefix_append _ _)))

/-- A slash behind a path leaves its first segment as it is. -/
theorem splitSegment_fst_append (path rest : List Char) :
    (splitSegment (path ++ '/' :: rest)).1 = (splitSegment path).1 := by
  simp only [splitSegment, List.takeWhile_append]
  split_ifs with hwhole
  · simpa using (List.takeWhile_prefix _).eq_of_length hwhole |>.symm
  · rfl

namespace Router

variable {router : Router} {path : List Char} {step : RouteStep}

/-- A step takes its segment from the front of the path, and leaves what is behind it. -/
theorem step?_split (h : router.step? path = some step) :
    (path = step.segment.toList ∧ step.rest = []) ∨
      path = step.segment.toList ++ '/' :: step.rest := by
  rcases Option.or_eq_some_iff.mp h with hliteral | ⟨_, hwildcard⟩
  · obtain ⟨edge, _, hedge⟩ := List.exists_of_findSome?_eq_some hliteral
    obtain ⟨rest, hrest, rfl⟩ := Option.map_eq_some_iff.mp hedge
    exact restBehind?_split hrest
  · obtain ⟨edge, _, rfl⟩ := Option.map_eq_some_iff.mp hwildcard
    simpa only [RouteEdge.wildcardStep, String.toList_ofList] using splitSegment_cases path

/-- Without the slash at its end a path takes the same step, unless the slash is part of the segment. -/
theorem step?_shorten (h : router.step? (path ++ ['/']) = some step)
    (hsegment : step.segment.toList ≠ path ++ ['/']) :
    ∃ rest, router.step? path = some ⟨step.target, step.segment, rest⟩ := by
  rw [Router.step?]
  rcases Option.or_eq_some_iff.mp h with hliteral | ⟨hnone, hwildcard⟩
  · obtain ⟨before, edge, after, hsplit, hedge, hbefore⟩ := List.findSome?_eq_some_iff.mp hliteral
    obtain ⟨longer, hlonger, rfl⟩ := Option.map_eq_some_iff.mp hedge
    obtain ⟨rest, hrest⟩ := Option.isSome_iff_exists.mp
      ((restBehind?_isSome_shorten hsegment).mp (Option.isSome_iff_exists.mpr ⟨longer, hlonger⟩))
    refine ⟨rest, ?_⟩
    have hfirst : (router.literals.findSome? fun edge => edge.step? path) =
        some ⟨edge.target, edge.segment, rest⟩ := by
      refine List.findSome?_eq_some_iff.mpr ⟨before, edge, after, hsplit, ?_, fun other hother => ?_⟩
      · rw [RouteEdge.step?, hrest, Option.map_some]
      · exact Option.map_eq_none_iff.mpr
          (restBehind?_eq_none_of_longer (Option.map_eq_none_iff.mp (hbefore other hother)))
    rw [hfirst, Option.some_or]
  · obtain ⟨edge, hedge, rfl⟩ := Option.map_eq_some_iff.mp hwildcard
    have hshort : (router.literals.findSome? fun edge => edge.step? path) = none := by
      rw [List.findSome?_eq_none_iff] at hnone ⊢
      exact fun other hother => Option.map_eq_none_iff.mpr
        (restBehind?_eq_none_of_longer (Option.map_eq_none_iff.mp (hnone other hother)))
    refine ⟨(splitSegment path).2, ?_⟩
    rw [hshort, hedge, Option.none_or, Option.map_some]
    simp only [RouteEdge.wildcardStep, splitSegment_fst_append]

end Router

/-- The paths of descendants of a service that is not at the empty path have its path in front. -/
theorem foldl_joinPath {path : String} (hne : path ≠ "") (segments : List String) :
    segments.foldl joinPath path = "/".intercalate (path :: segments) := by
  induction segments generalizing path with
  | nil => rw [List.foldl_nil, String.intercalate_singleton]
  | cons segment rest ih =>
    have hjoin : joinPath path segment = path ++ "/" ++ segment := by simp [joinPath, hne]
    rw [List.foldl_cons, hjoin, ih (by simp [hne]), String.intercalate_cons_append,
      String.intercalate_cons_of_ne_nil (List.cons_ne_nil segment rest)]

/-- An empty segment behind others leaves a slash at the end. -/
theorem slashed_empty {segments : List String} (hne : segments ≠ []) :
    "/".intercalate (segments ++ [""]) = "/".intercalate segments ++ "/" := by
  rw [String.intercalate_append_of_ne_nil hne (List.cons_ne_nil "" []), String.intercalate_singleton,
    String.append_empty]

namespace Position

/-- The route that resolving takes along a path: the segments that its steps append, up to where the
path ends. -/
inductive Route : Position → List Char → List String → Position → Prop
  | here (position : Position) : Route position [] [] position
  | step {position child target : Position} {path : List Char} {step : RouteStep}
      {segments : List String} (hne : path ≠ [])
      (hstep : position.service.router.step? path = some step)
      (hchild : position.child? step.target step.segment = some child)
      (hrest : Route child step.rest segments target) :
      Route position path (step.segment :: segments) target

variable {position target : Position} {path : List Char} {segments : List String}

/-- A path leads somewhere exactly if there is a route along it. -/
theorem resolveFrom_eq_ok :
    position.resolveFrom path = .ok target ↔ ∃ segments, position.Route path segments target := by
  constructor
  · intro h
    fun_induction resolveFrom position path with
    | case1 position =>
      cases h
      exact ⟨[], .here _⟩
    | case2 => cases h
    | case3 => cases h
    | case4 position path hne step hstep child hchild ih =>
      obtain ⟨segments, hroute⟩ := ih h
      exact ⟨step.segment :: segments, .step hne hstep hchild hroute⟩
  · rintro ⟨segments, hroute⟩
    induction hroute with
    | here position => exact resolveFrom_nil
    | step hne hstep hchild _ ih => rw [resolveFrom_of_step hne hstep hchild, ih]

namespace Route

/-- A route without segments has not left. -/
theorem nil_eq (h : position.Route path [] target) : path = [] ∧ position = target := by
  cases h
  exact ⟨rfl, rfl⟩

/-- A route with segments goes along a path that is not empty. -/
theorem path_ne_nil (h : position.Route path segments target) (hne : segments ≠ []) : path ≠ [] := by
  cases h with
  | here => exact absurd rfl hne
  | step hpath _ _ _ => exact hpath

/-- A path is the segments of its route with slashes between them, and a slash at the end if the last
segment is empty, or even if it is not. -/
theorem path_eq (h : position.Route path segments target) :
    (path = ("/".intercalate segments).toList ∧ segments.getLast? ≠ some "") ∨
      path = ("/".intercalate segments).toList ++ ['/'] := by
  induction h with
  | here position => exact .inl ⟨by simp, by simp⟩
  | @step position child target path step segments hne hstep hchild hrest ih =>
    cases segments with
    | nil =>
      obtain ⟨hend, -⟩ := hrest.nil_eq
      rw [String.intercalate_singleton]
      rcases Router.step?_split hstep with ⟨hwhole, -⟩ | hfront
      · exact .inl ⟨hwhole, by simpa [hwhole] using hne⟩
      · exact .inr (by rw [hfront, hend])
    | cons next others =>
      have hmore : step.rest ≠ [] := hrest.path_ne_nil (List.cons_ne_nil next others)
      have hfront := (Router.step?_split hstep).resolve_left fun hwhole => hmore hwhole.2
      rw [toList_slashed _ (List.cons_ne_nil next others), List.getLast?_cons_cons]
      rcases ih with ⟨hpath, hlast⟩ | hpath
      · exact .inl ⟨by rw [hfront, hpath], hlast⟩
      · exact .inr (by rw [hfront, hpath, List.append_assoc, List.cons_append])

/-- Every step of a route appends its segment to the path. -/
theorem target_path (h : position.Route path segments target) :
    target.path = segments.foldl joinPath position.path := by
  induction h with
  | here position => rfl
  | step hne hstep hchild hrest ih =>
    obtain ⟨service, -, rfl⟩ := Option.map_eq_some_iff.mp hchild
    exact ih

/-- From the empty path a route that does not begin with an empty segment leads to the path of its
segments. -/
theorem target_path_of_head (h : position.Route path segments target) (hroot : position.path = "")
    (hfirst : segments.head? ≠ some "") : target.path = "/".intercalate segments := by
  rw [h.target_path, hroot]
  cases segments with
  | nil => simp
  | cons first rest =>
    change rest.foldl joinPath first = _
    exact foldl_joinPath (by simpa using hfirst) rest

/-- A route that begins with an empty segment goes along a path that begins with a slash. -/
theorem slash_of_head (h : position.Route path segments target) (hfirst : segments.head? = some "") :
    ['/'] <+: path := by
  cases h with
  | here => cases hfirst
  | @step _ child _ _ step segments hne hstep _ _ =>
    have hempty : step.segment = "" := Option.some.inj hfirst
    rcases Router.step?_split hstep with ⟨hwhole, -⟩ | hfront
    · exact absurd (by simpa [hempty] using hwhole) hne
    · exact ⟨step.rest, by simpa [hempty] using hfront.symm⟩

/-- A route that ends with an empty segment behind others goes along a path that ends with two slashes. -/
theorem slashes_of_getLast (h : position.Route path segments target)
    (hlast : segments.getLast? = some "") (hfirst : segments.head? ≠ some "") :
    ['/', '/'] <:+ path := by
  obtain ⟨before, rfl⟩ := List.getLast?_eq_some_iff.mp hlast
  have hne : before ≠ [] := by
    rintro rfl
    exact hfirst rfl
  rcases h.path_eq with ⟨-, hother⟩ | hpath
  · exact absurd hlast hother
  · rw [slashed_empty hne] at hpath
    exact ⟨("/".intercalate before).toList, by simp [hpath]⟩

/-- Without the slash at its end a path takes the same route, but for a last step of an empty segment.
The induction is on the route: every step but that one is taken without the slash, too. -/
theorem shorten (h : position.Route path segments target)
    (hpath : path = ("/".intercalate segments).toList ++ ['/']) :
    ∃ shorter reached, position.Route ("/".intercalate segments).toList shorter reached ∧
      (shorter = segments ∧ reached = target ∨ segments = shorter ++ [""]) := by
  induction h with
  | here position => simp at hpath
  | @step position child target path step segments hne hstep hchild hrest ih =>
    cases segments with
    | nil =>
      obtain ⟨-, rfl⟩ := hrest.nil_eq
      rw [String.intercalate_singleton] at hpath ⊢
      by_cases hempty : step.segment = ""
      · rw [hempty]
        exact ⟨[], position, .here position, .inr rfl⟩
      · have hsegment : step.segment.toList ≠ [] := by simpa using hempty
        obtain ⟨rest, hshort⟩ := Router.step?_shorten (hpath ▸ hstep) (by simp)
        have hend : rest = [] := by simpa using Router.step?_split hshort
        subst hend
        exact ⟨_, child, .step hsegment hshort hchild (.here child), .inl ⟨rfl, rfl⟩⟩
    | cons next others =>
      rw [toList_slashed _ (List.cons_ne_nil next others)] at hpath ⊢
      have hmore : step.rest ≠ [] := hrest.path_ne_nil (List.cons_ne_nil next others)
      have hfront := (Router.step?_split hstep).resolve_left fun hwhole => hmore hwhole.2
      have hrestPath : step.rest = ("/".intercalate (next :: others)).toList ++ ['/'] := by
        simpa using hfront.symm.trans hpath
      obtain ⟨shorter, reached, hroute, hends⟩ := ih hrestPath
      obtain ⟨rest, hshort⟩ := Router.step?_shorten (hpath ▸ hstep) (by simp)
      have hbehind := (Router.step?_split hshort).resolve_left fun hwhole => by simpa using hwhole.1
      obtain ⟨-, rfl⟩ := List.cons.inj (List.append_cancel_left hbehind)
      refine ⟨_, reached, .step (by simp) hshort hchild hroute, ?_⟩
      rcases hends with ⟨rfl, rfl⟩ | hsegments
      · exact .inl ⟨rfl, rfl⟩
      · exact .inr (by rw [hsegments, List.cons_append])

/-- Where a route from the empty path does not begin with an empty segment, the path of its target leads
there exactly if it does not end with one either. -/
theorem resolve_path_iff (h : position.Route path segments target) (hroot : position.path = "")
    (hfirst : segments.head? ≠ some "") :
    position.resolve target.path = .ok target ↔ segments.getLast? ≠ some "" := by
  have hown := h.target_path_of_head hroot hfirst
  rw [hown, resolve]
  rcases h.path_eq with ⟨hpath, hlast⟩ | hpath
  · exact iff_of_true (resolveFrom_eq_ok.mpr ⟨segments, hpath ▸ h⟩) hlast
  obtain ⟨shorter, reached, hshort, ⟨rfl, rfl⟩ | rfl⟩ := h.shorten hpath
  · have hlast : shorter.getLast? ≠ some "" := (hshort.path_eq.resolve_right (by simp)).2
    exact iff_of_true (resolveFrom_eq_ok.mpr ⟨shorter, hshort⟩) hlast
  · -- the last step is not taken, and where it was taken from has a shorter path
    have hne : shorter ≠ [] := by
      rintro rfl
      exact hfirst rfl
    rw [List.head?_append_of_ne_nil _ hne] at hfirst
    have hreached := hshort.target_path_of_head hroot hfirst
    refine iff_of_false (fun hback => ?_) (by simp)
    obtain rfl : reached = target :=
      Except.ok.inj ((resolveFrom_eq_ok.mpr ⟨shorter, hshort⟩).symm.trans hback)
    rw [hreached, slashed_empty hne] at hown
    simpa using congrArg String.length hown

end Route

end Position

/-- The own path of a reached service leads back to it if no empty segment stands at an end of its route, as
after a path that does not begin with a slash nor end with two. -/
theorem resolve_own_path {plan : ClientPlan} {root target : Position}
    (hroot : Position.root plan = .ok root) {path : String} (hresolve : root.resolve path = .ok target) :
    ∃ segments, root.Route path.toList segments target ∧
      (segments.head? ≠ some "" →
        (root.resolve target.path = .ok target ↔ segments.getLast? ≠ some "")) ∧
      (¬ ['/'] <+: path.toList → ¬ ['/', '/'] <:+ path.toList →
        root.resolve target.path = .ok target) := by
  have hstart : root.path = "" := by
    rw [Position.root] at hroot
    split at hroot
    · cases hroot
      rfl
    · cases hroot
  obtain ⟨segments, hroute⟩ := Position.resolveFrom_eq_ok.mp hresolve
  refine ⟨segments, hroute, hroute.resolve_path_iff hstart, fun hfront hend => ?_⟩
  have hfirst : segments.head? ≠ some "" := fun hempty => hfront (hroute.slash_of_head hempty)
  have hlast : segments.getLast? ≠ some "" :=
    fun hempty => hend (hroute.slashes_of_getLast hempty hfirst)
  exact (hroute.resolve_path_iff hstart hfirst).mpr hlast

/-- The path `7/box/` leads from the root of the redeclaring model to a service at `7/box`, which leads
back to it. -/
theorem redeclaringModel_returns : ∃ root target, Position.root redeclaringPlan = .ok root ∧
    root.resolve "7/box/" = .ok target ∧ target.path = "7/box" ∧
    root.resolve target.path = .ok target := by
  have hroot : Position.root redeclaringPlan = .ok ⟨redeclaringPlan, redeclaringServicePlan, ""⟩ := rfl
  have hresolve : Position.resolve ⟨redeclaringPlan, redeclaringServicePlan, ""⟩ "7/box/" =
      .ok ⟨redeclaringPlan, shelfServicePlan, "7/box"⟩ := by decide +kernel
  obtain ⟨_, _, _, hback⟩ := resolve_own_path hroot hresolve
  exact ⟨_, _, hroot, hresolve, rfl, hback (by decide +kernel) (by decide +kernel)⟩

/-- In a valid model the path of a service need not lead back to it: not if its route begins with an empty
segment, as that of `/7`, and not if it ends with one, as that of `7//`. -/
theorem redeclaringModel_strays : redeclaringModel.validate = .ok () ∧
    redeclaringModel.plan = .ok redeclaringPlan ∧ ∃ root, Position.root redeclaringPlan = .ok root ∧
      ∀ path ∈ ["/7", "7//"], ∃ target other, root.resolve path = .ok target ∧
        root.resolve target.path = .ok other ∧ other.service ≠ target.service := by
  refine ⟨by decide, redeclaringModel_plan, ⟨redeclaringPlan, redeclaringServicePlan, ""⟩, rfl, ?_⟩
  have hdifferent : shelfServicePlan ≠ redeclaringServicePlan := by decide
  simp only [List.forall_mem_cons, List.not_mem_nil, false_imp_iff, implies_true, and_true]
  refine ⟨⟨⟨redeclaringPlan, redeclaringServicePlan, "7"⟩, ⟨redeclaringPlan, shelfServicePlan, "7"⟩,
    ?_, ?_, hdifferent⟩, ⟨redeclaringPlan, redeclaringServicePlan, "7/"⟩,
    ⟨redeclaringPlan, shelfServicePlan, "7"⟩, ?_, ?_, hdifferent⟩
  all_goals decide +kernel

end ServiceTree
