import Mathlib.Data.List.Forall2

/-!
# Outcomes of computations that may fail

How an outcome splits into the outcomes of its steps: a sequence of steps succeeds exactly if each
of them does, and it fails with the error of the first step that fails.
-/

namespace ServiceTree.Outcome

universe u

variable {E A B : Type u}

/-- A converted outcome is a success exactly if the outcome is. -/
theorem map_eq_ok {f : A → B} {outcome : Except E A} {result : B} :
    outcome.map f = .ok result ↔ ∃ value, outcome = .ok value ∧ f value = result := by
  cases outcome with
  | error error => simp [Except.map]
  | ok value => simp [Except.map]

/-- A converted outcome fails exactly as the outcome does. -/
theorem map_eq_error {f : A → B} {outcome : Except E A} {error : E} :
    outcome.map f = .error error ↔ outcome = .error error := by
  cases outcome with
  | error other => simp [Except.map]
  | ok value => simp [Except.map]

/-- Two steps succeed exactly if the first does and then the second. -/
theorem bind_eq_ok {f : A → Except E B} {outcome : Except E A} {result : B} :
    (outcome >>= f) = .ok result ↔ ∃ value, outcome = .ok value ∧ f value = .ok result := by
  cases outcome with
  | error error => simp [bind, Except.bind]
  | ok value => simp [bind, Except.bind]

/-- Two steps fail exactly if the first does, or else the second. -/
theorem bind_eq_error {f : A → Except E B} {outcome : Except E A} {error : E} :
    (outcome >>= f) = .error error ↔
      outcome = .error error ∨ ∃ value, outcome = .ok value ∧ f value = .error error := by
  cases outcome with
  | error other => simp [bind, Except.bind]
  | ok value => simp [bind, Except.bind]

/-- An outcome has a result exactly if it is a success. -/
theorem toOption_eq_some {outcome : Except E A} {result : A} :
    outcome.toOption = some result ↔ outcome = .ok result := by
  cases outcome with
  | error error => simp [Except.toOption]
  | ok value => simp [Except.toOption]

/-- An outcome is a success if it has some result. -/
theorem exists_of_isSome {outcome : Except E A} (h : outcome.toOption.isSome = true) :
    ∃ result, outcome = .ok result :=
  (Option.isSome_iff_exists.mp h).imp fun _ => toOption_eq_some.mp

/-- A step for each member succeeds exactly if all steps do, with their results in order. -/
theorem mapM_eq_ok {f : A → Except E B} {members : List A} {results : List B} :
    members.mapM f = .ok results ↔
      List.Forall₂ (fun member result => f member = .ok result) members results := by
  induction members generalizing results with
  | nil =>
    rw [List.mapM_nil, List.forall₂_nil_left_iff]
    constructor
    · intro h
      cases h
      rfl
    · rintro rfl
      rfl
  | cons member rest ih =>
    rw [List.mapM_cons, bind_eq_ok, List.forall₂_cons_left_iff]
    constructor
    · rintro ⟨first, hfirst, h⟩
      obtain ⟨others, hothers, h⟩ := bind_eq_ok.mp h
      cases h
      exact ⟨first, others, hfirst, ih.mp hothers, rfl⟩
    · rintro ⟨first, others, hfirst, hothers, rfl⟩
      refine ⟨first, hfirst, bind_eq_ok.mpr ⟨others, ih.mpr hothers, rfl⟩⟩

/-- What is paired with a member of the first list is a member of the second. -/
theorem exists_of_mem_left {R : A → B → Prop} {members : List A} {results : List B}
    (h : List.Forall₂ R members results) {member : A} (hmem : member ∈ members) :
    ∃ result ∈ results, R member result := by
  induction h with
  | nil => cases hmem
  | @cons first result _ _ hfirst _ ih =>
    rcases List.mem_cons.mp hmem with rfl | hmem
    · exact ⟨result, List.mem_cons_self, hfirst⟩
    · obtain ⟨other, hother, hrest⟩ := ih hmem
      exact ⟨other, List.mem_cons_of_mem result hother, hrest⟩

/-- What is paired with a member of the second list is a member of the first. -/
theorem exists_of_mem_right {R : A → B → Prop} {members : List A} {results : List B}
    (h : List.Forall₂ R members results) {result : B} (hmem : result ∈ results) :
    ∃ member ∈ members, R member result :=
  exists_of_mem_left h.flip hmem

/-- Paired members that agree in what they are mapped to give the same list. -/
theorem map_eq_map {R : A → B → Prop} {members : List A} {results : List B} {C : Type u}
    {f : A → C} {g : B → C} (h : List.Forall₂ R members results)
    (hagree : ∀ member result, R member result → f member = g result) :
    members.map f = results.map g := by
  induction h with
  | nil => rfl
  | cons hfirst _ ih => rw [List.map_cons, List.map_cons, ih, hagree _ _ hfirst]

/-- A step for each member fails with the error of the first step that fails. -/
theorem mapM_eq_error_iff {f : A → Except E B} {members : List A} {error : E} :
    members.mapM f = .error error ↔ ∃ before member after, members = before ++ member :: after ∧
      (∀ earlier ∈ before, ∃ result, f earlier = .ok result) ∧ f member = .error error := by
  induction members with
  | nil =>
    constructor
    · intro h
      cases h
    · rintro ⟨before, member, after, hsplit, _⟩
      exact absurd hsplit.symm (List.append_ne_nil_of_right_ne_nil _ (List.cons_ne_nil _ _))
  | cons first rest ih =>
    rw [List.mapM_cons, bind_eq_error]
    constructor
    · rintro (hfirst | ⟨result, hfirst, h⟩)
      · exact ⟨[], first, rest, rfl, by simp, hfirst⟩
      · rcases bind_eq_error.mp h with hrest | ⟨others, _, h⟩
        · obtain ⟨before, member, after, rfl, hbefore, hmember⟩ := ih.mp hrest
          exact ⟨first :: before, member, after, rfl,
            List.forall_mem_cons.mpr ⟨⟨result, hfirst⟩, hbefore⟩, hmember⟩
        · cases h
    · rintro ⟨before, member, after, hsplit, hbefore, hmember⟩
      cases before with
      | nil =>
        cases hsplit
        exact .inl hmember
      | cons _ before =>
        cases hsplit
        obtain ⟨⟨result, hfirst⟩, hbefore⟩ := List.forall_mem_cons.mp hbefore
        refine .inr ⟨result, hfirst, bind_eq_error.mpr (.inl (ih.mpr ?_))⟩
        exact ⟨before, member, after, rfl, hbefore, hmember⟩

/-- A step for each member fails with the error of one of them. -/
theorem mapM_eq_error {f : A → Except E B} {members : List A} {error : E}
    (h : members.mapM f = .error error) : ∃ member ∈ members, f member = .error error := by
  obtain ⟨before, member, after, rfl, _, hmember⟩ := mapM_eq_error_iff.mp h
  exact ⟨member, by simp, hmember⟩

/-- Steps from member to member fail with the error of one of them. -/
theorem foldlM_eq_error {f : B → A → Except E B} {members : List A} {start : B} {error : E}
    (h : members.foldlM f start = .error error) :
    ∃ member ∈ members, ∃ reached, f reached member = .error error := by
  induction members generalizing start with
  | nil => cases h
  | cons member rest ih =>
    rw [List.foldlM_cons] at h
    rcases bind_eq_error.mp h with hfirst | ⟨reached, _, hrest⟩
    · exact ⟨member, List.mem_cons_self, start, hfirst⟩
    · obtain ⟨other, hmem, hother⟩ := ih hrest
      exact ⟨other, List.mem_cons_of_mem member hmem, hother⟩

/-- Where a step that succeeds does what another function does, steps from member to member that succeed do
so too, and what holds of a member whose step succeeds holds of all. -/
theorem foldlM_eq_ok {f : B → A → Except E B} {g : B → A → B} {P : A → Prop}
    (hstep : ∀ reached member next, f reached member = .ok next → next = g reached member ∧ P member)
    {members : List A} {start result : B} (h : members.foldlM f start = .ok result) :
    result = members.foldl g start ∧ ∀ member ∈ members, P member := by
  induction members generalizing start with
  | nil =>
    cases h
    exact ⟨rfl, nofun⟩
  | cons member rest ih =>
    rw [List.foldlM_cons] at h
    obtain ⟨next, hnext, hrest⟩ := bind_eq_ok.mp h
    obtain ⟨rfl, hmember⟩ := hstep start member next hnext
    obtain ⟨hresult, hmembers⟩ := ih hrest
    exact ⟨hresult, List.forall_mem_cons.mpr ⟨hmember, hmembers⟩⟩

/-- A step for each member succeeds if it does for every one of them. -/
theorem mapM_isOk {f : A → Except E B} {members : List A}
    (h : ∀ member ∈ members, ∃ result, f member = .ok result) :
    ∃ results, members.mapM f = .ok results := by
  cases hresults : members.mapM f with
  | ok results => exact ⟨results, rfl⟩
  | error error =>
    obtain ⟨member, hmem, herror⟩ := mapM_eq_error hresults
    obtain ⟨result, hresult⟩ := h member hmem
    rw [hresult] at herror
    cases herror

/-- A step for each member has the given results exactly if each of the steps has its own. -/
theorem mapM_eq_some_map {f : A → Option B} {result : A → B} {members : List A} :
    members.mapM f = some (members.map result) ↔ ∀ member ∈ members, f member = some (result member) := by
  induction members with
  | nil => simp
  | cons member rest ih =>
    simp only [List.mapM_cons, List.map_cons, Option.bind_eq_bind, Option.bind_eq_some_iff,
      Option.pure_def, Option.some.injEq, List.cons.injEq, List.forall_mem_cons, ← ih]
    constructor
    · rintro ⟨_, hmember, _, hrest, rfl, rfl⟩
      exact ⟨hmember, hrest⟩
    · rintro ⟨hmember, hrest⟩
      exact ⟨_, hmember, _, hrest, rfl, rfl⟩

/-- The error of a computation that fails. -/
def failure? : Except E A → Option E
  | .ok _ => none
  | .error error => some error

/-- A computation has the error that it fails with. -/
theorem failure?_eq_some_iff {outcome : Except E A} {error : E} :
    failure? outcome = some error ↔ outcome = .error error := by
  cases outcome with
  | error other => simp [failure?]
  | ok value => simp [failure?]

/-- A converted outcome has the error of the outcome. -/
theorem failure?_map {f : A → B} {outcome : Except E A} :
    failure? (outcome.map f) = failure? outcome := by
  cases outcome <;> rfl

end ServiceTree.Outcome
