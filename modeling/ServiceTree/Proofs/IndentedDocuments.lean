import ServiceTree.Proofs.CompactDocuments

/-!
# Reading indented documents

Between two tokens the reader passes over blanks. So the line breaks and the indentation that the
indented writer puts between tokens change nothing, and neither does a line break at the end: what is
written indented is read as what is written without any blanks.
-/

namespace ServiceTree.Json

/-! ## Blanks between tokens -/

/-- Whether the reader is between two tokens of a document that is not complete. -/
def Phase.IsBetween : Phase → Prop
  | .value | .firstItem | .firstKey | .key | .colon | .next => True
  | .finished _ | .text _ _ | .word _ _ | .number _ _ _ => False

/-- Between two tokens a blank leaves the reader where it is. -/
theorem step_space {state : State} (h : state.phase.IsBetween) {c : Char} (hspace : isSpace c = true) :
    step state c = some state := by
  obtain ⟨frames, phase⟩ := state
  cases phase with
  | value | firstItem | firstKey | key | colon => simp [step, hspace]
  | next => simp [step, stepBetween, afterValue, hspace]
  | finished | text | word | number => exact h.elim

/-- Between two tokens blanks are passed over. -/
theorem blanks_run {state : State} (h : state.phase.IsBetween) {blanks : List Char}
    (hblanks : ∀ c ∈ blanks, isSpace c = true) (rest : List Char) :
    run state (blanks ++ rest) = run state rest := by
  induction blanks with
  | nil => rfl
  | cons c blanks ih =>
    obtain ⟨hspace, hblanks⟩ := List.forall_mem_cons.mp hblanks
    rw [List.cons_append, run_cons, step_space h hspace, Option.bind_some, ih hblanks]

/-- Between two tokens a new line is passed over. -/
theorem newLine_run {state : State} (h : state.phase.IsBetween) (depth : Nat) (rest : List Char) :
    run state (newLine depth ++ rest) = run state rest := by
  refine blanks_run h (fun c hc => ?_) rest
  obtain rfl | hindent := List.mem_cons.mp hc
  · rfl
  · rw [List.eq_of_mem_replicate hindent]
    rfl

/-- A new line may stand behind a value. -/
theorem newLine_delimited (depth : Nat) (rest : List Char) : Delimited (newLine depth ++ rest) :=
  ⟨'\n', by decide, _, rfl⟩

/-- Items on lines of their own may stand behind a value. -/
theorem indentedMoreItems_delimited (depth : Nat) (items : List Json) {rest : List Char}
    (hrest : Delimited rest) : Delimited (indentedMoreItems depth items ++ rest) := by
  cases items with
  | nil => exact hrest
  | cons item more => exact ⟨',', by decide, _, rfl⟩

/-- Members on lines of their own may stand behind a value. -/
theorem indentedMoreMembers_delimited (depth : Nat) (members : List (String × Json))
    {rest : List Char} (hrest : Delimited rest) :
    Delimited (indentedMoreMembers depth members ++ rest) := by
  cases members with
  | nil => exact hrest
  | cons member more => exact ⟨',', by decide, _, rfl⟩

/-- A key on a line of its own and the blank behind its sign are read inside a record. -/
theorem indentedKey_run (done : List (Outline × Outline)) (frames : List Frame) {phase : Phase}
    (hphase : phase = .firstKey ∨ phase = .key) (depth : Nat) (key : String) (rest : List Char) :
    run ⟨.record done :: frames, phase⟩ (newLine depth ++ (quoted key ++ ':' :: ' ' :: rest)) =
      run ⟨.member done (.text (some key)) :: frames, .value⟩ rest := by
  have hbetween : phase.IsBetween := by obtain rfl | rfl := hphase <;> trivial
  have hblank : ∀ c ∈ [' '], isSpace c = true := by simp [isSpace]
  rw [newLine_run hbetween, key_run done frames hphase]
  exact blanks_run (by trivial) hblank rest

/-! ## Documents -/

-- Scalars and closed-up containers are written as in the compact form.
mutual

/-- Where a value is wanted, the indented text of a document is read as the document. -/
theorem indented_run : (depth : Nat) → (json : Json) → json.Whole →
    ∀ {state : State}, AwaitsValue state →
    ∀ {rest : List Char}, (∀ value, json = .number value → Delimited rest) →
      run state (indented depth json ++ rest) =
        (accept state.frames json.toOutline).bind (run · rest)
  | _, .null, hwhole, _, h, _, hrest => compact_run .null hwhole h hrest
  | _, .bool true, hwhole, _, h, _, hrest => compact_run (.bool true) hwhole h hrest
  | _, .bool false, hwhole, _, h, _, hrest => compact_run (.bool false) hwhole h hrest
  | _, .number value, hwhole, _, h, _, hrest => compact_run (.number value) hwhole h hrest
  | _, .text value, hwhole, _, h, _, hrest => compact_run (.text value) hwhole h hrest
  | _, .list [], hwhole, _, h, _, hrest => compact_run (.list []) hwhole h hrest
  | _, .record [], hwhole, _, h, _, hrest => compact_run (.record []) hwhole h hrest
  | depth, .list (item :: more), ⟨hitem, hmore⟩, state, h, rest, _ => by
    rw [indented, List.cons_append, List.append_assoc, List.append_assoc, List.append_assoc,
      List.append_assoc, List.singleton_append]
    refine (h.run_eq (by decide) (by decide) _).trans ?_
    refine (newLine_run (by trivial) (depth + 1) _).trans ?_
    refine (indented_run (depth + 1) item hitem (.firstItem state.frames) fun _ _ =>
      indentedMoreItems_delimited (depth + 1) more (newLine_delimited depth _)).trans ?_
    exact indentedMoreItems_run (depth + 1) more hmore [item.toOutline] state.frames depth rest
  | depth, .record ((key, member) :: more), ⟨hmember, hmore⟩, state, h, rest, _ => by
    rw [indented, List.cons_append, List.append_assoc, List.append_assoc, List.append_assoc,
      List.append_assoc, List.append_assoc, List.cons_append, List.cons_append, List.singleton_append]
    refine (h.run_eq (by decide) (by decide) _).trans ?_
    refine (indentedKey_run [] state.frames (.inl rfl) (depth + 1) key _).trans ?_
    refine (indented_run (depth + 1) member hmember (.member [] _ state.frames) fun _ _ =>
      indentedMoreMembers_delimited (depth + 1) more (newLine_delimited depth _)).trans ?_
    exact indentedMoreMembers_run (depth + 1) more hmore [(.text (some key), member.toOutline)]
      state.frames depth rest

/-- The items after the first are read behind those that are there, up to the end of the list on the line
below. -/
theorem indentedMoreItems_run : (depth : Nat) → (items : List Json) → ItemsWhole items →
    ∀ (done : List Outline) (frames : List Frame) (outer : Nat) (rest : List Char),
      run ⟨.list done :: frames, .next⟩
          (indentedMoreItems depth items ++ (newLine outer ++ ']' :: rest)) =
        (accept frames (.list (done.reverse ++ itemsToOutline items))).bind (run · rest)
  | _, [], _, done, frames, outer, rest => by
    rw [itemsToOutline, List.append_nil]
    exact newLine_run (by trivial) outer _
  | depth, item :: more, ⟨hitem, hmore⟩, done, frames, outer, rest => by
    rw [indentedMoreItems, List.cons_append, run_cons, List.append_assoc, List.append_assoc]
    refine (newLine_run (by trivial) depth _).trans ?_
    refine (indented_run depth item hitem (.item done frames) fun _ _ =>
      indentedMoreItems_delimited depth more (newLine_delimited outer _)).trans ?_
    refine (indentedMoreItems_run depth more hmore (item.toOutline :: done) frames outer rest).trans ?_
    rw [List.reverse_cons, List.append_assoc, itemsToOutline]
    rfl

/-- The members after the first are read behind those that are there, up to the end of the record on the
line below. -/
theorem indentedMoreMembers_run : (depth : Nat) → (members : List (String × Json)) →
    MembersWhole members →
    ∀ (done : List (Outline × Outline)) (frames : List Frame) (outer : Nat) (rest : List Char),
      run ⟨.record done :: frames, .next⟩
          (indentedMoreMembers depth members ++ (newLine outer ++ '\x7d' :: rest)) =
        (accept frames (.record (done.reverse ++ membersToOutline members))).bind (run · rest)
  | _, [], _, done, frames, outer, rest => by
    rw [membersToOutline, List.append_nil]
    exact newLine_run (by trivial) outer _
  | depth, (key, member) :: more, ⟨hmember, hmore⟩, done, frames, outer, rest => by
    rw [indentedMoreMembers, List.cons_append, run_cons, List.append_assoc, List.append_assoc,
      List.append_assoc, List.cons_append, List.cons_append]
    refine (indentedKey_run done frames (.inr rfl) depth key _).trans ?_
    refine (indented_run depth member hmember (.member done _ frames) fun _ _ =>
      indentedMoreMembers_delimited depth more (newLine_delimited outer _)).trans ?_
    refine (indentedMoreMembers_run depth more hmore ((.text (some key), member.toOutline) :: done)
      frames outer rest).trans ?_
    rw [List.reverse_cons, List.append_assoc, membersToOutline]
    rfl

end

/-- A document is read from its indented text with a line break at the end. -/
theorem outline?_indented {json : Json} (hwhole : json.Whole) :
    outline? (indented 0 json ++ ['\n']) = some json.toOutline := by
  rw [outline?_eq, indented_run 0 json hwhole .document fun _ _ => ⟨'\n', by decide, _, rfl⟩]
  rfl

end ServiceTree.Json
