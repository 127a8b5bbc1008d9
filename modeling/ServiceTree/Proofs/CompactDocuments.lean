import Mathlib.Data.List.Forall2
import ServiceTree.Json.Reader
import ServiceTree.Json.Writer

/-!
# Reading compact documents

The reader undoes the compact writer. Wherever a value is wanted, reading the text of a document puts the
outline of the document there and goes on with what follows; so a document that is written as a whole
is read as it was. What the text of a number means is kept apart: its end shows only at the character
behind it.
-/

namespace ServiceTree.Json

/-! ## Runs of the reader -/

/-- The state of the reader after a text. -/
def run (state : State) (text : List Char) : Option State := text.foldlM step state

/-- Nothing is read from no text. -/
theorem run_nil (state : State) : run state [] = some state := rfl

/-- A text is read from its first character on. -/
theorem run_cons (state : State) (c : Char) (rest : List Char) :
    run state (c :: rest) = (step state c).bind (run · rest) := rfl

/-- Texts are read one after the other. -/
theorem run_append (state : State) (front rest : List Char) :
    run state (front ++ rest) = (run state front).bind (run · rest) :=
  List.foldlM_append

/-- The text of a whole document is read from the start, and nothing may be open at its end. -/
theorem outline?_eq (text : List Char) : outline? text = (run start text).bind finish := rfl

/-! ## Texts in quotes -/

/-- What a text is written with stands for a character, whatever follows. -/
def Piece.Writes (piece : Piece) (c : Char) : Prop :=
  ∀ rest, readPieces (piece :: rest) = (readPieces rest).map (c :: ·)

/-- Pieces that stand for characters one by one are read as these. -/
theorem readPieces_of_writes {pieces : List Piece} {text : List Char}
    (h : List.Forall₂ Piece.Writes pieces text) : readPieces pieces = some text := by
  induction h with
  | nil => rfl
  | cons hfirst _ ih => rw [hfirst, ih, Option.map_some]

/-- A character that is written by itself stands for itself. -/
theorem char_writes (c : Char) : Piece.Writes (.char c) c := fun _ => rfl

/-- The number of a control character stands for the character: it belongs to no pair. -/
theorem unit_writes {c : Char} (hsmall : c.toNat < 0x20) : Piece.Writes (.unit c.toNat) c := by
  intro rest
  have hopens : opensPair c.toNat = false := by
    rw [opensPair, decide_eq_false (by omega), Bool.false_and]
  have hcloses : closesPair c.toNat = false := by
    rw [closesPair, decide_eq_false (by omega), Bool.false_and]
  rw [readPieces.eq_def]
  simp only [hopens, hcloses, Char.ofNat_toNat, Bool.false_eq_true, if_false]

/-- A hexadecimal digit is read as its value. -/
theorem hexValue?_hexDigit : ∀ value < 16, Numeral.hexValue? (hexDigit value) = some value := by
  decide

/-- A control character is read from its number in four digits. -/
theorem controlChar_run (frames : List Frame) (pieces : List Piece) {c : Char}
    (hsmall : c.toNat < 0x20) :
    run ⟨frames, .text pieces .none⟩
        ['\\', 'u', '0', '0', hexDigit (c.toNat / 16), hexDigit (c.toNat % 16)] =
      some ⟨frames, .text (.unit c.toNat :: pieces) .none⟩ := by
  have hhigh := hexValue?_hexDigit (c.toNat / 16) (by omega)
  have hlow := hexValue?_hexDigit (c.toNat % 16) (by omega)
  have hvalue : 16 * (c.toNat / 16) + c.toNat % 16 = c.toNat := by omega
  have hzero : Numeral.hexValue? '0' = some 0 := by decide
  simp [run_cons, run_nil, step, stepText, hzero, hhigh, hlow, hvalue]

/-- A character is read from its form inside quotes. -/
theorem quotedChar_run (frames : List Frame) (pieces : List Piece) (c : Char) :
    ∃ piece : Piece, piece.Writes c ∧
      run ⟨frames, .text pieces .none⟩ (quotedChar c) =
        some ⟨frames, .text (piece :: pieces) .none⟩ := by
  have hescaped (sign value : Char) (hsign : sign ≠ 'u') (hvalue : escapedChar? sign = some value) :
      ∃ piece : Piece, piece.Writes value ∧ run ⟨frames, .text pieces .none⟩ ['\\', sign] =
        some ⟨frames, .text (piece :: pieces) .none⟩ :=
    ⟨_, char_writes value, by simp [run_cons, run_nil, step, stepText, hsign, hvalue]⟩
  unfold quotedChar
  simp only [beq_iff_eq]
  split_ifs with hquote hbackslash hbackspace hfeed hline hreturn htab hsmall
  rotate_right 2
  · exact ⟨_, unit_writes hsmall, controlChar_run frames pieces hsmall⟩
  · exact ⟨_, char_writes c, by simp [run_cons, run_nil, step, stepText, hquote, hbackslash, hsmall]⟩
  -- The seven other characters are escaped by a sign each.
  all_goals subst c
  all_goals exact hescaped _ _ (by decide) rfl

/-- A text is read from its form inside quotes. -/
theorem quotedChars_run (frames : List Frame) (done : List Piece) (text : List Char) :
    ∃ pieces, List.Forall₂ Piece.Writes pieces text ∧
      run ⟨frames, .text done .none⟩ (text.flatMap quotedChar) =
        some ⟨frames, .text (pieces.reverse ++ done) .none⟩ := by
  induction text generalizing done with
  | nil => exact ⟨[], .nil, rfl⟩
  | cons c rest ih =>
    obtain ⟨piece, hpiece, hfirst⟩ := quotedChar_run frames done c
    obtain ⟨pieces, hpieces, hrest⟩ := ih (piece :: done)
    refine ⟨piece :: pieces, .cons hpiece hpieces, ?_⟩
    rw [List.flatMap_cons, run_append, hfirst, Option.bind_some, hrest, List.reverse_cons,
      List.append_assoc, List.singleton_append]

/-- A text is put where it belongs at its closing quote. -/
theorem closingQuote_run (frames : List Frame) (text : String) (rest : List Char) :
    ∃ pieces, (readPieces pieces.reverse).map String.ofList = some text ∧
      run ⟨frames, .text [] .none⟩ (text.toList.flatMap quotedChar ++ '"' :: rest) =
        (acceptText frames pieces).bind (run · rest) := by
  obtain ⟨pieces, hpieces, hrun⟩ := quotedChars_run frames [] text.toList
  refine ⟨pieces.reverse, ?_, ?_⟩
  · rw [List.reverse_reverse, readPieces_of_writes hpieces, Option.map_some, String.ofList_toList]
  · rw [run_append, hrun, Option.bind_some, run_cons, List.append_nil]
    rfl

/-! ## Where values are wanted -/

/-- A value is wanted: as the document, as an item of a list, or as the member of a key. -/
inductive AwaitsValue : State → Prop
  | document : AwaitsValue start
  | firstItem (frames : List Frame) : AwaitsValue ⟨.list [] :: frames, .firstItem⟩
  | item (done : List Outline) (frames : List Frame) : AwaitsValue ⟨.list done :: frames, .value⟩
  | member (done : List (Outline × Outline)) (key : Outline) (frames : List Frame) :
    AwaitsValue ⟨.member done key :: frames, .value⟩

namespace AwaitsValue

variable {state : State}

/-- Where a value is wanted, a character that neither is a blank nor ends a list begins one. -/
theorem step_eq (h : AwaitsValue state) {c : Char} (hspace : isSpace c = false) (hend : c ≠ ']') :
    step state c = openValue state.frames c := by
  cases h <;> simp [step, start, hspace, hend]

/-- Where a value is wanted, a text is read from the character that begins one. -/
theorem run_eq (h : AwaitsValue state) {c : Char} (hspace : isSpace c = false) (hend : c ≠ ']')
    (rest : List Char) : run state (c :: rest) = (openValue state.frames c).bind (run · rest) := by
  rw [run_cons, h.step_eq hspace hend]

/-- Where a value is wanted, a text is a value and no key. -/
theorem acceptText_eq (h : AwaitsValue state) (pieces : List Piece) :
    acceptText state.frames pieces =
      accept state.frames (.text ((readPieces pieces.reverse).map String.ofList)) := by
  cases h <;> rfl

/-- Where a value is wanted, a text in quotes is read as the text. -/
theorem quoted_run (h : AwaitsValue state) (text : String) (rest : List Char) :
    run state (quoted text ++ rest) =
      (accept state.frames (.text (some text))).bind (run · rest) := by
  obtain ⟨pieces, hpieces, hrun⟩ := closingQuote_run state.frames text rest
  rw [quoted, List.cons_append, List.append_assoc, h.run_eq (by decide) (by decide)]
  exact hrun.trans (by rw [h.acceptText_eq, hpieces])

end AwaitsValue

/-- A key in quotes and the sign behind it are read inside a record. -/
theorem key_run (done : List (Outline × Outline)) (frames : List Frame) {phase : Phase}
    (hphase : phase = .firstKey ∨ phase = .key) (key : String) (rest : List Char) :
    run ⟨.record done :: frames, phase⟩ (quoted key ++ ':' :: rest) =
      run ⟨.member done (.text (some key)) :: frames, .value⟩ rest := by
  obtain ⟨pieces, hpieces, hrun⟩ := closingQuote_run (.record done :: frames) key (':' :: rest)
  have hopen : step ⟨.record done :: frames, phase⟩ '"' =
      some ⟨.record done :: frames, .text [] .none⟩ := by
    obtain rfl | rfl := hphase <;> rfl
  rw [quoted, List.cons_append, List.append_assoc, run_cons, hopen]
  refine hrun.trans ?_
  rw [acceptText, hpieces]
  rfl

/-! ## Whole numbers -/

/-- The reader is inside a whole number that may end here, and then it has the value. -/
def InInteger (frames : List Frame) (value : Int) (state : State) : Prop :=
  ∃ part literal, state = ⟨frames, .number part literal false⟩ ∧ (part = .zero ∨ part = .whole) ∧
    literal.number? = some (.integer value)

/-- Whether an integer fits a machine word, with a sign or without. -/
def FitsWord (value : Int) : Prop := Int64.minValue.toInt ≤ value ∧ value < UInt64.size

/-- A digit is read as its value, and only nought is the digit of nought. -/
theorem digitChar_spec : ∀ digit < 10, digitValue digit.digitChar = digit ∧
    digit.digitChar.isDigit = true ∧ (0 < digit → digit.digitChar ≠ '0') := by
  decide

/-- The digits of a number that is not nought are gathered, wherever its first digit begins a number. -/
theorem digits_run {state : State} {frames : List Frame} {negative : Bool}
    (hfirst : ∀ c : Char, c.isDigit = true → c ≠ '0' →
      step state c = some ⟨frames, .number .whole ⟨negative, digitValue c, 0, 0, true⟩ false⟩)
    (size : Nat) (hpositive : 0 < size) :
    run state (Nat.toDigits 10 size) =
      some ⟨frames, .number .whole ⟨negative, size, 0, 0, true⟩ false⟩ := by
  induction size using Nat.strongRecOn with
  | ind size ih =>
    by_cases hsmall : size < 10
    · obtain ⟨hvalue, hdigit, hzero⟩ := digitChar_spec size hsmall
      rw [Nat.toDigits_of_lt_base hsmall, run_cons, hfirst _ hdigit (hzero hpositive), hvalue]
      rfl
    · obtain ⟨hvalue, hdigit, -⟩ := digitChar_spec (size % 10) (by omega)
      -- the last digit is pushed onto the number that the others write
      have hpush : 10 * (size / 10) + size % 10 = size := by omega
      rw [Nat.toDigits_of_base_le (by decide) (by omega), run_append,
        ih (size / 10) (by omega) (by omega), Option.bind_some, run_cons]
      simp [step, stepNumber, continueNumber, hdigit, Literal.pushWhole, pushDigit, hvalue, hpush,
        run_nil]

/-- Where a value is wanted, a digit other than nought begins a whole number. -/
theorem AwaitsValue.step_digit {state : State} (h : AwaitsValue state) {c : Char}
    (hdigit : c.isDigit = true) (hzero : c ≠ '0') :
    step state c = some ⟨state.frames, .number .whole ⟨false, digitValue c, 0, 0, true⟩ false⟩ := by
  have hother (other : Char) (hnot : other.isDigit = false) : c ≠ other := by
    rintro rfl
    exact absurd hdigit (by simp [hnot])
  have hspace : isSpace c = false := by
    simp [isSpace, hother ' ' rfl, hother '\n' rfl, hother '\t' rfl, hother '\r' rfl]
  rw [h.step_eq hspace (hother ']' rfl)]
  unfold openValue
  split
  case h_8 => exact absurd rfl hzero
  case h_9 => rw [if_pos hdigit]
  all_goals exact absurd hdigit (by decide)

/-- Where a value is wanted, an integer of a machine word is read as itself. -/
theorem AwaitsValue.integer_run {state : State} (h : AwaitsValue state) {value : Int}
    (hfits : FitsWord value) :
    ∃ next, run state (integerText value) = some next ∧ InInteger state.frames value next := by
  obtain ⟨hleast, hgreatest⟩ := hfits
  obtain hnegative | rfl | hpositive := Int.lt_trichotomy value 0
  · refine ⟨_, ?_, .whole, ⟨true, value.natAbs, 0, 0, true⟩, rfl, .inr rfl, ?_⟩
    · rw [integerText, if_pos hnegative, h.run_eq (by decide) (by decide)]
      refine digits_run (fun c hdigit hzero => ?_) _ (by omega)
      simp [step, stepNumber, continueNumber, hdigit, hzero, Literal.pushWhole, pushDigit]
    · have habs : -(value.natAbs : Int) = value := by omega
      have hsize : 0 < value.natAbs := by omega
      simp only [Literal.number?, habs, hleast, hsize, decide_true, Bool.and_self, if_true]
  · refine ⟨_, ?_, .zero, ⟨false, 0, 0, 0, true⟩, rfl, .inl rfl, by decide⟩
    exact h.run_eq (by decide) (by decide) _
  · refine ⟨_, ?_, .whole, ⟨false, value.natAbs, 0, 0, true⟩, rfl, .inr rfl, ?_⟩
    · rw [integerText, if_neg (by omega)]
      exact digits_run (fun c hdigit hzero => h.step_digit hdigit hzero) _ (by omega)
    · have habs : (value.natAbs : Int) = value := by omega
      have hsize : value.natAbs < UInt64.size := by omega
      simp only [Literal.number?, habs, hsize, decide_true, Bool.not_false, Bool.and_true,
        Bool.and_false, Bool.false_and, Bool.false_eq_true, if_false, if_true]

/-- What may stand behind a value. -/
def valueEnds : List Char := [' ', '\n', '\t', '\r', ',', ']', '\x7d']

/-- A text that begins with the end of a value before it. -/
def Delimited (rest : List Char) : Prop := ∃ c ∈ valueEnds, ∃ tail, rest = c :: tail

/-- A complete value goes on with what stands between two tokens. -/
theorem step_of_accept {frames : List Frame} {value : Outline} {next : State}
    (h : accept frames value = some next) (c : Char) : step next c = stepBetween next c := by
  unfold accept at h
  split at h
  case h_4 => cases h
  all_goals
    cases h
    rfl

/-- A whole number has its value where it ends. -/
theorem numberEnd?_eq {part : NumberPart} {literal : Literal} {value : Int}
    (hpart : part = .zero ∨ part = .whole) (hnumber : literal.number? = some (.integer value)) :
    numberEnd? part literal false = some (.number (some (.integer value))) := by
  obtain rfl | rfl := hpart <;> simp [numberEnd?, completed, hnumber]

namespace InInteger

variable {frames : List Frame} {value : Int} {state : State}

/-- A whole number ends at what may stand behind it. -/
theorem run_delimited (h : InInteger frames value state) {rest : List Char} (hrest : Delimited rest) :
    run state rest = (accept frames (.number (some (.integer value)))).bind (run · rest) := by
  obtain ⟨part, literal, rfl, hpart, hnumber⟩ := h
  obtain ⟨c, hc, tail, rfl⟩ := hrest
  have hstop : continueNumber part literal false c = none := by
    simp only [valueEnds, List.mem_cons, List.not_mem_nil, or_false] at hc
    obtain rfl | rfl := hpart <;> obtain rfl | rfl | rfl | rfl | rfl | rfl | rfl := hc <;> rfl
  have hend := numberEnd?_eq hpart hnumber
  rw [run_cons]
  simp only [step, stepNumber, hstop, hend, Option.bind_eq_bind, Option.bind_some]
  cases haccept : accept frames (.number (some (.integer value))) with
  | none => rfl
  | some next => simp only [Option.bind_some, run_cons, step_of_accept haccept]

/-- A whole number that is the document ends with the text. -/
theorem finish_eq (h : InInteger [] value state) :
    finish state = some (.number (some (.integer value))) := by
  obtain ⟨part, literal, rfl, hpart, hnumber⟩ := h
  exact numberEnd?_eq hpart hnumber

end InInteger

/-! ## Documents -/

mutual

/-- Whether every number of a document is an integer of a machine word. -/
def Whole : Json → Prop
  | .null => True
  | .bool _ => True
  | .number (.integer value) => FitsWord value
  | .number (.decimal _) => False
  | .text _ => True
  | .list items => ItemsWhole items
  | .record members => MembersWhole members
  termination_by structural json => json

/-- Whether every number in a list of documents is an integer of a machine word. -/
def ItemsWhole : List Json → Prop
  | [] => True
  | item :: rest => Whole item ∧ ItemsWhole rest
  termination_by structural items => items

/-- Whether every number in the members of a record is an integer of a machine word. -/
def MembersWhole : List (String × Json) → Prop
  | [] => True
  | (_, member) :: rest => Whole member ∧ MembersWhole rest
  termination_by structural members => members

end

/-- A text holds no numbers. -/
@[simp]
theorem whole_text (value : String) : (text value).Whole := trivial

/-- A truth value holds no numbers. -/
@[simp]
theorem whole_bool (value : Bool) : (bool value).Whole := trivial

/-- The numbers of a list are those of its items. -/
@[simp]
theorem whole_list {items : List Json} : (list items).Whole ↔ ∀ item ∈ items, item.Whole := by
  change ItemsWhole items ↔ _
  induction items with
  | nil => simp [ItemsWhole]
  | cons item rest ih => simp [ItemsWhole, ih]

/-- The numbers of a record are those of its members. -/
@[simp]
theorem whole_record {members : List (String × Json)} :
    (record members).Whole ↔ ∀ member ∈ members, member.2.Whole := by
  change MembersWhole members ↔ _
  induction members with
  | nil => simp [MembersWhole]
  | cons member rest ih => simp [MembersWhole, ih]

/-- What follows an item of a list may stand behind a value. -/
theorem compactMoreItems_delimited (items : List Json) (rest : List Char) :
    Delimited (compactMoreItems items ++ ']' :: rest) := by
  cases items with
  | nil => exact ⟨']', by decide, _, rfl⟩
  | cons item more => exact ⟨',', by decide, _, rfl⟩

/-- What follows a member of a record may stand behind a value. -/
theorem compactMoreMembers_delimited (members : List (String × Json)) (rest : List Char) :
    Delimited (compactMoreMembers members ++ '\x7d' :: rest) := by
  cases members with
  | nil => exact ⟨'\x7d', by decide, _, rfl⟩
  | cons member more => exact ⟨',', by decide, _, rfl⟩

-- Only a number asks what stands behind it, so that a whole document may end with its text.
mutual

/-- Where a value is wanted, the compact text of a document is read as the document. -/
theorem compact_run : (json : Json) → json.Whole → ∀ {state : State}, AwaitsValue state →
    ∀ {rest : List Char}, (∀ value, json = .number value → Delimited rest) →
      run state (compact json ++ rest) = (accept state.frames json.toOutline).bind (run · rest)
  | .null, _, state, h, rest, _ => h.run_eq (by decide) (by decide) _
  | .bool true, _, state, h, rest, _ => h.run_eq (by decide) (by decide) _
  | .bool false, _, state, h, rest, _ => h.run_eq (by decide) (by decide) _
  | .number (.integer value), hfits, state, h, rest, hrest => by
    obtain ⟨next, hrun, hnext⟩ := h.integer_run hfits
    rw [compact, numberText, run_append, hrun, Option.bind_some, hnext.run_delimited (hrest _ rfl)]
    rfl
  | .text value, _, state, h, rest, _ => h.quoted_run value rest
  | .list [], _, state, h, rest, _ => h.run_eq (by decide) (by decide) _
  | .list (item :: more), ⟨hitem, hmore⟩, state, h, rest, _ => by
    rw [compact, compactItems, List.cons_append, List.append_assoc, List.append_assoc,
      List.singleton_append]
    refine (h.run_eq (by decide) (by decide) _).trans ?_
    refine (compact_run item hitem (.firstItem state.frames)
      fun _ _ => compactMoreItems_delimited more rest).trans ?_
    exact compactMoreItems_run more hmore [item.toOutline] state.frames rest
  | .record [], _, state, h, rest, _ => h.run_eq (by decide) (by decide) _
  | .record ((key, member) :: more), ⟨hmember, hmore⟩, state, h, rest, _ => by
    rw [compact, compactMembers, List.cons_append, List.append_assoc, List.append_assoc,
      List.cons_append, List.append_assoc, List.singleton_append]
    refine (h.run_eq (by decide) (by decide) _).trans ?_
    refine (key_run [] state.frames (.inl rfl) key _).trans ?_
    refine (compact_run member hmember (.member [] _ state.frames)
      fun _ _ => compactMoreMembers_delimited more rest).trans ?_
    exact compactMoreMembers_run more hmore [(.text (some key), member.toOutline)]
      state.frames rest

/-- The items after the first are read behind those that are there, up to the end of the list. -/
theorem compactMoreItems_run : (items : List Json) → ItemsWhole items →
    ∀ (done : List Outline) (frames : List Frame) (rest : List Char),
      run ⟨.list done :: frames, .next⟩ (compactMoreItems items ++ ']' :: rest) =
        (accept frames (.list (done.reverse ++ itemsToOutline items))).bind (run · rest)
  | [], _, done, frames, rest => by
    rw [itemsToOutline, List.append_nil]
    rfl
  | item :: more, ⟨hitem, hmore⟩, done, frames, rest => by
    rw [compactMoreItems, List.cons_append, run_cons, List.append_assoc]
    refine (compact_run item hitem (.item done frames)
      fun _ _ => compactMoreItems_delimited more rest).trans ?_
    refine (compactMoreItems_run more hmore (item.toOutline :: done) frames rest).trans ?_
    rw [List.reverse_cons, List.append_assoc, itemsToOutline]
    rfl

/-- The members after the first are read behind those that are there, up to the end of the record. -/
theorem compactMoreMembers_run : (members : List (String × Json)) → MembersWhole members →
    ∀ (done : List (Outline × Outline)) (frames : List Frame) (rest : List Char),
      run ⟨.record done :: frames, .next⟩ (compactMoreMembers members ++ '\x7d' :: rest) =
        (accept frames (.record (done.reverse ++ membersToOutline members))).bind (run · rest)
  | [], _, done, frames, rest => by
    rw [membersToOutline, List.append_nil]
    rfl
  | (key, member) :: more, ⟨hmember, hmore⟩, done, frames, rest => by
    rw [compactMoreMembers, List.cons_append, run_cons, List.append_assoc, List.cons_append,
      List.append_assoc]
    refine (key_run done frames (.inr rfl) key _).trans ?_
    refine (compact_run member hmember (.member done _ frames)
      fun _ _ => compactMoreMembers_delimited more rest).trans ?_
    refine (compactMoreMembers_run more hmore ((.text (some key), member.toOutline) :: done)
      frames rest).trans ?_
    rw [List.reverse_cons, List.append_assoc, membersToOutline]
    rfl

end

/-- A document is read from its compact text. -/
theorem outline?_compact {json : Json} (hwhole : json.Whole) :
    outline? (compact json) = some json.toOutline := by
  rw [outline?_eq]
  by_cases hnumber : ∃ value, json = .number (.integer value)
  · obtain ⟨value, rfl⟩ := hnumber
    obtain ⟨next, hrun, hnext⟩ := AwaitsValue.document.integer_run hwhole
    rw [compact, numberText, hrun, Option.bind_some, hnext.finish_eq]
    rfl
  · rw [← List.append_nil (compact json), compact_run json hwhole .document ?_]
    · rfl
    · rintro (value | value) rfl
      · exact absurd ⟨value, rfl⟩ hnumber
      · exact hwhole.elim

end ServiceTree.Json
