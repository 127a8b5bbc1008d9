import ServiceTree.Proofs.TimestampText
import ServiceTree.Query.Literal

/-!
# Query literals

The literal of a value stands for what the value stands for: the same truth value, integer, text, or instant
with the offset of its clock. A text stands for what it writes under the kind of the parameter, in any of the
spellings that are accepted. So the literal of a value is its own literal, and two values have one literal
just if they stand for one thing.
-/

namespace ServiceTree

/-! ## Integers as texts -/

/-- The integer that a text writes: decimal digits, one at least, behind either sign or none. -/
inductive WritesInteger : List Char → Int → Prop
  | plain {digits : List Char} (hdigits : Numeral.isDigits digits = true) :
      WritesInteger digits (readDigits digits)
  | plus {digits : List Char} (hdigits : Numeral.isDigits digits = true) :
      WritesInteger ('+' :: digits) (readDigits digits)
  | minus {digits : List Char} (hdigits : Numeral.isDigits digits = true) :
      WritesInteger ('-' :: digits) (-readDigits digits)

namespace Numeral

/-- Digits are one character at least, and each is a digit. -/
theorem isDigits_iff {digits : List Char} :
    isDigits digits = true ↔ digits ≠ [] ∧ ∀ c ∈ digits, c.isDigit = true := by
  simp [isDigits]

/-- Digits have no sign in front. -/
theorem splitSign_of_isDigits {digits : List Char} (h : isDigits digits = true) :
    splitSign digits = (false, digits) := by
  obtain ⟨-, hdigits⟩ := isDigits_iff.mp h
  rw [splitSign.eq_def]
  split
  · exact absurd (hdigits _ List.mem_cons_self) (by decide)
  · exact absurd (hdigits _ List.mem_cons_self) (by decide)
  · rfl

/-- The integer that a text writes is that of the digits behind its sign. -/
theorem writesInteger_iff {text : List Char} {value : Int} :
    WritesInteger text value ↔ isDigits (splitSign text).2 = true ∧
      value = if (splitSign text).1 then -(readDigits (splitSign text).2 : Int)
        else readDigits (splitSign text).2 := by
  constructor
  · intro h
    cases h with
    | plain hdigits =>
      rw [splitSign_of_isDigits hdigits]
      exact ⟨hdigits, rfl⟩
    | plus hdigits => exact ⟨hdigits, rfl⟩
    | minus hdigits => exact ⟨hdigits, rfl⟩
  · rintro ⟨hdigits, rfl⟩
    revert hdigits
    rw [splitSign.eq_def]
    split
    · exact fun hdigits => .minus hdigits
    · exact fun hdigits => .plus hdigits
    · exact fun hdigits => .plain hdigits

end Numeral

/-- The text of an integer writes it. -/
theorem writesInteger_integerText (value : Int) : WritesInteger (Json.integerText value) value := by
  have hdigits : Numeral.isDigits (Nat.toDigits 10 value.natAbs) = true :=
    Numeral.isDigits_iff.mpr ⟨List.ne_nil_of_length_pos Nat.length_toDigits_pos,
      fun _ => Nat.isDigit_of_mem_toDigits (by decide) (by decide)⟩
  rw [Json.integerText]
  by_cases hnegative : value < 0
  · have hvalue : value = -(readDigits (Nat.toDigits 10 value.natAbs) : Int) := by
      rw [readDigits_toDigits]
      omega
    rw [if_pos hnegative]
    have hwrites := WritesInteger.minus hdigits
    rwa [← hvalue] at hwrites
  · have hvalue : value = (readDigits (Nat.toDigits 10 value.natAbs) : Int) := by
      rw [readDigits_toDigits]
      omega
    rw [if_neg hnegative]
    have hwrites := WritesInteger.plain hdigits
    rwa [← hvalue] at hwrites

namespace Query

/-- A text is read as the machine word that it writes. -/
theorem integer?_eq_some_iff {text : String} {value : Int64} :
    integer? text = some value ↔ WritesInteger text.toList value.toInt := by
  rw [Numeral.writesInteger_iff, integer?]
  generalize Numeral.splitSign text.toList = split
  obtain ⟨negative, digits⟩ := split
  simp only
  generalize (if negative then -(readDigits digits : Int) else readDigits digits) = written
  split
  case isTrue hdigits =>
    rw [and_iff_right hdigits]
    constructor
    · intro h
      split at h
      case isTrue hword =>
        cases h
        obtain ⟨hleast, hgreatest⟩ := Bool.and_eq_true_iff.mp hword
        rw [decide_eq_true_eq, Int64.toInt_minValue] at hleast
        rw [decide_eq_true_eq, Int64.toInt_maxValue] at hgreatest
        exact Int64.toInt_ofInt_of_le hleast (Int.lt_of_le_sub_one hgreatest)
      case isFalse => cases h
    · rintro rfl
      rw [decide_eq_true value.minValue_le_toInt, decide_eq_true value.toInt_le, Bool.and_self, if_pos rfl,
        Int64.ofInt_toInt]
  case isFalse hno => simp [hno]

/-- The literal of an integer is read as the integer. -/
theorem integer?_integerLiteral (value : Int64) : integer? (integerLiteral value) = some value := by
  rw [integer?_eq_some_iff, integerLiteral, String.toList_ofList]
  exact writesInteger_integerText value.toInt

end Query

/-- Whether a value is written so that it can be read back: only a date can be one that is not. -/
def Value.IsWritable (value : Value) : Prop := ∀ stamp, value = .date stamp → stamp.Writable

namespace Query

/-! ## What values stand for -/

/-- What a literal stands for. -/
inductive Meaning where
  | truth (value : Bool)
  | integer (value : Int64)
  /-- An instant, and the offset of the clock that shows it. -/
  | moment (stamp : Timestamp)
  | text (value : String)

/-- What a value stands for under a kind: itself, or what it writes. -/
inductive Denotes : PrimitiveKind → Value → Meaning → Prop
  | truth (value : Bool) : Denotes .boolean (.boolean value) (.truth value)
  | trueText : Denotes .boolean (.string "true") (.truth true)
  | falseText : Denotes .boolean (.string "false") (.truth false)
  | integer (value : Int64) : Denotes .integer (.integer value) (.integer value)
  | integerText {text : String} {value : Int64} (hwrites : WritesInteger text.toList value.toInt) :
      Denotes .integer (.string text) (.integer value)
  | date (stamp : Timestamp) : Denotes .date (.date stamp) (.moment stamp)
  | dateText {text : String} {stamp : Timestamp} (hread : Rfc3339.read? text = some stamp) :
      Denotes .date (.string text) (.moment stamp)
  | text (value : String) : Denotes .string (.string value) (.text value)

namespace Meaning

/-- The literal of what is meant. -/
def literal : Meaning → String
  | .truth value => booleanLiteral value
  | .integer value => integerLiteral value
  | .moment stamp => Rfc3339.write stamp
  | .text value => value

end Meaning

/-- A text stands for the truth value that it is read as. -/
theorem boolean?_eq_some_iff {text : String} {value : Bool} :
    boolean? text = some value ↔ text = booleanLiteral value := by
  simp only [boolean?, booleanLiteral, beq_iff_eq]
  split_ifs <;> simp_all

variable {kind : PrimitiveKind} {value : Value} {meaning other : Meaning}

/-- What stands for something under a kind is written as the literal of it. -/
theorem Denotes.literal? (h : Denotes kind value meaning) :
    Query.literal? kind value = some meaning.literal := by
  cases h with
  | truth | trueText | falseText | integer | date | text => rfl
  | integerText hwrites =>
    rw [Query.literal?, integer?_eq_some_iff.mpr hwrites]
    rfl
  | dateText hread =>
    rw [Query.literal?, hread]
    rfl

/-- What has a literal under a kind, other than that of decimals, stands for something under the kind. -/
theorem exists_denotes (hkind : kind ≠ .decimal) {text : String} (h : literal? kind value = some text) :
    ∃ meaning, Denotes kind value meaning := by
  rw [literal?.eq_def] at h
  split at h
  case h_1 value => exact ⟨_, .truth value⟩
  case h_2 text =>
    obtain ⟨value, hvalue, -⟩ := Option.map_eq_some_iff.mp h
    obtain rfl := boolean?_eq_some_iff.mp hvalue
    cases value with
    | true => exact ⟨_, .trueText⟩
    | false => exact ⟨_, .falseText⟩
  case h_3 value => exact ⟨_, .integer value⟩
  case h_4 text =>
    obtain ⟨value, hvalue, -⟩ := Option.map_eq_some_iff.mp h
    exact ⟨_, .integerText (integer?_eq_some_iff.mp hvalue)⟩
  case h_5 | h_6 | h_7 => exact absurd rfl hkind
  case h_8 stamp => exact ⟨_, .date stamp⟩
  case h_9 text =>
    obtain ⟨stamp, hread, -⟩ := Option.map_eq_some_iff.mp h
    exact ⟨_, .dateText hread⟩
  case h_10 text => exact ⟨_, .text text⟩
  case h_11 => cases h

/-- A value stands for one thing under a kind. -/
theorem Denotes.unique (h : Denotes kind value meaning) (hother : Denotes kind value other) :
    meaning = other := by
  cases h with
  | truth | integer | date | text =>
    cases hother
    rfl
  | trueText =>
    generalize htext : "true" = text at hother
    cases hother with
    | trueText => rfl
    | falseText => exact absurd htext (by decide)
  | falseText =>
    generalize htext : "false" = text at hother
    cases hother with
    | trueText => exact absurd htext (by decide)
    | falseText => rfl
  | integerText hwrites =>
    cases hother with
    | integerText hother =>
      rw [← integer?_eq_some_iff] at hwrites hother
      cases hwrites.symm.trans hother
      rfl
  | dateText hread =>
    cases hother with
    | dateText hother =>
      cases hread.symm.trans hother
      rfl

/-- The literal of what a value stands for stands for the same. -/
theorem Denotes.of_literal (h : Denotes kind value meaning) (hvalue : value.IsWritable) :
    Denotes kind (.string meaning.literal) meaning := by
  cases h with
  | truth value =>
    cases value with
    | true => exact .trueText
    | false => exact .falseText
  | trueText => exact .trueText
  | falseText => exact .falseText
  | integer value | integerText => exact .integerText (integer?_eq_some_iff.mp (integer?_integerLiteral _))
  | date stamp => exact .dateText (Rfc3339.read?_write (hvalue stamp rfl))
  | dateText hread => exact .dateText (Rfc3339.read?_write (Rfc3339.writable_of_read? hread))
  | text value => exact .text value

/-- Only scalars have literals. -/
theorem literal?_eq_none (hscalar : value.primitiveKind? = none) : literal? kind value = none := by
  cases value <;> cases hscalar
  all_goals cases kind <;> rfl

/-- A value is rendered under a declared kind if it has a literal and the calendar covers it. -/
theorem render_eq_ok_iff {name text : String} :
    render name (some kind) value = .ok (some text) ↔
      literal? kind value = some text ∧ value.isOnCalendar = true := by
  rw [render]
  split
  case isTrue hnull =>
    cases value <;> cases hnull
    have hnone : literal? kind .null = none := literal?_eq_none rfl
    simp [hnone]
  case isFalse =>
    split
    case h_1 hscalar => simp [literal?_eq_none hscalar]
    case h_2 =>
      simp only [Option.getD_some]
      split
      case h_1 written hwritten => split <;> simp_all
      case h_2 hnone => simp [hnone]

end Query

/-! ## Canonical literals -/

/-- The literal of a value is its own literal and stands for just what the value stands for. Two values have
one literal just if they stand for one thing. -/
theorem literal_canonical {kind : PrimitiveKind} (hkind : kind ≠ .decimal) {name : String} {value : Value}
    {text : String} (hvalue : value.IsWritable)
    (haccepted : Query.render name (some kind) value = .ok (some text)) :
    Query.render name (some kind) (.string text) = .ok (some text) ∧
    ((∃! meaning, Query.Denotes kind value meaning) ∧
      ∀ meaning, Query.Denotes kind (.string text) meaning ↔ Query.Denotes kind value meaning) ∧
    ∀ (otherName : String) (other : Value) (otherText : String), other.IsWritable →
      Query.render otherName (some kind) other = .ok (some otherText) →
      (otherText = text ↔
        ∃ meaning, Query.Denotes kind value meaning ∧ Query.Denotes kind other meaning) := by
  obtain ⟨hliteral, -⟩ := Query.render_eq_ok_iff.mp haccepted
  obtain ⟨meaning, hmeaning⟩ := Query.exists_denotes hkind hliteral
  cases hmeaning.literal?.symm.trans hliteral
  have hback := hmeaning.of_literal hvalue
  refine ⟨Query.render_eq_ok_iff.mpr ⟨hback.literal?, rfl⟩, ⟨?unique, ?same⟩, ?canonical⟩
  case unique => exact ⟨meaning, hmeaning, fun other hother => hother.unique hmeaning⟩
  case same =>
    intro other
    constructor
    · intro hother
      rwa [hother.unique hback]
    · intro hother
      rwa [hother.unique hmeaning]
  case canonical =>
    intro otherName other otherText hwritable hother
    obtain ⟨hotherLiteral, -⟩ := Query.render_eq_ok_iff.mp hother
    obtain ⟨otherMeaning, hotherMeaning⟩ := Query.exists_denotes hkind hotherLiteral
    cases hotherMeaning.literal?.symm.trans hotherLiteral
    constructor
    · intro hsame
      have hotherBack := hotherMeaning.of_literal hwritable
      rw [hsame] at hotherBack
      exact ⟨meaning, hmeaning, hback.unique hotherBack ▸ hotherMeaning⟩
    · rintro ⟨shared, hshared, hotherShared⟩
      rw [hotherMeaning.unique hotherShared, hmeaning.unique hshared]

/-- A quarter of a second into a leap second at the end of the twenty-ninth of February 2024. -/
def leapMoment : Timestamp := ⟨1709251199, 1250000000, 0⟩

/-- The leap second is written in one form, as a date and from a spelling with small letters. -/
theorem leapMoment_canonical :
    Query.render "due" (some .date) (.string "2024-02-29T23:59:60.250+00:00") =
      .ok (some "2024-02-29T23:59:60.250+00:00") ∧
    Query.Denotes .date (.string "2024-02-29T23:59:60.250+00:00") (.moment leapMoment) ∧
    Query.render "from" (some .date) (.string "2024-02-29t23:59:60.25z") =
      .ok (some "2024-02-29T23:59:60.250+00:00") := by
  have hwrite : Rfc3339.write leapMoment = "2024-02-29T23:59:60.250+00:00" := by decide +kernel
  have hread : Rfc3339.read? "2024-02-29t23:59:60.25z" = some leapMoment := by decide +kernel
  have hyear : 0 ≤ leapMoment.toClock.date.year ∧ leapMoment.toClock.date.year ≤ 9999 := by decide +kernel
  have hmoment : leapMoment.Writable := ⟨hyear, by decide, by decide, by decide, by decide⟩
  have hdate : (Value.date leapMoment).IsWritable := fun _ hsame => by
    cases hsame
    exact hmoment
  have htext : (Value.string "2024-02-29t23:59:60.25z").IsWritable := fun _ hsame => by cases hsame
  have hdenotes := Query.Denotes.date leapMoment
  have hspelled := Query.Denotes.dateText hread
  have haccepted : Query.render "due" (some .date) (.date leapMoment) =
      .ok (some "2024-02-29T23:59:60.250+00:00") :=
    Query.render_eq_ok_iff.mpr ⟨hdenotes.literal?.trans (congrArg some hwrite), by decide⟩
  have hother : Query.render "from" (some .date) (.string "2024-02-29t23:59:60.25z") =
      .ok (some (Query.Meaning.moment leapMoment).literal) :=
    Query.render_eq_ok_iff.mpr ⟨hspelled.literal?, rfl⟩
  obtain ⟨hagain, ⟨-, hsame⟩, hcanonical⟩ := literal_canonical (by decide) hdate haccepted
  refine ⟨hagain, (hsame _).mpr hdenotes, ?_⟩
  rw [← (hcanonical "from" _ _ htext hother).mpr ⟨_, hdenotes, hspelled⟩]
  exact hother

end ServiceTree
