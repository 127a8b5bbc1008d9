import Mathlib.Data.List.Induction
import Mathlib.Data.Nat.Digits.Defs
import ServiceTree.Calendar.Rfc3339
import ServiceTree.Proofs.CalendarDays

/-!
# The text of timestamps

A timestamp is read back from the text in which it is written, leap seconds and fractions of a second
included, if the text has four digits for the year and its offset is in whole minutes. What is read from any
accepted spelling is such a timestamp. Both follow in two steps: a clock reading is read back from its text,
and an instant from its clock reading.
-/

namespace ServiceTree

/-! ## Numbers in digits -/

/-- The digits of a number are read as the number. -/
theorem readDigits_toDigits (value : Nat) : readDigits (Nat.toDigits 10 value) = value :=
  Nat.ofDigitChars_ten_toDigits

/-- Noughts in front of a number do not count. -/
theorem readDigits_zeros_append (count : Nat) (digits : List Char) :
    readDigits (List.replicate count '0' ++ digits) = readDigits digits := by
  induction count with
  | zero => rfl
  | succ count ih => exact ih

/-- A digit stands for a number below ten. -/
theorem digitValue_lt {c : Char} (hdigit : c.isDigit = true) : digitValue c < 10 := by
  obtain ⟨_, hlast⟩ := Char.isDigit_iff_toNat.mp hdigit
  have hzero : '0'.toNat = 48 := rfl
  have hnine : '9'.toNat = 57 := rfl
  rw [digitValue]
  omega

/-- So many digits write a number below that power of ten. -/
theorem readDigits_lt {digits : List Char} (hdigits : ∀ c ∈ digits, c.isDigit = true) :
    readDigits digits < tenTo digits.length := by
  induction digits using List.reverseRecOn with
  | nil => exact Nat.zero_lt_one
  | append_singleton front c ih =>
    obtain ⟨hfront, hc⟩ := List.forall_mem_append.mp hdigits
    have hlast := digitValue_lt (hc c List.mem_cons_self)
    have hfront := ih hfront
    rw [readDigits, List.foldl_append, List.length_append, List.length_singleton, tenTo_succ]
    change pushDigit (readDigits front) c < _
    rw [pushDigit]
    omega

namespace Rfc3339

section Padded

variable {width value : Nat}

/-- A number that fits is written at the width. -/
theorem length_padded (hwidth : 0 < width) (hvalue : value < tenTo width) :
    (padded width value).length = width := by
  have hle : (Nat.toDigits 10 value).length ≤ width :=
    (Nat.length_toDigits_le_iff (by decide) hwidth).mpr hvalue
  simp only [padded, List.length_append, List.length_replicate]
  omega

/-- A number is written in digits. -/
theorem isDigit_of_mem_padded {c : Char} (hc : c ∈ padded width value) : c.isDigit = true := by
  rcases List.mem_append.mp hc with hzero | hdigit
  · rw [List.eq_of_mem_replicate hzero]
    decide
  · exact Nat.isDigit_of_mem_toDigits (by decide) (by decide) hdigit

/-- A number is read from its digits at any width. -/
theorem readDigits_padded (width value : Nat) : readDigits (padded width value) = value := by
  rw [padded, readDigits_zeros_append, readDigits_toDigits]

/-- Digits are read up to the count of them. -/
theorem digits?_append {digits : List Char} (hdigits : ∀ c ∈ digits, c.isDigit = true) (rest : List Char) :
    digits? digits.length (digits ++ rest) = some (readDigits digits, rest) := by
  have hall : digits.all Char.isDigit = true := List.all_eq_true.mpr hdigits
  simp only [digits?, List.take_left, List.drop_left, hall, decide_true, Bool.and_self, if_true]

/-- A number that fits is read at its width. -/
theorem digits?_padded (hwidth : 0 < width) (hvalue : value < tenTo width) (rest : List Char) :
    digits? width (padded width value ++ rest) = some (value, rest) := by
  have hdigits : ∀ c ∈ padded width value, c.isDigit = true := fun _ => isDigit_of_mem_padded
  have hread := digits?_append hdigits rest
  rwa [length_padded hwidth hvalue, readDigits_padded] at hread

/-- A number that is read from a count of digits fits it. -/
theorem digits?_eq_some {count : Nat} {text rest : List Char} (h : digits? count text = some (value, rest)) :
    value < tenTo count := by
  rw [digits?] at h
  split at h
  case isTrue hread =>
    cases h
    obtain ⟨hlength, hdigits⟩ := Bool.and_eq_true_iff.mp hread
    have hlt := readDigits_lt (List.all_eq_true.mp hdigits)
    rwa [of_decide_eq_true hlength] at hlt
  case isFalse => cases h

end Padded

/-- A character that is expected is passed. -/
theorem expect?_of_mem {allowed : List Char} {c : Char} (hc : c ∈ allowed) (rest : List Char) :
    expect? allowed (c :: rest) = some rest := by
  rw [expect?, if_pos (List.contains_iff_mem.mpr hc)]

/-! ## Fractions of a second -/

/-- A sign, which ends the digits of a fraction. -/
def IsSign (sign : Char) : Prop := sign = '+' ∨ sign = '-'

section Fraction

variable {sign : Char} {rest : List Char}

/-- The digits of a fraction end at a sign. -/
theorem fraction?_digits (hsign : IsSign sign) {digits : List Char}
    (hdigits : ∀ c ∈ digits, c.isDigit = true) (hsome : 0 < digits.length) (hlimit : digits.length ≤ 9) :
    fraction? ('.' :: (digits ++ sign :: rest)) =
      some (readDigits digits * tenTo (9 - digits.length), sign :: rest) := by
  have hend : ¬ sign.isDigit = true := by
    obtain rfl | rfl := hsign <;> decide
  have htake : (digits ++ sign :: rest).takeWhile Char.isDigit = digits := by
    rw [List.takeWhile_append_of_pos hdigits, List.takeWhile_cons_of_neg hend, List.append_nil]
  have hdrop : (digits ++ sign :: rest).dropWhile Char.isDigit = sign :: rest := by
    rw [List.dropWhile_append_of_pos hdigits, List.dropWhile_cons_of_neg hend]
  have hempty : digits.isEmpty = false := List.isEmpty_eq_false_iff.mpr (List.ne_nil_of_length_pos hsome)
  simp only [fraction?, htake, hdrop, List.take_of_length_le hlimit, hempty, Bool.false_eq_true, if_false]

/-- A fraction is read from its digits to a number of places. -/
theorem fraction?_padded (hsign : IsSign sign) {places value : Nat} (hplaces : 0 < places)
    (hlimit : places ≤ 9) (hvalue : value < tenTo places) :
    fraction? ('.' :: (padded places value ++ sign :: rest)) =
      some (value * tenTo (9 - places), sign :: rest) := by
  have hlength := length_padded hplaces hvalue
  have hdigits : ∀ c ∈ padded places value, c.isDigit = true := fun _ => isDigit_of_mem_padded
  rw [fraction?_digits hsign hdigits (hplaces.trans_eq hlength.symm) (hlength.trans_le hlimit),
    readDigits_padded, hlength]

/-- The fraction of a second is read from its text, which ends at the sign of an offset. -/
theorem fraction?_fractionText (hsign : IsSign sign) {nanos : Nat} (hnanos : nanos < 1000000000) :
    fraction? (fractionText nanos ++ sign :: rest) = some (nanos, sign :: rest) := by
  rw [fractionText]
  split
  case isTrue hzero =>
    subst hzero
    obtain rfl | rfl := hsign <;> rfl
  case isFalse =>
    split
    case isTrue hmilli =>
      have hvalue : nanos / 1000000 < tenTo 3 := Nat.div_lt_of_lt_mul hnanos
      have hnumber : nanos / 1000000 * tenTo (9 - 3) = nanos :=
        Nat.div_mul_cancel (Nat.dvd_of_mod_eq_zero hmilli)
      rw [List.cons_append, fraction?_padded hsign (by decide) (by decide) hvalue, hnumber]
    case isFalse =>
      split
      case isTrue hmicro =>
        have hvalue : nanos / 1000 < tenTo 6 := Nat.div_lt_of_lt_mul hnanos
        have hnumber : nanos / 1000 * tenTo (9 - 6) = nanos :=
          Nat.div_mul_cancel (Nat.dvd_of_mod_eq_zero hmicro)
        rw [List.cons_append, fraction?_padded hsign (by decide) (by decide) hvalue, hnumber]
      case isFalse =>
        have hnumber : nanos * tenTo (9 - 9) = nanos := Nat.mul_one nanos
        rw [List.cons_append, fraction?_padded hsign (by decide) (by decide) hnanos, hnumber]

end Fraction

/-- A fraction that is read is shorter than a second. -/
theorem fraction?_eq_some {text rest : List Char} {nanos : Nat} (h : fraction? text = some (nanos, rest)) :
    nanos < 1000000000 := by
  rw [fraction?.eq_def] at h
  split at h
  case h_1 digits =>
    simp only at h
    split at h
    case isTrue => cases h
    case isFalse =>
      cases h
      generalize hkept : (List.takeWhile Char.isDigit digits).take 9 = kept
      have hdigits : ∀ c ∈ kept, c.isDigit = true := fun c hc =>
        List.all_eq_true.mp List.all_takeWhile c (List.mem_of_mem_take (hkept ▸ hc))
      have hlimit : kept.length ≤ 9 := hkept ▸ List.length_take_le 9 _
      have hweights : tenTo kept.length * tenTo (9 - kept.length) = 1000000000 := by
        rw [tenTo, tenTo, Nat.pow_eq, Nat.pow_eq, ← Nat.pow_add, Nat.add_sub_cancel' hlimit]
      rw [← hweights]
      exact Nat.mul_lt_mul_of_pos_right (readDigits_lt hdigits) (Nat.pow_pos (by decide))
  case h_2 =>
    cases h
    decide

/-! ## Offsets -/

/-- The seconds of an offset behind its sign. -/
def clockOffset? (negative : Bool) (text : List Char) : Option (Int × List Char) :=
  (digits? 2 text).bind fun (hours, rest) => (expect? [':'] rest).bind fun rest =>
    (digits? 2 rest).bind fun (minutes, rest) =>
      if minutes < 60 ∧ hours < 24 then
        some (if negative then -(3600 * hours + 60 * minutes) else 3600 * hours + 60 * minutes, rest)
      else none

/-- An offset is read by its first character. -/
theorem offset?_cons (c : Char) (rest : List Char) :
    offset? (c :: rest) =
      if c = 'Z' ∨ c = 'z' then some (0, rest)
      else if c = '+' then clockOffset? false rest
      else if c = '-' ∨ c = '−' then clockOffset? true rest
      else none := by
  simp only [offset?, clockOffset?, Option.bind_eq_bind, Bool.or_eq_true, beq_iff_eq, Bool.and_eq_true,
    decide_eq_true_eq]
  rfl

/-- Hours and minutes are read as they are written. -/
theorem clockOffset?_padded (negative : Bool) {hours minutes : Nat} (hhours : hours < 24)
    (hminutes : minutes < 60) :
    clockOffset? negative (padded 2 hours ++ ':' :: padded 2 minutes) =
      some (if negative then -(3600 * (hours : Int) + 60 * minutes) else 3600 * hours + 60 * minutes,
        []) := by
  have hfirst := digits?_padded (by decide : 0 < 2) (hhours.trans (by decide : 24 < tenTo 2))
    (':' :: padded 2 minutes)
  have hsecond := digits?_padded (by decide : 0 < 2) (hminutes.trans (by decide : 60 < tenTo 2)) []
  rw [List.append_nil] at hsecond
  simp only [clockOffset?, hfirst, hsecond, expect?_of_mem (List.mem_singleton_self ':'), Option.bind_some,
    if_pos (And.intro hminutes hhours)]

/-- An offset in whole minutes is read from its text. -/
theorem offset?_offsetText {offset : Int} (hday : offset.natAbs < 86400) (hminutes : offset % 60 = 0) :
    offset? (offsetText offset) = some (offset, []) := by
  have hrounded : (offset.natAbs + 30) / 60 * 60 = offset.natAbs := by omega
  generalize hcount : (offset.natAbs + 30) / 60 = minutes at hrounded
  have hhours : minutes / 60 < 24 := by omega
  have hminute : minutes % 60 < 60 := Nat.mod_lt minutes (by decide)
  rw [offsetText, hcount]
  by_cases hwest : offset < 0
  · rw [if_pos hwest, offset?_cons, if_neg (by decide), if_neg (by decide), if_pos (by decide),
      clockOffset?_padded true hhours hminute, if_pos rfl]
    congr 2
    omega
  · rw [if_neg hwest, offset?_cons, if_neg (by decide), if_pos rfl,
      clockOffset?_padded false hhours hminute, if_neg Bool.false_ne_true]
    congr 2
    omega

/-- An offset that is read has whole minutes and is shorter than a day. -/
theorem offset?_eq_some {text rest : List Char} {offset : Int} (h : offset? text = some (offset, rest)) :
    offset.natAbs < 86400 ∧ offset % 60 = 0 := by
  have hclock {negative : Bool} {text : List Char} (h : clockOffset? negative text = some (offset, rest)) :
      offset.natAbs < 86400 ∧ offset % 60 = 0 := by
    simp only [clockOffset?, Option.bind_eq_some_iff] at h
    obtain ⟨⟨hours, afterHours⟩, -, afterColon, -, ⟨minutes, afterMinutes⟩, -, h⟩ := h
    simp only at h
    split at h
    case isTrue hlimits =>
      cases h
      split <;> omega
    case isFalse => cases h
  cases text with
  | nil => cases h
  | cons c text =>
    rw [offset?_cons] at h
    split_ifs at h
    · cases h
      decide
    · exact hclock h
    · exact hclock h

/-! ## Clock readings -/

/-- A clock reading that is written in four digits for the year and in whole minutes for the offset. -/
structure Writable (clock : ClockReading) : Prop where
  date : clock.date.isValid = true
  year : 0 ≤ clock.date.year ∧ clock.date.year ≤ 9999
  hour : clock.hour < 24
  minute : clock.minute < 60
  /-- Second sixty is a leap second. -/
  second : clock.second ≤ 60
  nanos : clock.nanos < 1000000000
  offset : clock.offset.natAbs < 86400
  offsetMinutes : clock.offset % 60 = 0

/-- A clock reading that is written is one that exists. -/
theorem Writable.isValid {clock : ClockReading} (h : Writable clock) : isValid clock = true := by
  simp only [Rfc3339.isValid, h.date, h.hour, h.minute, h.second, decide_true, Bool.and_self]

/-- A clock reading is read from its text. -/
theorem clock?_clockText {clock : ClockReading} (h : Writable clock) :
    clock? (clockText clock) = some clock := by
  obtain ⟨hleast, hgreatest⟩ := h.year
  obtain ⟨-, hmonth, -, hday⟩ := Date.isValid_iff.mp h.date
  have hlength : Date.monthLength clock.date.year clock.date.month ≤ 31 := by
    unfold Date.monthLength
    split_ifs <;> decide
  have hyear (rest : List Char) :
      digits? 4 (padded 4 clock.date.year.natAbs ++ rest) = some (clock.date.year.natAbs, rest) :=
    digits?_padded (by decide) (show _ < 10000 by omega) rest
  have htwo {value : Nat} (hvalue : value ≤ 60) (rest : List Char) :
      digits? 2 (padded 2 value ++ rest) = some (value, rest) :=
    digits?_padded (by decide) (hvalue.trans_lt (by decide)) rest
  have hfraction : fraction? (fractionText clock.nanos ++ offsetText clock.offset) =
      some (clock.nanos, offsetText clock.offset) := by
    rw [offsetText]
    refine fraction?_fractionText ?_ h.nanos
    split
    · exact .inr rfl
    · exact .inl rfl
  have hdash (rest : List Char) : expect? ['-'] ('-' :: rest) = some rest := rfl
  have hcolon (rest : List Char) : expect? [':'] (':' :: rest) = some rest := rfl
  have htime (rest : List Char) : expect? ['T', 't', ' '] ('T' :: rest) = some rest := rfl
  rw [clockText, yearText, if_neg (not_lt.mpr hleast), if_pos hgreatest]
  refine Option.bind_eq_some_iff.mpr ⟨_, hyear _, ?_⟩
  refine Option.bind_eq_some_iff.mpr ⟨_, hdash _, ?_⟩
  refine Option.bind_eq_some_iff.mpr ⟨_, htwo (hmonth.trans (by decide)) _, ?_⟩
  refine Option.bind_eq_some_iff.mpr ⟨_, hdash _, ?_⟩
  refine Option.bind_eq_some_iff.mpr ⟨_, htwo ((hday.trans hlength).trans (by decide)) _, ?_⟩
  refine Option.bind_eq_some_iff.mpr ⟨_, htime _, ?_⟩
  refine Option.bind_eq_some_iff.mpr ⟨_, htwo (h.hour.le.trans (by decide)) _, ?_⟩
  refine Option.bind_eq_some_iff.mpr ⟨_, hcolon _, ?_⟩
  refine Option.bind_eq_some_iff.mpr ⟨_, htwo h.minute.le _, ?_⟩
  refine Option.bind_eq_some_iff.mpr ⟨_, hcolon _, ?_⟩
  refine Option.bind_eq_some_iff.mpr ⟨_, htwo h.second _, ?_⟩
  refine Option.bind_eq_some_iff.mpr ⟨_, hfraction, ?_⟩
  refine Option.bind_eq_some_iff.mpr ⟨_, offset?_offsetText h.offset h.offsetMinutes, ?_⟩
  have hsame : (⟨⟨clock.date.year.natAbs, clock.date.month, clock.date.day⟩, clock.hour, clock.minute,
      clock.second, clock.nanos, clock.offset⟩ : ClockReading) = clock := by
    rw [Int.natAbs_of_nonneg hleast]
  simp only [hsame, h.isValid]
  rfl

/-- A clock reading that is read can be written. -/
theorem writable_of_clock? {text : List Char} {clock : ClockReading} (h : clock? text = some clock) :
    Writable clock := by
  obtain ⟨⟨year, text⟩, hyear, h⟩ := Option.bind_eq_some_iff.mp h
  obtain ⟨text, -, h⟩ := Option.bind_eq_some_iff.mp h
  obtain ⟨⟨month, text⟩, -, h⟩ := Option.bind_eq_some_iff.mp h
  obtain ⟨text, -, h⟩ := Option.bind_eq_some_iff.mp h
  obtain ⟨⟨day, text⟩, -, h⟩ := Option.bind_eq_some_iff.mp h
  obtain ⟨text, -, h⟩ := Option.bind_eq_some_iff.mp h
  obtain ⟨⟨hour, text⟩, -, h⟩ := Option.bind_eq_some_iff.mp h
  obtain ⟨text, -, h⟩ := Option.bind_eq_some_iff.mp h
  obtain ⟨⟨minute, text⟩, -, h⟩ := Option.bind_eq_some_iff.mp h
  obtain ⟨text, -, h⟩ := Option.bind_eq_some_iff.mp h
  obtain ⟨⟨second, text⟩, -, h⟩ := Option.bind_eq_some_iff.mp h
  obtain ⟨⟨nanos, text⟩, hnanos, h⟩ := Option.bind_eq_some_iff.mp h
  obtain ⟨⟨offset, text⟩, hoffset, h⟩ := Option.bind_eq_some_iff.mp h
  simp only at h
  split at h
  case isTrue hend =>
    cases h
    obtain ⟨-, hvalid⟩ := Bool.and_eq_true_iff.mp hend
    simp only [isValid, Bool.and_eq_true, decide_eq_true_eq] at hvalid
    obtain ⟨⟨⟨hdate, hhour⟩, hminute⟩, hsecond⟩ := hvalid
    have hyear : year < 10000 := digits?_eq_some hyear
    obtain ⟨hoffset, hminutes⟩ := offset?_eq_some hoffset
    exact ⟨hdate, ⟨Int.natCast_nonneg _, Int.le_of_lt_add_one (Int.ofNat_lt.mpr hyear)⟩, hhour, hminute,
      hsecond, fraction?_eq_some hnanos, hoffset, hminutes⟩
  case isFalse => cases h

end Rfc3339

/-! ## Instants -/

/-- A timestamp that is written in four digits for the year and in whole minutes for the offset, and whose
second is a leap second only at the end of a minute. -/
structure Timestamp.Writable (stamp : Timestamp) : Prop where
  /-- The year is that of the clock at the offset. -/
  year : 0 ≤ stamp.toClock.date.year ∧ stamp.toClock.date.year ≤ 9999
  offset : stamp.offset.natAbs < 86400
  offsetMinutes : stamp.offset % 60 = 0
  /-- A second and the leap second behind it are counted as one. -/
  nanos : stamp.nanos < 2000000000
  leap : 1000000000 ≤ stamp.nanos → stamp.seconds % 60 = 59

namespace Timestamp

/-- An instant is that of its clock reading. -/
theorem ofClock_toClock {stamp : Timestamp} (h : stamp.Writable) : ofClock stamp.toClock = stamp := by
  obtain ⟨-, -, hminutes, -, hleap⟩ := h
  obtain ⟨seconds, nanos, offset⟩ := stamp
  simp only [ofClock, toClock, (Date.ofDays_spec _).2] at hminutes hleap ⊢
  by_cases hlong : 1000000000 ≤ nanos
  · have hlast := hleap hlong
    simp only [hlong, if_true]
    rw [if_pos (by omega), if_pos (by omega)]
    rw [Timestamp.mk.injEq]
    exact ⟨by omega, by omega, rfl⟩
  · simp only [hlong, if_false]
    rw [if_neg (by omega), if_neg (by omega)]
    rw [Timestamp.mk.injEq]
    exact ⟨by omega, by omega, rfl⟩

/-- The clock reading of an instant that can be written can be written. -/
theorem toClock_writable {stamp : Timestamp} (h : stamp.Writable) : Rfc3339.Writable stamp.toClock := by
  obtain ⟨hyear, hoffset, hminutes, hnanos, hleap⟩ := h
  obtain ⟨seconds, nanos, offset⟩ := stamp
  simp only at hminutes hnanos hleap
  refine ⟨(Date.ofDays_spec _).1, hyear, ?hour, ?minute, ?second, ?nanos, hoffset, hminutes⟩
  case hour | minute =>
    simp only [toClock]
    omega
  case second | nanos =>
    simp only [toClock]
    split <;> omega

/-- A clock reading is that of its instant. -/
theorem toClock_ofClock {clock : ClockReading} (h : Rfc3339.Writable clock) :
    (ofClock clock).toClock = clock := by
  obtain ⟨hdate, -, hhour, hminute, hsecond, hnanos, -, -⟩ := h
  obtain ⟨date, hour, minute, second, nanos, offset⟩ := clock
  simp only at hhour hminute hsecond hnanos
  simp only [toClock, ofClock]
  generalize hkept : (if second = 60 then 59 else second) = kept
  generalize hcounted : (if second = 60 then nanos + 1000000000 else nanos) = counted
  have hlimit : kept < 60 := by
    rw [← hkept]
    split <;> omega
  have hday : (86400 * date.toDays + 3600 * hour + 60 * minute + kept - offset + offset) / 86400 =
      date.toDays := by omega
  have htime : ((86400 * date.toDays + 3600 * hour + 60 * minute + kept - offset + offset) % 86400).toNat =
      3600 * hour + 60 * minute + kept := by omega
  have hleap : second = 60 ∧ kept = 59 ∧ counted = nanos + 1000000000 ∨
      second < 60 ∧ kept = second ∧ counted = nanos := by
    by_cases hsixty : second = 60
    · rw [if_pos hsixty] at hkept hcounted
      omega
    · rw [if_neg hsixty] at hkept hcounted
      omega
  rw [hday, htime, Date.ofDays_toDays hdate, ClockReading.mk.injEq]
  refine ⟨rfl, by omega, by omega, ?_, ?_, rfl⟩
  · split <;> omega
  · split <;> omega

/-- The instant of a clock reading that can be written can be written. -/
theorem writable_ofClock {clock : ClockReading} (h : Rfc3339.Writable clock) :
    (ofClock clock).Writable := by
  have hclock := toClock_ofClock h
  refine ⟨by rw [hclock]; exact h.year, h.offset, h.offsetMinutes, ?_, ?_⟩
  · have hnanos := h.nanos
    simp only [ofClock]
    split <;> omega
  · intro hleap
    have hnanos := h.nanos
    have hminutes := h.offsetMinutes
    simp only [ofClock] at hleap ⊢
    by_cases hsecond : clock.second = 60
    · rw [if_pos hsecond]
      omega
    · rw [if_neg hsecond] at hleap
      omega

end Timestamp

namespace Rfc3339

variable {stamp : Timestamp} {text : String}

/-- A timestamp is read from its text. -/
theorem read?_write (h : stamp.Writable) : read? (write stamp) = some stamp := by
  rw [read?, write, String.toList_ofList, clock?_clockText (Timestamp.toClock_writable h), Option.map_some,
    Timestamp.ofClock_toClock h]

/-- A timestamp that is read can be written. -/
theorem writable_of_read? (h : read? text = some stamp) : stamp.Writable := by
  obtain ⟨clock, hclock, rfl⟩ := Option.map_eq_some_iff.mp h
  exact Timestamp.writable_ofClock (writable_of_clock? hclock)

end Rfc3339

end ServiceTree
