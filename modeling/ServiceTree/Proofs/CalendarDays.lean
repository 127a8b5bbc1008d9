import Mathlib.Tactic.IntervalCases
import ServiceTree.Calendar.Date

/-!
# The days of the calendar

Every day has one date of the calendar and every date one day. The day of a date is counted in years that
begin in March, so that a leap day is the last day of its year; the date of a day is found by its place in
the cycles of 400, 100 and 4 years. Both are described here by the first day of such a year and the first
day of a month in it.
-/

namespace ServiceTree.Date

/-! ## Years that begin in March -/

/-- The days of a year that begins in March. Its leap day is the last one, in the next year. -/
def yearLength (year : Int) : Int := if isLeap (year + 1) then 366 else 365

/-- Days from the first of March of year zero to the first of March of a year. -/
def yearStart (year : Int) : Int := 365 * year + year / 4 - year / 100 + year / 400

/-- Days from the first of March to the first of a month, counted from March. -/
def monthStart (month : Int) : Int := (153 * month + 2) / 5

/-- The date that lies a number of days behind the first of March of a year. -/
def ofMarch (year day : Int) : Date :=
  let month := (5 * day + 2) / 153
  ⟨if month < 10 then year else year + 1, ((month + 2) % 12 + 1).toNat, (day - monthStart month + 1).toNat⟩

/-- The year of a date, if years begin in March. -/
def marchYear (date : Date) : Int := if date.month ≤ 2 then date.year - 1 else date.year

/-- The days from the first of March to a date. -/
def marchDay (date : Date) : Int := monthStart ((date.month + 9) % 12) + date.day - 1

/-- A date is counted by the first day of its year and its day in the year. -/
theorem toDays_eq (date : Date) :
    date.toDays = yearStart date.marchYear + date.marchDay - epochDays := rfl

/-- The leap years are every fourth, but of the centuries only every fourth. -/
theorem isLeap_iff {year : Int} :
    isLeap year = true ↔ year % 4 = 0 ∧ (year % 100 ≠ 0 ∨ year % 400 = 0) := by
  simp [isLeap]

/-- A year has 365 days or one more. -/
theorem yearLength_eq (year : Int) : yearLength year = 365 ∨ yearLength year = 366 := by
  rw [yearLength]
  split
  · exact .inr rfl
  · exact .inl rfl

/-- A year ends where the next one begins. -/
theorem yearStart_succ (year : Int) : yearStart (year + 1) = yearStart year + yearLength year := by
  rw [yearLength]
  split
  case isTrue hleap =>
    rw [isLeap_iff] at hleap
    simp only [yearStart]
    omega
  case isFalse hcommon =>
    rw [isLeap_iff] at hcommon
    simp only [yearStart]
    omega

/-- Later years begin no earlier. -/
theorem yearStart_mono {year other : Int} (hle : year ≤ other) : yearStart year ≤ yearStart other := by
  simp only [yearStart]
  omega

/-- A day lies in one year. -/
theorem march_unique {year other day otherDay : Int} (hday : 0 ≤ day ∧ day < yearLength year)
    (hother : 0 ≤ otherDay ∧ otherDay < yearLength other)
    (hsame : yearStart year + day = yearStart other + otherDay) : year = other ∧ day = otherDay := by
  have hnotAfter {a b c d : Int} (hc : 0 ≤ c) (hd : d < yearLength b)
      (hcount : yearStart a + c = yearStart b + d) : a ≤ b := by
    by_contra hafter
    have hmono := yearStart_mono (Int.add_one_le_of_lt (not_le.mp hafter))
    rw [yearStart_succ] at hmono
    omega
  have hyear : year = other :=
    le_antisymm (hnotAfter hday.1 hother.2 hsame) (hnotAfter hother.1 hday.2 hsame.symm)
  subst hyear
  exact ⟨rfl, by omega⟩

/-- The days of a month end where the next month begins, and those of February with the year. -/
theorem monthLength_eq (year : Int) {month : Nat} (hleast : 1 ≤ month) (hgreatest : month ≤ 12) :
    (monthLength year month : Int) =
      if month = 2 then yearLength (year - 1) - monthStart 11
      else monthStart ((month + 9) % 12 + 1) - monthStart ((month + 9) % 12) := by
  interval_cases month
  case «2» =>
    rw [yearLength, sub_add_cancel]
    cases hleap : isLeap year <;> simp [monthLength, monthStart, hleap]
  all_goals rfl

/-- A day lies in the month that begins before it and ends behind it. -/
theorem month_eq_iff {day month : Int} :
    (5 * day + 2) / 153 = month ↔ monthStart month ≤ day ∧ day < monthStart (month + 1) := by
  simp only [monthStart]
  omega

/-- A date exists if its month and its day in the month do. -/
theorem isValid_iff {date : Date} : date.isValid = true ↔
    1 ≤ date.month ∧ date.month ≤ 12 ∧ 1 ≤ date.day ∧ date.day ≤ monthLength date.year date.month := by
  simp [isValid, and_assoc]

/-- The date of a day in its year, by the month of the day. -/
theorem ofMarch_eq {year day month : Int} (hmonth : (5 * day + 2) / 153 = month) :
    ofMarch year day = ⟨if month < 10 then year else year + 1, ((month + 2) % 12 + 1).toNat,
      (day - monthStart month + 1).toNat⟩ := by
  subst hmonth
  rfl

/-- A day of a year is on the date of its month that lies so many days behind the first of March. -/
theorem ofMarch_spec {year day : Int} (hday : 0 ≤ day ∧ day < yearLength year) :
    (ofMarch year day).isValid = true ∧ (ofMarch year day).marchYear = year ∧
      (ofMarch year day).marchDay = day := by
  obtain ⟨index, hindex⟩ : ∃ index, (5 * day + 2) / 153 = index := ⟨_, rfl⟩
  have hlength := yearLength_eq year
  have hrange : 0 ≤ index ∧ index ≤ 11 := by omega
  obtain ⟨hstart, hend⟩ := month_eq_iff.mp hindex
  rw [ofMarch_eq hindex, isValid_iff]
  generalize hmonth : ((index + 2) % 12 + 1).toNat = month
  have hback : ((month : Int) + 9) % 12 = index := by omega
  have hleast : 1 ≤ month := by omega
  have hgreatest : month ≤ 12 := by omega
  simp only [marchYear, marchDay, hback]
  refine ⟨⟨hleast, hgreatest, by omega, ?_⟩, by split <;> split <;> omega, by omega⟩
  by_cases hlate : index < 10
  · rw [if_pos hlate]
    have hmonthLength := monthLength_eq year hleast hgreatest
    rw [if_neg (by omega), hback] at hmonthLength
    omega
  · rw [if_neg hlate]
    have hmonthLength := monthLength_eq (year + 1) hleast hgreatest
    rw [add_sub_cancel_right, hback] at hmonthLength
    split at hmonthLength
    case isTrue hfebruary =>
      obtain rfl : index = 11 := by omega
      omega
    case isFalse => omega

/-- A date is that of its day in its year. -/
theorem marchDay_spec {date : Date} (hvalid : date.isValid = true) :
    (0 ≤ date.marchDay ∧ date.marchDay < yearLength date.marchYear) ∧
      ofMarch date.marchYear date.marchDay = date := by
  obtain ⟨year, month, day⟩ := date
  obtain ⟨hleast, hgreatest, hfirst, hlast⟩ :
      1 ≤ month ∧ month ≤ 12 ∧ 1 ≤ day ∧ day ≤ monthLength year month := isValid_iff.mp hvalid
  have hmonthLength := monthLength_eq year hleast hgreatest
  simp only [marchDay, marchYear]
  generalize hindex : ((month : Int) + 9) % 12 = index at hmonthLength ⊢
  have hcases : month ≤ 2 ∧ index = month + 9 ∨ 3 ≤ month ∧ index = month - 3 := by omega
  have hlength := yearLength_eq (if month ≤ 2 then year - 1 else year)
  have hday : monthStart index + day - 1 < yearLength (if month ≤ 2 then year - 1 else year) ∧
      monthStart index + day - 1 < monthStart (index + 1) := by
    split at hmonthLength
    case isTrue hfebruary =>
      obtain rfl : index = 11 := by omega
      rw [if_pos (by omega)] at hlength ⊢
      have hend : monthStart (11 + 1) = 367 := rfl
      omega
    case isFalse =>
      have hend : monthStart (index + 1) ≤ 337 := by
        simp only [monthStart]
        omega
      omega
  have hstart : 0 ≤ monthStart index := by
    simp only [monthStart]
    omega
  have hmonth : (5 * (monthStart index + day - 1) + 2) / 153 = index :=
    month_eq_iff.mpr ⟨by omega, hday.2⟩
  refine ⟨⟨by omega, hday.1⟩, ?_⟩
  rw [ofMarch_eq hmonth, Date.mk.injEq]
  exact ⟨by split <;> split <;> omega, by omega, by omega⟩

/-! ## Cycles of years -/

/-- Where a year stands in the cycles of 400, 100 and 4 years gives its first day. -/
theorem yearStart_cycles (era : Int) {century cycle year : Int} (hcentury : 0 ≤ century ∧ century ≤ 3)
    (hcycle : 0 ≤ cycle ∧ cycle ≤ 24) (hyear : 0 ≤ year ∧ year ≤ 3) :
    yearStart (400 * era + 100 * century + 4 * cycle + year) =
      146097 * era + 36524 * century + 1461 * cycle + 365 * year := by
  simp only [yearStart]
  omega

/-- The last year of a cycle of four is long, unless it ends a century that does not end an era. -/
theorem isLeap_cycles (era : Int) {century cycle year : Int} (hcentury : 0 ≤ century ∧ century ≤ 3)
    (hcycle : 0 ≤ cycle ∧ cycle ≤ 24) (hyear : 0 ≤ year ∧ year ≤ 3) :
    isLeap (400 * era + 100 * century + 4 * cycle + year + 1) = true ↔
      year = 3 ∧ (cycle = 24 → century = 3) := by
  rw [isLeap_iff]
  omega

/-- The date of a day is that of its place in the cycles. -/
theorem ofDays_eq (days : Int) : ∃ year day, (0 ≤ day ∧ day < yearLength year) ∧
    days = yearStart year + day - epochDays ∧ ofDays days = ofMarch year day := by
  simp only [ofDays]
  generalize hfromMarch : days + epochDays = fromMarch
  generalize hera : fromMarch / 146097 = era
  generalize hdayOfEra : fromMarch % 146097 = dayOfEra
  generalize hcentury : min (dayOfEra / 36524) 3 = century
  generalize hdayOfCentury : dayOfEra - 36524 * century = dayOfCentury
  generalize hcycle : dayOfCentury / 1461 = cycle
  generalize hdayOfCycle : dayOfCentury % 1461 = dayOfCycle
  generalize hyear : min (dayOfCycle / 365) 3 = year
  generalize hday : dayOfCycle - 365 * year = day
  have hcenturies : 0 ≤ century ∧ century ≤ 3 := by omega
  have hcycles : 0 ≤ cycle ∧ cycle ≤ 24 := by omega
  have hyears : 0 ≤ year ∧ year ≤ 3 := by omega
  have hleap := isLeap_cycles era hcenturies hcycles hyears
  refine ⟨400 * era + 100 * century + 4 * cycle + year, day, ⟨by omega, ?_⟩, ?_, rfl⟩
  · rw [yearLength]
    split
    case isTrue => omega
    case isFalse hcommon =>
      rw [hleap] at hcommon
      omega
  · rw [yearStart_cycles era hcenturies hcycles hyears]
    omega

/-- Every day has a date that exists and that is counted as the day. -/
theorem ofDays_spec (days : Int) : (ofDays days).isValid = true ∧ (ofDays days).toDays = days := by
  obtain ⟨year, day, hday, hdays, hdate⟩ := ofDays_eq days
  obtain ⟨hvalid, hyear, hcount⟩ := ofMarch_spec hday
  rw [hdate, toDays_eq, hyear, hcount]
  exact ⟨hvalid, hdays.symm⟩

/-- Every date that exists is the date of its day. -/
theorem ofDays_toDays {date : Date} (hvalid : date.isValid = true) : ofDays date.toDays = date := by
  obtain ⟨year, day, hday, hdays, hdate⟩ := ofDays_eq date.toDays
  obtain ⟨hcount, hown⟩ := marchDay_spec hvalid
  rw [toDays_eq] at hdays
  obtain ⟨hyear, hsame⟩ := march_unique hcount hday (by omega)
  rw [hdate, ← hyear, ← hsame, hown]

end ServiceTree.Date
