/-!
# Calendar dates

Days are counted from the first of January 1970 in the proleptic Gregorian calendar. Years are taken
from March to February, so that the leap day is the last day of a year, and grouped by the cycles of
400, 100 and 4 years.
-/

namespace ServiceTree

/-- A day of the proleptic Gregorian calendar. -/
structure Date where
  year : Int
  month : Nat
  day : Nat
  deriving DecidableEq, Repr

namespace Date

/-- Whether a year has a leap day. -/
def isLeap (year : Int) : Bool := year % 4 == 0 && (year % 100 != 0 || year % 400 == 0)

/-- The number of days of a month. -/
def monthLength (year : Int) (month : Nat) : Nat :=
  if month = 2 then (if isLeap year then 29 else 28)
  else if month = 4 ∨ month = 6 ∨ month = 9 ∨ month = 11 then 30
  else 31

/-- Whether month and day exist. -/
def isValid (date : Date) : Bool :=
  1 ≤ date.month && date.month ≤ 12 && 1 ≤ date.day && date.day ≤ monthLength date.year date.month

/-- Days from the first of March of year zero to the first of January 1970. -/
def epochDays : Int := 719468

/-- Days since the first of January 1970. -/
def toDays (date : Date) : Int :=
  let year := if date.month ≤ 2 then date.year - 1 else date.year
  let month : Int := (date.month + 9) % 12
  let dayOfYear := (153 * month + 2) / 5 + date.day - 1
  365 * year + year / 4 - year / 100 + year / 400 + dayOfYear - epochDays

/-- The date that lies a number of days after the first of January 1970. -/
def ofDays (days : Int) : Date :=
  let fromMarch := days + epochDays
  let era := fromMarch / 146097
  let dayOfEra := fromMarch % 146097
  let century := min (dayOfEra / 36524) 3
  let dayOfCentury := dayOfEra - 36524 * century
  let cycle := dayOfCentury / 1461
  let dayOfCycle := dayOfCentury % 1461
  let yearOfCycle := min (dayOfCycle / 365) 3
  let dayOfYear := dayOfCycle - 365 * yearOfCycle
  let year := 400 * era + 100 * century + 4 * cycle + yearOfCycle
  let month := (5 * dayOfYear + 2) / 153
  let day := dayOfYear - (153 * month + 2) / 5 + 1
  ⟨if month < 10 then year else year + 1, ((month + 2) % 12 + 1).toNat, day.toNat⟩

end Date

end ServiceTree
