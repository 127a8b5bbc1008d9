import ServiceTree.Calendar.Date

/-!
# Timestamps

An instant together with the offset of the clock that showed it. A leap second is counted within the
second before it, with a nanosecond part of a thousand million or more.
-/

namespace ServiceTree

/-- An instant and the offset, in seconds east, of the clock that showed it. -/
structure Timestamp where
  /-- Seconds since the first of January 1970, without leap seconds. -/
  seconds : Int
  /-- Nanoseconds within the second; those beyond the second belong to a leap second. -/
  nanos : Nat
  offset : Int
  deriving DecidableEq, Repr, Inhabited

/-- A reading of a clock: date and time of day, and its offset. -/
structure ClockReading where
  date : Date
  hour : Nat
  minute : Nat
  second : Nat
  nanos : Nat
  offset : Int
  deriving DecidableEq, Repr

namespace Timestamp

/-- The first and the last second of the years -262143 to 262142, which the calendar covers. -/
def bounds : Int × Int := (-8334601228800, 8210266876799)

/-- The timestamp of three numbers, if they make one. The calendar covers its second, its offset is
shorter than a day, and a leap second is counted within the last second of a minute. -/
def ofNumbers? (seconds nanos offset : Int) : Option Timestamp :=
  if bounds.1 ≤ seconds ∧ seconds ≤ bounds.2 ∧ 0 ≤ nanos ∧ nanos < 2000000000 ∧
      (nanos < 1000000000 ∨ seconds % 60 = 59) ∧ offset.natAbs < 86400 then
    some ⟨seconds, nanos.toNat, offset⟩
  else none

/-- Whether two timestamps name one instant, on whichever clocks. -/
def sameInstant (a b : Timestamp) : Bool := a.seconds == b.seconds && a.nanos == b.nanos

/-- Whether the calendar covers what the clock showed, which its offset may put beyond the bounds. -/
def isOnCalendar (stamp : Timestamp) : Bool :=
  bounds.1 ≤ stamp.seconds + stamp.offset && stamp.seconds + stamp.offset ≤ bounds.2

/-- What the clock showed. A leap second reads as second sixty of the minute it ends. -/
def toClock (stamp : Timestamp) : ClockReading :=
  let shown := stamp.seconds + stamp.offset
  let time := (shown % 86400).toNat
  let leap := 1000000000 ≤ stamp.nanos
  { date := Date.ofDays (shown / 86400)
    hour := time / 3600
    minute := time / 60 % 60
    second := if leap then time % 60 + 1 else time % 60
    nanos := if leap then stamp.nanos - 1000000000 else stamp.nanos
    offset := stamp.offset }

/-- The timestamp of a clock reading; second sixty is counted within second fifty-nine. -/
def ofClock (clock : ClockReading) : Timestamp :=
  let leap := clock.second = 60
  let second := if leap then 59 else clock.second
  { seconds :=
      86400 * clock.date.toDays + 3600 * clock.hour + 60 * clock.minute + second - clock.offset
    nanos := if leap then clock.nanos + 1000000000 else clock.nanos
    offset := clock.offset }

end Timestamp

end ServiceTree
