import ServiceTree.Calendar.Timestamp
import ServiceTree.Number.Basic

/-!
# Timestamps as text

The profile of RFC 3339. Written timestamps have a capital `T`, a numeric offset in minutes, and three,
six or nine digits of a fraction unless it is zero. Read ones may have a blank or a small letter for
the `T`, a `Z` for the offset, any number of digits in the fraction, and a leap second in any minute.
-/

namespace ServiceTree.Rfc3339

/-- A natural with leading zeros up to a width. -/
def padded (width value : Nat) : List Char :=
  let digits := Nat.toDigits 10 value
  List.replicate (width - digits.length) '0' ++ digits

/-- A year: four digits, and a sign where four digits do not suffice. -/
def yearText (year : Int) : List Char :=
  if year < 0 then '-' :: padded 4 year.natAbs
  else if year ≤ 9999 then padded 4 year.natAbs
  else '+' :: padded 4 year.natAbs

/-- The fraction of a second, to the coarsest of milli-, micro- and nanoseconds that shows it. -/
def fractionText (nanos : Nat) : List Char :=
  if nanos = 0 then []
  else if nanos % 1000000 = 0 then '.' :: padded 3 (nanos / 1000000)
  else if nanos % 1000 = 0 then '.' :: padded 6 (nanos / 1000)
  else '.' :: padded 9 nanos

/-- An offset, rounded to whole minutes. -/
def offsetText (offset : Int) : List Char :=
  let minutes := (offset.natAbs + 30) / 60
  (if offset < 0 then '-' else '+') :: (padded 2 (minutes / 60) ++ ':' :: padded 2 (minutes % 60))

/-- The text of a clock reading. -/
def clockText (clock : ClockReading) : List Char :=
  yearText clock.date.year ++ '-' :: (padded 2 clock.date.month ++ '-' :: (padded 2 clock.date.day ++
    'T' :: (padded 2 clock.hour ++ ':' :: (padded 2 clock.minute ++ ':' :: (padded 2 clock.second ++
      (fractionText clock.nanos ++ offsetText clock.offset))))))

/-- The text of a timestamp. -/
def write (stamp : Timestamp) : String := String.ofList (clockText stamp.toClock)

/-- A number of exactly so many digits, and what follows it. -/
def digits? (count : Nat) (text : List Char) : Option (Nat × List Char) :=
  let (front, rest) := (text.take count, text.drop count)
  if front.length = count && front.all Char.isDigit then some (readDigits front, rest) else none

/-- What follows one of the given characters. -/
def expect? (allowed : List Char) : List Char → Option (List Char)
  | [] => none
  | c :: rest => if allowed.contains c then some rest else none

/-- A fraction of a second in nanoseconds, if one is written; digits beyond the ninth are dropped. -/
def fraction? : List Char → Option (Nat × List Char)
  | '.' :: rest =>
    let digits := rest.takeWhile Char.isDigit
    let kept := digits.take 9
    if digits.isEmpty then none
    else some (readDigits kept * tenTo (9 - kept.length), rest.dropWhile Char.isDigit)
  | text => some (0, text)

/-- An offset in seconds: `Z`, or a sign with hours and minutes short of a day. -/
def offset? : List Char → Option (Int × List Char)
  | [] => none
  | c :: rest =>
    if c == 'Z' || c == 'z' then some (0, rest)
    else do
      let negative ← if c == '+' then some false else if c == '-' || c == '−' then some true else none
      let (hours, rest) ← digits? 2 rest
      let rest ← expect? [':'] rest
      let (minutes, rest) ← digits? 2 rest
      if minutes < 60 && hours < 24 then
        let seconds : Int := 3600 * hours + 60 * minutes
        some (if negative then -seconds else seconds, rest)
      else none

/-- Whether a clock can show the reading. -/
def isValid (clock : ClockReading) : Bool :=
  clock.date.isValid && clock.hour < 24 && clock.minute < 60 && clock.second ≤ 60

/-- The clock reading that a text writes. -/
def clock? (text : List Char) : Option ClockReading := do
  let (year, text) ← digits? 4 text
  let text ← expect? ['-'] text
  let (month, text) ← digits? 2 text
  let text ← expect? ['-'] text
  let (day, text) ← digits? 2 text
  let text ← expect? ['T', 't', ' '] text
  let (hour, text) ← digits? 2 text
  let text ← expect? [':'] text
  let (minute, text) ← digits? 2 text
  let text ← expect? [':'] text
  let (second, text) ← digits? 2 text
  let (nanos, text) ← fraction? text
  let (offset, text) ← offset? text
  let clock : ClockReading := ⟨⟨year, month, day⟩, hour, minute, second, nanos, offset⟩
  if text.isEmpty && isValid clock then some clock else none

/-- The timestamp that a text writes. -/
def read? (text : String) : Option Timestamp := (clock? text.toList).map Timestamp.ofClock

end ServiceTree.Rfc3339
