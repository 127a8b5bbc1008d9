import ServiceTree.Number.Basic
import ServiceTree.Unicode.Letter
import ServiceTree.Unicode.Printable

/-!
# Labels in all letters

A label of a host with characters beyond ASCII is written in ASCII behind the mark `xn--`. The ASCII
characters of the label stand first. Numbers follow which say, from the smallest character upwards, how
far each further character lies behind the one before it. Their digits are letters and then digits, the
lowest place first; which digit is the last of its number depends on its place and on the numbers before.
-/

namespace ServiceTree.InternationalLabel

/-- The value of a digit. -/
def digit? (c : Char) : Option Nat :=
  if c.isLower then some (c.toNat - 'a'.toNat)
  else if c.isDigit then some (26 + digitValue c)
  else none

/-- The digit of a value. -/
def digitChar (value : Nat) : Char :=
  if value < 26 then Char.ofNat ('a'.toNat + value) else Char.ofNat ('0'.toNat + (value - 26))

/-- The digits below this one end their number. -/
def threshold (bias step : Nat) : Nat := min 26 (max 1 (step - bias))

/-- The bias that fits a scaled distance. -/
def settledBias (steps distance : Nat) : Nat :=
  if 455 < distance then settledBias (steps + 36) (distance / 35)
  else steps + 36 * distance / (distance + 38)
termination_by distance
decreasing_by omega

/-- The bias behind a distance, after which so many characters are placed. -/
def nextBias (isFirst : Bool) (count distance : Nat) : Nat :=
  let scaled := distance / (if isFirst then 700 else 2)
  settledBias 0 (scaled + scaled / count)

/-- How far a label is read. -/
structure Reading where
  /-- The characters that have their places. -/
  placed : List Char
  /-- The character that would be placed next. -/
  code : Nat
  /-- The place where it would stand. -/
  place : Nat
  bias : Nat
  /-- The value of the digits read of a number. -/
  distance : Nat
  weight : Nat
  step : Nat

/-- Place the character that a whole number leads to. -/
def Reading.insert? (reading : Reading) (distance : Nat) : Option Reading :=
  let count := reading.placed.length + 1
  let reached := reading.place + distance
  let code := reading.code + reached / count
  let place := reached % count
  if code.isValidChar then
    some {
      placed := reading.placed.take place ++ Char.ofNat code :: reading.placed.drop place
      code := code
      place := place + 1
      bias := nextBias (reading.place == 0) count distance
      distance := 0
      weight := 1
      step := 36 }
  else none

/-- Read a digit. -/
def Reading.next? (reading : Reading) (c : Char) : Option Reading := do
  let digit ← digit? c
  let distance := reading.distance + digit * reading.weight
  let bound := threshold reading.bias reading.step
  if digit < bound then reading.insert? distance
  else
    return { reading with
      distance := distance
      weight := reading.weight * (36 - bound)
      step := reading.step + 36 }

/-- The front of a text up to its last hyphen, and the text behind it; a hyphen at the beginning parts
nothing. -/
def splitHyphen (text : List Char) : List Char × List Char :=
  let back := (text.reverse.takeWhile (· ≠ '-')).reverse
  let front := text.take (text.length - back.length - 1)
  if front.isEmpty then ([], text) else (front, back)

/-- The label that a text in ASCII stands for. -/
def decode? (text : List Char) : Option (List Char) := do
  let (front, digits) := splitHyphen text
  let reading ← digits.foldlM Reading.next? ⟨front, 128, 0, 72, 0, 1, 36⟩
  if front.all Unicode.isAscii && reading.step = 36 then some reading.placed else none

/-- The digits of a distance. -/
def distanceDigits (bias step distance : Nat) : List Char :=
  let bound := threshold bias step
  if distance < bound then [digitChar distance]
  else digitChar (bound + (distance - bound) % (36 - bound)) ::
    distanceDigits bias (step + 36) ((distance - bound) / (36 - bound))
termination_by distance
decreasing_by
  have positive : 1 ≤ threshold bias step := by unfold threshold; omega
  exact Nat.lt_of_le_of_lt (Nat.div_le_self _ _) (by omega)

/-- How far a label is written. -/
structure Writing where
  written : List Char
  distance : Nat
  bias : Nat
  count : Nat

/-- Go past a character of the label while a code point is placed wherever it occurs. -/
def Writing.pass (basic code : Nat) (writing : Writing) (c : Char) : Writing :=
  if c.toNat < code then { writing with distance := writing.distance + 1 }
  else if c.toNat = code then
    { written := writing.written ++ distanceDigits writing.bias 36 writing.distance
      distance := 0
      bias := nextBias (writing.count == basic) (writing.count + 1) writing.distance
      count := writing.count + 1 }
  else writing

/-- Write the code points that are left, where the next possible one is known. -/
def Writing.place (label : List Char) (basic next : Nat) (writing : Writing) : List Nat → Writing
  | [] => writing
  | code :: rest =>
    let before := { writing with distance := writing.distance + (code - next) * (writing.count + 1) }
    let behind := label.foldl (Writing.pass basic code) before
    Writing.place label basic (code + 1) { behind with distance := behind.distance + 1 } rest

/-- A label in ASCII. -/
def encode (label : List Char) : List Char :=
  let front := label.filter Unicode.isAscii
  let codes := (((label.filter fun c => !Unicode.isAscii c).map Char.toNat).mergeSort).eraseDups
  front ++ (if front.isEmpty then [] else ['-']) ++
    (Writing.place label front.length 128 ⟨[], 0, 72, front.length⟩ codes).written

/-- Characters beyond ASCII that labels leave out. -/
def leftOutRuns : List Unicode.Run := [
  ⟨0xAD, 0xAD, 1⟩, ⟨0x34F, 0x34F, 1⟩, ⟨0x180B, 0x180D, 1⟩, ⟨0x180F, 0x180F, 1⟩, ⟨0x200B, 0x200B, 1⟩,
  ⟨0x2060, 0x2060, 1⟩, ⟨0x2064, 0x2064, 1⟩, ⟨0xFE00, 0xFE0F, 1⟩, ⟨0xFEFF, 0xFEFF, 1⟩,
  ⟨0x1BCA0, 0x1BCA3, 1⟩, ⟨0xE0100, 0xE01EF, 1⟩]

/-- The form of a character within a host: small, and ASCII where it is only a wide form of ASCII. -/
def plainForm (c : Char) : List Char :=
  if Unicode.isAscii c then [c.toLower]
  else if Unicode.covered leftOutRuns c then []
  else if c == '\u3002' || c == '\uff61' then ['.']
  else if '\uff01' ≤ c && c ≤ '\uff5e' then [(Char.ofNat (c.toNat - 0xFEE0)).toLower]
  else Unicode.lower c

/-- Whether a character beyond ASCII is seen and has no other form. -/
def isSettled (c : Char) : Bool :=
  !Unicode.covered Unicode.unprintedRuns c && plainForm c == [c]

/-- Whether a label needs more than ASCII and may be read as it is. -/
def isReadable (label : List Char) : Bool :=
  !label.all Unicode.isAscii && label.all (fun c => Unicode.isAscii c || isSettled c) &&
    !(label.head?).any (Unicode.covered Unicode.joiningRuns)

/-- The written form of a label in plain forms. -/
def written? (label : List Char) : Option (List Char) :=
  match label with
  | 'x' :: 'n' :: '-' :: '-' :: rest => if (decode? rest).any isReadable then some label else none
  | _ =>
    if label.all Unicode.isAscii then some label
    else if isReadable label then some ('x' :: 'n' :: '-' :: '-' :: encode label)
    else none

end ServiceTree.InternationalLabel
