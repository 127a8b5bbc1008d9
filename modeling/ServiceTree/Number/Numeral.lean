import ServiceTree.Number.Basic

/-!
# Numbers as words

A decimal as it is written by hand: with either sign or none, with a point anywhere among its digits,
and with a power of ten behind them. Infinities and the missing number have names in any case.
-/

namespace ServiceTree.Numeral

/-- A sign in front of a number, and the rest. -/
def splitSign : List Char → Bool × List Char
  | '-' :: rest => (true, rest)
  | '+' :: rest => (false, rest)
  | text => (false, text)

/-- The value of a hexadecimal digit. -/
def hexValue? (c : Char) : Option Nat :=
  if c.isDigit then some (digitValue c)
  else if 'a' ≤ c && c ≤ 'f' then some (c.toNat - 'a'.toNat + 10)
  else if 'A' ≤ c && c ≤ 'F' then some (c.toNat - 'A'.toNat + 10)
  else none

/-- The natural that digits of a base write; where there are none it is zero. -/
def natural? (base : Nat) (digits : List Char) : Option Nat :=
  digits.foldlM (fun value c => do
    let digit ← hexValue? c
    if digit < base then some (base * value + digit) else none) 0

/-- Whether a text is one digit or more. -/
def isDigits (text : List Char) : Bool := !text.isEmpty && text.all Char.isDigit

/-- The power of ten behind the digits of a decimal: nothing, or a mark with a signed number. -/
def power? : List Char → Option Int
  | [] => some 0
  | mark :: rest =>
    let (negative, digits) := splitSign rest
    if (mark == 'e' || mark == 'E') && isDigits digits then
      some (if negative then -readDigits digits else readDigits digits)
    else none

/-- The decimal that a text without sign writes: digits with or without a point among them, at least
one digit in all, and a power of ten. -/
def unsignedDecimal? (negative : Bool) (text : List Char) : Option Double :=
  let whole := text.takeWhile Char.isDigit
  let afterWhole := text.dropWhile Char.isDigit
  let (fraction, rest) := match afterWhole with
    | '.' :: tail => (tail.takeWhile Char.isDigit, tail.dropWhile Char.isDigit)
    | _ => ([], afterWhole)
  if whole.isEmpty && fraction.isEmpty then none
  else (power? rest).map fun power =>
    Double.ofDecimal negative (readDigits (whole ++ fraction)) (power - fraction.length)

/-- The decimal that a text writes, infinities and the missing value included. -/
def decimal? (text : String) : Option Double :=
  let (negative, unsigned) := splitSign text.toList
  let word := String.ofList (unsigned.map Char.toLower)
  if word == "inf" || word == "infinity" then some (Double.infinity negative)
  else if word == "nan" then some Double.notANumber
  else unsignedDecimal? negative unsigned

end ServiceTree.Numeral
