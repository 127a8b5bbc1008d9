import ServiceTree.Number.Power

/-!
# Binary floating-point numbers

Numbers of the 64-bit binary format, held as their bits. A finite number is a natural significand
times a power of two; every rounding here is exact integer arithmetic, to the nearest number and to
the even significand on a tie.
-/

namespace ServiceTree

/-- A number of the 64-bit binary format. -/
structure Double where
  bits : UInt64
  deriving DecidableEq, Repr, Inhabited

namespace Double

/-- What the bits of a number stand for. -/
inductive Reading where
  | notANumber
  | infinite (negative : Bool)
  | finite (negative : Bool) (significand : Nat) (exponent : Int)

/-- Whether the sign bit is set. -/
def negative (x : Double) : Bool := twoTo 63 ≤ x.bits.toNat

/-- The bits below the sign. -/
def magnitude (x : Double) : Nat := x.bits.toNat % twoTo 63

/-- The eleven bits of the exponent field. -/
def exponentField (x : Double) : Nat := x.magnitude / twoTo 52

/-- The fifty-two bits of the fraction field. -/
def fractionField (x : Double) : Nat := x.magnitude % twoTo 52

/-- Decode the fields: finite numbers are `significand · 2 ^ exponent`, with the hidden bit of a
normal number restored. -/
def reading (x : Double) : Reading :=
  if x.exponentField = 2047 then
    if x.fractionField = 0 then .infinite x.negative else .notANumber
  else if x.exponentField = 0 then .finite x.negative x.fractionField (-1074)
  else .finite x.negative (twoTo 52 + x.fractionField) ((x.exponentField : Int) - 1075)

/-- The magnitude of infinity. -/
def infiniteMagnitude : Nat := 2047 * twoTo 52

/-- Put a sign before a magnitude. -/
def compose (negative : Bool) (magnitude : Nat) : Double :=
  ⟨UInt64.ofNat (if negative then twoTo 63 + magnitude else magnitude)⟩

/-- The quiet number that stands for no value. -/
def notANumber : Double := compose false (infiniteMagnitude + twoTo 51)

/-- The infinity of a sign. -/
def infinity (negative : Bool) : Double := compose negative infiniteMagnitude

/-- Whether the number is neither infinite nor missing. -/
def isFinite (x : Double) : Bool := x.exponentField ≠ 2047

/-- Equality of numbers: both zeros agree, and a missing value differs from everything. -/
def same (x y : Double) : Bool :=
  match x.reading, y.reading with
  | .notANumber, _ | _, .notANumber => false
  | _, _ => x.bits == y.bits || (x.magnitude == 0 && y.magnitude == 0)

/-- The quotient of two naturals to the nearest natural, a tie to the even one. -/
def divideToEven (a b : Nat) : Nat :=
  let quotient := a / b
  let remainder := a % b
  if 2 * remainder > b || (2 * remainder == b && quotient % 2 == 1) then quotient + 1 else quotient

/-- A natural times a power of two over another, as a pair of naturals. -/
def scaleByTwo (a b : Nat) (exponent : Int) : Nat × Nat :=
  if 0 ≤ exponent then (a, b * twoTo exponent.toNat) else (a * twoTo (-exponent).toNat, b)

/-- The exponent at which a positive quotient has a significand of fifty-three bits, held to the
range of the format. -/
def exponentFor (a b : Nat) : Int :=
  let guess : Int := (a.log2 : Int) - b.log2 - 52
  let (scaled, unit) := scaleByTwo a b guess
  max (if scaled < twoTo 52 * unit then guess - 1 else guess) (-1074)

/-- The number nearest to a quotient of naturals. Rounding up to the next power of two carries into
the exponent field by itself, and what exceeds the largest number becomes infinite. -/
def nearest (negative : Bool) (a b : Nat) : Double :=
  if a = 0 then compose negative 0
  else
    let exponent := exponentFor a b
    let (scaled, unit) := scaleByTwo a b exponent
    let magnitude := (exponent + 1074).toNat * twoTo 52 + divideToEven scaled unit
    compose negative (min magnitude infiniteMagnitude)

/-- The number nearest to `digits · 10 ^ exponent`. Exponents far outside the range of the format
are settled by the count of digits alone. -/
def ofDecimal (negative : Bool) (digits : Nat) (exponent : Int) : Double :=
  let place : Int := exponent + (Nat.toDigits 10 digits).length
  if digits = 0 || place < -330 then compose negative 0
  else if place > 310 then infinity negative
  else if 0 ≤ exponent then nearest negative (digits * tenTo exponent.toNat) 1
  else nearest negative digits (tenTo (-exponent).toNat)

/-- The number nearest to an integer. -/
def ofInt (i : Int) : Double := nearest (i < 0) i.natAbs 1

end Double

end ServiceTree
