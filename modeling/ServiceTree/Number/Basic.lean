import ServiceTree.Number.Double

/-!
# Numbers of documents

A document tells whole numbers that fit a machine word apart from all others, which are binary
floating-point numbers. A literal is gathered digit by digit and then valued.
-/

namespace ServiceTree

/-- A number as documents distinguish them. -/
inductive Number where
  | integer (value : Int)
  | decimal (value : Double)
  deriving DecidableEq, Repr, Inhabited

/-- The parts of a number literal: `mantissa · 10 ^ (exponent - places)`. -/
structure Literal where
  negative : Bool
  mantissa : Nat
  places : Nat
  exponent : Int
  /-- Whether neither a point nor an exponent was written. -/
  whole : Bool
  deriving DecidableEq, Repr, Inhabited

/-- The double nearest to a literal. -/
def Literal.toDouble (literal : Literal) : Double :=
  Double.ofDecimal literal.negative literal.mantissa (literal.exponent - literal.places)

/-- The double nearest to a literal, if it is finite. -/
def Literal.decimal? (literal : Literal) : Option Number :=
  let x := literal.toDouble
  if x.isFinite then some (.decimal x) else none

/-- The number a literal stands for. Whole numbers of a signed or unsigned machine word stay whole;
minus zero and everything else become doubles, and there is no value beyond their range. -/
def Literal.number? (literal : Literal) : Option Number :=
  if literal.whole && literal.negative && 0 < literal.mantissa &&
      Int64.minValue.toInt ≤ -literal.mantissa then
    some (.integer (-literal.mantissa))
  else if literal.whole && !literal.negative && literal.mantissa < UInt64.size then
    some (.integer literal.mantissa)
  else literal.decimal?

/-- The value of a digit. -/
def digitValue (c : Char) : Nat := c.toNat - '0'.toNat

/-- Append a digit to a natural. -/
def pushDigit (value : Nat) (c : Char) : Nat := 10 * value + digitValue c

/-- The natural that a list of digits writes. -/
def readDigits (digits : List Char) : Nat := digits.foldl pushDigit 0

end ServiceTree
