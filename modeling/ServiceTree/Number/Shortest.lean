import ServiceTree.Number.Double

/-!
# Shortest decimal text of a number

The digits written for a finite number are the fewest that read back to it, and of those the ones
nearest to it; of two that are equally near, the format chooses. They are found on the decimal grids around the number, from the coarsest to finer
ones: the first grid with a point that rounds to the number wins, and only the two neighbours of the
number on a grid have to be tried.
-/

namespace ServiceTree

/-- The value `digits · 10 ^ exponent`. -/
structure Decimal where
  digits : Nat
  exponent : Int
  deriving DecidableEq, Repr

namespace Double

/-- The values that round to a number, as numerators over one denominator. -/
structure Surroundings where
  value : Nat
  lowest : Nat
  highest : Nat
  denominator : Nat
  endsIncluded : Bool

/-- The numbers that round to `significand · 2 ^ exponent` reach halfway to both neighbours, which
are nearer below a power of two; the ends round to an even significand. -/
def surroundings (significand : Nat) (exponent : Int) : Surroundings :=
  let low :=
    if significand = twoTo 52 ∧ exponent > -1074 then 4 * significand - 1 else 4 * significand - 2
  let factor := if exponent ≥ 2 then twoTo (exponent - 2).toNat else 1
  let denominator := if exponent ≥ 2 then 1 else twoTo (2 - exponent).toNat
  ⟨4 * significand * factor, low * factor, (4 * significand + 2) * factor, denominator,
    significand % 2 == 0⟩

/-- Whether `candidate · unit / scale` lies among the surroundings, all numerators multiplied by
`scale`. -/
def Surroundings.holds (around : Surroundings) (scale unit candidate : Nat) : Bool :=
  let point := candidate * unit
  if around.endsIncluded then around.lowest * scale ≤ point && point ≤ around.highest * scale
  else around.lowest * scale < point && point < around.highest * scale

/-- Try the grid of multiples of `10 ^ place`, then finer ones. A value halfway between two points goes
to the upper one, or else to the even one. -/
def searchGrids (upward : Bool) (around : Surroundings) : Nat → Int → Decimal
  | 0, place => ⟨around.value * tenTo (-place).toNat / around.denominator, place⟩
  | grids + 1, place =>
    let scale := tenTo (-place).toNat
    let unit := around.denominator * tenTo place.toNat
    let below := around.value * scale / unit
    let above := below + 1
    match around.holds scale unit below, around.holds scale unit above with
    | true, false => ⟨below, place⟩
    | false, true => ⟨above, place⟩
    | true, true =>
      let gapBelow := around.value * scale - below * unit
      let gapAbove := above * unit - around.value * scale
      if gapBelow < gapAbove || (gapBelow == gapAbove && !upward && below % 2 == 0) then ⟨below, place⟩
      else ⟨above, place⟩
    | false, false => searchGrids upward around grids (place - 1)

/-- The fewest digits that read back to `significand · 2 ^ exponent`. Seventeen digits always
suffice, so twenty grids from just above the number do. -/
def shortest (upward : Bool) (significand : Nat) (exponent : Int) : Decimal :=
  if significand = 0 then ⟨0, 0⟩
  else
    let topPlace := ((significand.log2 : Int) + exponent + 1) * 30103 / 100000 + 1
    searchGrids upward (surroundings significand exponent) 20 topPlace

/-- How a format lays out the digits of a number. -/
structure Layout where
  /-- Whether a number whose leading digit has this power of ten is written without an exponent. -/
  positional : Int → Bool
  /-- What follows a whole number. -/
  wholeSuffix : List Char
  /-- Whether a value halfway between two shortest texts is rounded up, and not to the even one. -/
  upward : Bool

/-- A text of zeros. -/
def zeros (count : Int) : List Char := List.replicate count.toNat '0'

/-- The digits of a value with a decimal point in place. -/
def positionalText (layout : Layout) (digits : List Char) (exponent : Int) : List Char :=
  if 0 ≤ exponent then digits ++ zeros exponent ++ layout.wholeSuffix
  else if -exponent < digits.length then
    let whole := digits.length - (-exponent).toNat
    digits.take whole ++ '.' :: digits.drop whole
  else '0' :: '.' :: (zeros (-exponent - digits.length) ++ digits)

/-- The digits of a value with a point after the first one and the power of ten of that digit. -/
def scientificText (digits : List Char) (leading : Int) : List Char :=
  let power := (if leading < 0 then '-' else '+') :: Nat.toDigits 10 leading.natAbs
  match digits with
  | first :: second :: rest => first :: '.' :: second :: rest ++ 'e' :: power
  | short => short ++ 'e' :: power

/-- The text of a decimal value without its sign. -/
def Layout.text (layout : Layout) (value : Decimal) : List Char :=
  let digits := Nat.toDigits 10 value.digits
  let leading := value.exponent + digits.length - 1
  if layout.positional leading then positionalText layout digits value.exponent
  else scientificText digits leading

/-- The text of a number; the three that are no finite value have names. -/
def text (layout : Layout) (x : Double) : String :=
  match x.reading with
  | .notANumber => "NaN"
  | .infinite false => "inf"
  | .infinite true => "-inf"
  | .finite negative significand exponent =>
    let unsigned := layout.text (shortest layout.upward significand exponent)
    String.ofList (if negative then '-' :: unsigned else unsigned)

/-- Document numbers keep a fraction, and take an exponent below `10 ^ -5` and from `10 ^ 16` on. -/
def documentLayout : Layout := ⟨fun leading => -5 ≤ leading && leading < 16, ['.', '0'], false⟩

/-- Query literals never take an exponent, and whole numbers are written as integers. -/
def literalLayout : Layout := ⟨fun _ => true, [], true⟩

end Double

end ServiceTree
