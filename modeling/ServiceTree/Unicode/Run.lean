/-!
# Runs of characters

Properties of characters are kept as lists of runs. A run covers every character from its first to
its last, or every second one where capital and small letters alternate.
-/

namespace ServiceTree.Unicode

/-- The code points `first`, `first + step`, … up to `last`. -/
structure Run where
  first : Nat
  last : Nat
  step : Nat

/-- Whether a code point belongs to the run. -/
def Run.contains (run : Run) (code : Nat) : Bool :=
  run.first ≤ code && code ≤ run.last && (code - run.first) % run.step == 0

/-- A run of letters whose partners of the other case all lie at the same distance. -/
structure Shift where
  run : Run
  distance : Int

/-- Whether one of the runs covers the character. -/
def covered (runs : List Run) (c : Char) : Bool :=
  runs.any fun run => run.contains c.toNat

/-- The partner of a character under the first shift that covers it. -/
def shifted (shifts : List Shift) (c : Char) : Option Char :=
  (shifts.find? fun shift => shift.run.contains c.toNat).map fun shift =>
    Char.ofNat ((c.toNat : Int) + shift.distance).toNat

end ServiceTree.Unicode
