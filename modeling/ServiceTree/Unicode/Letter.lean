import ServiceTree.Unicode.LetterCase
import ServiceTree.Unicode.CaseContext

/-!
# Case and blanks

Case of single characters and of whole texts, and the blanks that separate words. ASCII is decided
by arithmetic alone; the tables are consulted for everything else.
-/

namespace ServiceTree.Unicode

/-- Characters with the property White_Space. -/
def isBlank (c : Char) : Bool :=
  c == ' ' || ('\x09' ≤ c && c ≤ '\x0d') || c == '\x85' || c == '\xa0' || c == '\u1680' ||
    ('\u2000' ≤ c && c ≤ '\u200a') || c == '\u2028' || c == '\u2029' || c == '\u202f' ||
    c == '\u205f' || c == '\u3000'

/-- Whether a character lies in ASCII. -/
def isAscii (c : Char) : Bool := c.toNat < 128

/-- What holds of each of the first 128 code points holds of every character in ASCII. -/
@[elab_as_elim]
theorem ascii_induction {motive : Char → Prop} (hcodes : ∀ code < 128, motive (Char.ofNat code))
    {c : Char} (hc : isAscii c = true) : motive c := by
  rw [← Char.ofNat_toNat c]
  exact hcodes c.toNat (of_decide_eq_true hc)

/-- The letters and digits that arithmetic knows lie in ASCII. -/
theorem isAscii_of_isAlphanum {c : Char} (h : c.isAlphanum = true) : isAscii c = true := by
  have hbound (limit : UInt32) (hlimit : limit.toNat < 128) (hle : c.val ≤ limit) : isAscii c = true :=
    decide_eq_true (Nat.lt_of_le_of_lt (UInt32.le_iff_toNat_le.mp hle) hlimit)
  have hcases : ((c.isUpper || c.isLower) || c.isDigit) = true := h
  rw [Bool.or_eq_true, Bool.or_eq_true] at hcases
  rcases hcases with (hupper | hlower) | hdigit
  · exact hbound 90 (by decide) (of_decide_eq_true hupper).2
  · exact hbound 122 (by decide) (of_decide_eq_true (Bool.and_eq_true_iff.mp hlower).2)
  · exact hbound 57 (by decide) (of_decide_eq_true (Bool.and_eq_true_iff.mp hdigit).2)

/-- Characters with the property Uppercase. -/
def isUpper (c : Char) : Bool :=
  if isAscii c then c.isUpper else covered uppercaseRuns c

/-- Characters with the property Lowercase. -/
def isLower (c : Char) : Bool :=
  if isAscii c then c.isLower else covered lowercaseRuns c

/-- The several characters a listed letter turns into. -/
def expanded (expansions : List (Nat × List Nat)) (c : Char) : Option (List Char) :=
  (expansions.lookup c.toNat).map fun codes => codes.map Char.ofNat

/-- The lower-case form of a character; a character without one stays as it is. -/
def lower (c : Char) : List Char :=
  if isAscii c then [c.toLower]
  else match expanded lowerExpansions c with
    | some form => form
    | none => [(shifted lowerShifts c).getD c]

/-- The upper-case form of a character; a character without one stays as it is. -/
def upper (c : Char) : List Char :=
  if isAscii c then [c.toUpper]
  else match expanded upperExpansions c with
    | some form => form
    | none => [(shifted upperShifts c).getD c]

/-- Letters of either case, titles included. -/
def isCased (c : Char) : Bool :=
  if isAscii c then c.isAlpha else covered casedRuns c

/-- Characters that the search for a neighbouring cased letter looks past. -/
def isCaseIgnorable (c : Char) : Bool :=
  if isAscii c then ['\x27', '.', ':', '^', '\x60'].contains c else covered caseIgnorableRuns c

/-- Whether the nearest character that takes part in casing is a cased letter. -/
def meetsCased (neighbours : List Char) : Bool :=
  ((neighbours.dropWhile isCaseIgnorable).head?).any isCased

/-- Lower-cases a text whose already converted part is kept in reverse, so that a capital sigma
can be told to stand at the end of a word. -/
def lowerTextFrom (before : List Char) : List Char → List Char
  | [] => []
  | c :: rest =>
    (if c == 'Σ' then [if meetsCased before && !meetsCased rest then 'ς' else 'σ'] else lower c) ++
      lowerTextFrom (c :: before) rest

/-- The lower-case form of a text. -/
def lowerText (text : String) : String :=
  String.ofList (lowerTextFrom [] text.toList)

/-- A text with its first character in upper case. -/
def capitalize : List Char → List Char
  | [] => []
  | c :: rest => upper c ++ rest

end ServiceTree.Unicode
