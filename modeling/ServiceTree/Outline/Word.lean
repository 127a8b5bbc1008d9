import ServiceTree.Number.Numeral
import ServiceTree.Outline.Basic

/-!
# Words without quotes

A word that is written without quotes stands for nothing, a truth value, a number or a text, and its
reader says which of them it may be. When no reader has asked yet, the word is given the meaning it has by
itself: it is a text only where it is nothing else.
-/

namespace ServiceTree.Outline

/-- Words that stand for nothing. -/
def isNothing (word : String) : Bool :=
  word.isEmpty || word == "~" || word == "null" || word == "Null" || word == "NULL"

/-- The truth value of a word. -/
def truthOfWord? (word : String) : Option Bool :=
  if word == "true" || word == "True" || word == "TRUE" then some true
  else if word == "false" || word == "False" || word == "FALSE" then some false
  else none

/-- The digits of a base that is named in front of them, with the base. -/
def basedDigits? : List Char → Option (Nat × List Char)
  | '0' :: 'x' :: digits => some (16, digits)
  | '0' :: 'o' :: digits => some (8, digits)
  | '0' :: 'b' :: digits => some (2, digits)
  | _ => none

/-- Whether digits begin with a zero that adds nothing, which makes them a text. -/
def hasIdleZero (digits : List Char) : Bool :=
  digits.head? == some '0' && 1 < digits.length && digits.all Char.isDigit

/-- The size of the whole number that a word without sign writes. -/
def natural? (unsigned : List Char) : Option Nat :=
  match basedDigits? unsigned with
  | some (base, digits) => if digits.isEmpty then none else Numeral.natural? base digits
  | none => if unsigned.isEmpty || hasIdleZero unsigned then none else Numeral.natural? 10 unsigned

/-- What is written for a whole number. One that no machine word holds has no value; a negative zero
is a decimal. -/
def wholeMeaning? (negative : Bool) (size : Nat) : Option Outline :=
  if negative then
    if size = 0 then some (.number (some (.decimal (Double.compose true 0))))
    else if Int64.minValue.toInt ≤ -size then some (.number (some (.integer (-size))))
    else if size ≤ twoTo 127 then some (.number none)
    else none
  else if size < UInt64.size then some (.number (some (.integer size)))
  else if size < twoTo 128 then some (.number none)
  else none

/-- The infinities and the missing number, as far as they have names. -/
def unusual? (word : String) : Option Double :=
  if [".inf", ".Inf", ".INF", "+.inf", "+.Inf", "+.INF"].contains word then some (.infinity false)
  else if ["-.inf", "-.Inf", "-.INF"].contains word then some (.infinity true)
  else if [".nan", ".NaN", ".NAN"].contains word then some .notANumber
  else none

/-- The finite decimal that a word writes. -/
def finite? (word : String) : Option Double :=
  if hasIdleZero (Numeral.splitSign word.toList).2 then none
  else (Numeral.decimal? word).filter Double.isFinite

/-- What a word means as a number, if it is one. -/
def numberMeaning? (word : String) : Option Outline :=
  let (negative, unsigned) := Numeral.splitSign word.toList
  match (natural? unsigned).bind (wholeMeaning? negative) with
  | some meaning => some meaning
  | none => ((unusual? word).or (finite? word)).map fun value => .number (some (.decimal value))

/-- What a word means when no reader has said what it may be. -/
def wordMeaning (word : String) : Outline :=
  if isNothing word then .null
  else match truthOfWord? word with
    | some value => .bool value
    | none => (numberMeaning? word).getD (.text (some word))

mutual

/-- The outline with every unquoted word given the meaning it has by itself. -/
def settled : Outline → Outline
  | .plain word => wordMeaning word
  | .list items => .list (itemsSettled items)
  | .record members => .record (membersSettled members)
  | .null => .null
  | .bool value => .bool value
  | .number value => .number value
  | .text value => .text value
  termination_by structural outline => outline

/-- The items with every unquoted word settled. -/
def itemsSettled : List Outline → List Outline
  | [] => []
  | item :: rest => settled item :: itemsSettled rest
  termination_by structural items => items

/-- The members with every unquoted word settled. -/
def membersSettled : List (Outline × Outline) → List (Outline × Outline)
  | [] => []
  | (key, member) :: rest => (settled key, settled member) :: membersSettled rest
  termination_by structural members => members

end

end ServiceTree.Outline
