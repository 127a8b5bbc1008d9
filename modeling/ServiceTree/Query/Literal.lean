import ServiceTree.Client.Error
import ServiceTree.Number.Numeral
import ServiceTree.Number.Shortest

/-!
# Query literals

The text under which an option value travels in a query. A value has to fit the kind declared for the
parameter: a string is accepted where it reads as that kind, and an integer where a decimal is
declared. Whatever is accepted is written in the one literal form of its kind.
-/

namespace ServiceTree.Query

/-- The truth value that a text writes. -/
def boolean? (text : String) : Option Bool :=
  if text == "true" then some true else if text == "false" then some false else none

/-- The signed machine word that a text writes, with any sign and any number of leading zeros. -/
def integer? (text : String) : Option Int64 :=
  let (negative, digits) := Numeral.splitSign text.toList
  if Numeral.isDigits digits then
    let value : Int := if negative then -readDigits digits else readDigits digits
    if Int64.minValue.toInt ≤ value && value ≤ Int64.maxValue.toInt then some (Int64.ofInt value)
    else none
  else none

/-- The literal of a truth value. -/
def booleanLiteral (value : Bool) : String := if value then "true" else "false"

/-- The literal of an integer. -/
def integerLiteral (value : Int64) : String := String.ofList (Json.integerText value.toInt)

/-- The literal of a decimal. -/
def decimalLiteral (value : Double) : String := value.text Double.literalLayout

/-- The literal of a scalar under a kind, if the scalar fits it. -/
def literal? : PrimitiveKind → Value → Option String
  | .boolean, .boolean value => some (booleanLiteral value)
  | .boolean, .string text => (boolean? text).map booleanLiteral
  | .integer, .integer value => some (integerLiteral value)
  | .integer, .string text => (integer? text).map integerLiteral
  | .decimal, .decimal value => some (decimalLiteral value)
  | .decimal, .integer value => some (integerLiteral value)
  | .decimal, .string text => (Numeral.decimal? text).map decimalLiteral
  | .date, .date value => some (Rfc3339.write value)
  | .date, .string text => (Rfc3339.read? text).map Rfc3339.write
  | .string, .string text => some text
  | _, _ => none

/-- The literal of an option value. Null means that the option is absent; a kind that is not declared
is the value's own. A date beyond the calendar cannot be written. -/
def render (name : String) (kind : Option PrimitiveKind) (value : Value) :
    Except ClientError (Option String) :=
  if value.isNull then .ok none
  else match value.primitiveKind? with
    | none =>
      .error (.invalidOption name
        ("a " ++ value.kindName ++ " value cannot be sent as a query parameter"))
    | some own =>
      let kind := kind.getD own
      match literal? kind value with
      | some text =>
        if value.isOnCalendar then .ok (some text) else .error (.codec .offCalendar)
      | none =>
        .error (.invalidOption name
          ("expected a " ++ kind.word ++ " value, got a " ++ value.kindName))

end ServiceTree.Query
