import ServiceTree.Json.Basic
import ServiceTree.Calendar.Rfc3339
import ServiceTree.Model.ValueType

/-!
# Values

Values are exchanged with a service. Containers come in two forms: a typed one, which knows the
structure or element type it belongs to, and a loose one, which callers write by hand and which
documents decode to.
-/

namespace ServiceTree

/-- A value exchanged with a service. -/
inductive Value where
  | null
  | boolean (value : Bool)
  | integer (value : Int64)
  | decimal (value : Double)
  | date (value : Timestamp)
  | string (value : String)
  /-- An instance of a named structure. -/
  | struct (typeName : String) (fields : List (String × Value))
  /-- A list whose elements belong to one structure. -/
  | list (elementType : String) (items : List Value)
  /-- Fields without a structure. -/
  | mapping (fields : List (String × Value))
  /-- Items without an element type. -/
  | sequence (items : List Value)
  deriving Inhabited

namespace Value

/-- The word for the form of a value. -/
def kindName : Value → String
  | .null => "null"
  | .boolean _ => "boolean"
  | .integer _ => "integer"
  | .decimal _ => "decimal"
  | .date _ => "date"
  | .string _ => "string"
  | .struct _ _ => "struct"
  | .list _ _ => "list"
  | .mapping _ => "mapping"
  | .sequence _ => "sequence"

/-- Whether there is no value. -/
def isNull : Value → Bool
  | .null => true
  | _ => false

/-- The kind of a scalar. -/
def primitiveKind? : Value → Option PrimitiveKind
  | .boolean _ => some .boolean
  | .integer _ => some .integer
  | .decimal _ => some .decimal
  | .date _ => some .date
  | .string _ => some .string
  | _ => none

/-- Whether the value is a scalar. -/
def isPrimitive (value : Value) : Bool := value.primitiveKind?.isSome

/-- The items of a typed or loose list. -/
def items? : Value → Option (List Value)
  | .list _ items => some items
  | .sequence items => some items
  | _ => none

/-- The text of a string value. -/
def text? : Value → Option String
  | .string value => some value
  | _ => none

mutual

/-- Whether two values are equal: numbers by value, dates by instant, and a decimal that stands for
no number differs from everything. -/
def same : Value → Value → Bool
  | .null, .null => true
  | .boolean a, .boolean b => a == b
  | .integer a, .integer b => a == b
  | .decimal a, .decimal b => a.same b
  | .date a, .date b => a.sameInstant b
  | .string a, .string b => a == b
  | .struct s a, .struct t b => s == t && sameFields a b
  | .list s a, .list t b => s == t && sameItems a b
  | .mapping a, .mapping b => sameFields a b
  | .sequence a, .sequence b => sameItems a b
  | _, _ => false
  termination_by structural value => value

/-- Whether two lists of values are equal item by item. -/
def sameItems : List Value → List Value → Bool
  | [], [] => true
  | a :: as, b :: bs => same a b && sameItems as bs
  | _, _ => false
  termination_by structural items => items

/-- Whether two maps have the same keys with equal values. -/
def sameFields : List (String × Value) → List (String × Value) → Bool
  | [], [] => true
  | (k, a) :: as, (l, b) :: bs => k == l && same a b && sameFields as bs
  | _, _ => false
  termination_by structural fields => fields

end

mutual

/-- Whether the calendar covers every date in a value. -/
def isOnCalendar : Value → Bool
  | .date value => value.isOnCalendar
  | .struct _ fields => fieldsOnCalendar fields
  | .list _ items => itemsOnCalendar items
  | .mapping fields => fieldsOnCalendar fields
  | .sequence items => itemsOnCalendar items
  | _ => true
  termination_by structural value => value

/-- Whether the calendar covers every date in a list of values. -/
def itemsOnCalendar : List Value → Bool
  | [] => true
  | item :: rest => isOnCalendar item && itemsOnCalendar rest
  termination_by structural items => items

/-- Whether the calendar covers every date in the fields of a value. -/
def fieldsOnCalendar : List (String × Value) → Bool
  | [] => true
  | (_, value) :: rest => isOnCalendar value && fieldsOnCalendar rest
  termination_by structural fields => fields

end

mutual

/-- The document that a value is sent as. Dates become texts, and decimals that are no finite
numbers become null. -/
def toJson : Value → Json
  | .null => .null
  | .boolean value => .bool value
  | .integer value => .integer value.toInt
  | .decimal value => if value.isFinite then .number (.decimal value) else .null
  | .date value => .text (Rfc3339.write value)
  | .string value => .text value
  | .struct _ fields => .record (fieldsToJson fields)
  | .list _ items => .list (itemsToJson items)
  | .mapping fields => .record (fieldsToJson fields)
  | .sequence items => .list (itemsToJson items)
  termination_by structural value => value

/-- The documents of a list of values. -/
def itemsToJson : List Value → List Json
  | [] => []
  | item :: rest => toJson item :: itemsToJson rest
  termination_by structural items => items

/-- The documents of the fields of a value. -/
def fieldsToJson : List (String × Value) → List (String × Json)
  | [] => []
  | (key, value) :: rest => (key, toJson value) :: fieldsToJson rest
  termination_by structural fields => fields

end

/-- The documents of a list of values are those of its items. -/
theorem itemsToJson_eq_map (items : List Value) : itemsToJson items = items.map toJson := by
  induction items with
  | nil => rfl
  | cons item rest ih => rw [itemsToJson, ih, List.map_cons]

/-- The documents of the fields of a value stand under the keys of the fields. -/
theorem fieldsToJson_eq_map (fields : List (String × Value)) :
    fieldsToJson fields = fields.map fun field => (field.1, field.2.toJson) := by
  induction fields with
  | nil => rfl
  | cons field rest ih => rw [fieldsToJson, ih, List.map_cons]

/-- The value of a document's number. A whole number too large for a signed word is a decimal. -/
def ofNumber : Number → Value
  | .integer value =>
    if value ≤ Int64.maxValue.toInt then .integer (Int64.ofInt value) else .decimal (Double.ofInt value)
  | .decimal value => .decimal value

mutual

/-- The value that a document decodes to; its containers are loose. -/
def ofJson : Json → Value
  | .null => .null
  | .bool value => .boolean value
  | .number value => ofNumber value
  | .text value => .string value
  | .list items => .sequence (itemsOfJson items)
  | .record members => .mapping (fieldsOfJson members)
  termination_by structural json => json

/-- The values of a list of documents. -/
def itemsOfJson : List Json → List Value
  | [] => []
  | item :: rest => ofJson item :: itemsOfJson rest
  termination_by structural items => items

/-- The values of the members of a record. -/
def fieldsOfJson : List (String × Json) → List (String × Value)
  | [] => []
  | (key, member) :: rest => (key, ofJson member) :: fieldsOfJson rest
  termination_by structural members => members

end

/-- The values of a list of documents are those of its items. -/
theorem itemsOfJson_eq_map (items : List Json) : itemsOfJson items = items.map ofJson := by
  induction items with
  | nil => rfl
  | cons item rest ih => rw [itemsOfJson, ih, List.map_cons]

/-- The values of the members of a record stand under the keys of the members. -/
theorem fieldsOfJson_eq_map (members : List (String × Json)) :
    fieldsOfJson members = members.map fun member => (member.1, ofJson member.2) := by
  induction members with
  | nil => rfl
  | cons member rest ih => rw [fieldsOfJson, ih, List.map_cons]

end Value

end ServiceTree
