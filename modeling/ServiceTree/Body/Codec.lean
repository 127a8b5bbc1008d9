import ServiceTree.Json.Reader
import ServiceTree.Json.Writer
import ServiceTree.Value.Coercion

/-!
# Request and response bodies

A body holds one instance of a structure or a collection of them, as a document. Reading gives the
outermost containers their type back; whatever they contain stays loose.
-/

namespace ServiceTree

/-- Why a body could not be written or read. -/
inductive CodecError where
  /-- The bytes are no document. -/
  | malformed
  /-- The document or value is not of the shape that the type asks for. -/
  | unexpectedShape (typeName expected found : String)
  /-- The calendar does not cover a date in the value. -/
  | offCalendar
  deriving DecidableEq, Repr

namespace CodecError

/-- The error in words. -/
def message : CodecError → String
  | .malformed => "JSON codec error"
  | .unexpectedShape typeName expected found =>
    "Expected " ++ expected ++ " for type '" ++ typeName ++ "', found " ++ found
  | .offCalendar => "A date lies beyond the calendar"

end CodecError

namespace Body

/-- The bytes of a document. -/
def encode (json : Json) : ByteArray := json.render.toUTF8

/-- The document that bytes write. -/
def decode (bytes : ByteArray) : Except CodecError Json :=
  match (String.fromUTF8? bytes).bind Json.read? with
  | some json => .ok json
  | none => .error .malformed

/-- Write one instance of a structure. -/
def writeOne (typeName : String) (value : Value) : Except CodecError ByteArray :=
  match value with
  | .struct _ _ | .mapping _ =>
    if value.isOnCalendar then .ok (encode value.toJson) else .error .offCalendar
  | other => .error (.unexpectedShape typeName "a struct" other.kindName)

/-- Write a collection. -/
def writeMany (items : List Value) : Except CodecError ByteArray :=
  if Value.itemsOnCalendar items then .ok (encode (.list (Value.itemsToJson items)))
  else .error .offCalendar

/-- Read the fields of one instance of a structure. -/
def readFields (typeName : String) (bytes : ByteArray) : Except CodecError (Fields Value) := do
  match Value.ofJson (← decode bytes) with
  | .mapping fields => .ok fields
  | other => .error (.unexpectedShape typeName "an object" other.kindName)

/-- Read one instance of a structure. -/
def readOne (typeName : String) (bytes : ByteArray) : Except CodecError Value := do
  return .struct typeName (← readFields typeName bytes)

/-- Read the items of a collection; records among them are instances of its element type. -/
def readMany (elementType : String) (bytes : ByteArray) : Except CodecError (List Value) := do
  match ← decode bytes with
  | .list items => .ok ((Value.itemsOfJson items).map (Value.asStruct elementType))
  | other => .error (.unexpectedShape elementType "an array" (Value.ofJson other).kindName)

end Body

end ServiceTree
