import ServiceTree.Body.Codec

/-!
# Shapes of bodies

Whether a body holds one instance or a collection, and of which type. Scalars have no body of their
own.
-/

namespace ServiceTree

/-- One instance of a structure, or a collection of an element type. -/
inductive BodyShape where
  | one (typeName : String)
  | many (elementType : String)
  deriving DecidableEq, Repr, Inhabited

namespace BodyShape

/-- The shape of a body that holds a value of the type. -/
def forType? : ValueType → Option BodyShape
  | .primitive _ => none
  | .struct name => some (.one name.camelCase)
  | .list element => some (.many element.description)

/-- The name of the instance or element type. -/
def typeName : BodyShape → String
  | .one name => name
  | .many name => name

/-- Give a loose value the type the body asks for. -/
def coerce : BodyShape → Value → Value
  | .one name, value => value.asStruct name
  | .many name, value => value.asList name

/-- Write a value as a body. -/
def write : BodyShape → Value → Except CodecError ByteArray
  | .one name, value => Body.writeOne name value
  | .many name, value =>
    match value.items? with
    | some items => Body.writeMany items
    | none => .error (.unexpectedShape name "a list" value.kindName)

/-- Read a body. -/
def read : BodyShape → ByteArray → Except CodecError Value
  | .one name, bytes => Body.readOne name bytes
  | .many name, bytes => (Body.readMany name bytes).map (Value.list name)

end BodyShape

end ServiceTree
