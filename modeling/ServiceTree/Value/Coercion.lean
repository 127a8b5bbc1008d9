import ServiceTree.Value.Basic

/-!
# Coercion of loose arguments

Callers may write a structure as loose fields and a list as loose items. Exactly these two are given
their type; every other value passes unchanged, and nothing is rejected here.
-/

namespace ServiceTree.Value

/-- Give loose fields the structure they are meant for. -/
def asStruct (typeName : String) : Value → Value
  | .mapping fields => .struct typeName fields
  | other => other

/-- Give loose items the element type they are meant for, and the same to each item that is loose
fields. -/
def asList (elementType : String) : Value → Value
  | .sequence items => .list elementType (items.map (asStruct elementType))
  | other => other

/-- Give a value the type of a parameter, where that is a structure or a list of structures. -/
def coerce (value : Value) : ValueType → Value
  | .struct name => value.asStruct name.camelCase
  | .list (.struct name) => value.asList name.camelCase
  | _ => value

end ServiceTree.Value
