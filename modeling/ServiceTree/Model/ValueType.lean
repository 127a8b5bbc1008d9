import ServiceTree.Name.Basic

/-!
# Types of parameters

A parameter holds a scalar, an instance of a named structure, or a list. Structures are known by
name alone; what they hold is left to the documents that carry them.
-/

namespace ServiceTree

/-- The kinds of scalars, each with a literal form of its own. -/
inductive PrimitiveKind where
  | boolean
  | integer
  | decimal
  | date
  | string
  deriving DecidableEq, Repr, Inhabited

namespace PrimitiveKind

/-- The word for a kind. -/
def word : PrimitiveKind → String
  | .boolean => "boolean"
  | .integer => "integer"
  | .decimal => "decimal"
  | .date => "date"
  | .string => "string"

/-- All kinds. -/
def all : List PrimitiveKind := [.boolean, .integer, .decimal, .date, .string]

/-- The kind that a word names. -/
def ofWord? (text : String) : Option PrimitiveKind := all.find? fun kind => kind.word == text

end PrimitiveKind

/-- The type of a parameter. -/
inductive ValueType where
  | primitive (kind : PrimitiveKind)
  | struct (name : Name)
  | list (element : ValueType)
  deriving DecidableEq, Repr, Inhabited

namespace ValueType

/-- Whether the type is a scalar. -/
def isPrimitive : ValueType → Bool
  | .primitive _ => true
  | _ => false

/-- Whether the type is a structure. -/
def isStruct : ValueType → Bool
  | .struct _ => true
  | _ => false

/-- Whether the type is a list. -/
def isList : ValueType → Bool
  | .list _ => true
  | _ => false

/-- The kind of a scalar. -/
def primitiveKind? : ValueType → Option PrimitiveKind
  | .primitive kind => some kind
  | _ => none

/-- The name of a structure. -/
def structName? : ValueType → Option Name
  | .struct name => some name
  | _ => none

/-- The element type of a list. -/
def element? : ValueType → Option ValueType
  | .list element => some element
  | _ => none

/-- The type in words, with list nesting in angle brackets. -/
def description : ValueType → String
  | .primitive kind => kind.word
  | .struct name => name.camelCase
  | .list element => "List<" ++ element.description ++ ">"

end ValueType

end ServiceTree
