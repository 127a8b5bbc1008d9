import ServiceTree.Model.Basic

/-!
# Strategies

How a method maps onto requests. Five structural names are reserved for the operations on resources
and collections; every other method is a custom action.
-/

namespace ServiceTree

/-- How a method maps onto requests. -/
inductive Strategy where
  /-- Post the primary parameter to the collection. -/
  | add
  /-- Get the current resource. -/
  | get
  /-- Get the current collection. -/
  | list
  /-- Put the primary parameter to the current resource. -/
  | update
  /-- Delete the current resource. -/
  | remove
  /-- Post an envelope to a path of the action's own. -/
  | action
  deriving DecidableEq, Repr, Inhabited

namespace Strategy

/-- The word for a strategy. -/
def word : Strategy → String
  | .add => "add"
  | .get => "get"
  | .list => "list"
  | .update => "update"
  | .remove => "remove"
  | .action => "action"

/-- All strategies. -/
def all : List Strategy := [.add, .get, .list, .update, .remove, .action]

/-- The strategy that a word names. -/
def ofWord? (text : String) : Option Strategy := all.find? fun strategy => strategy.word == text

/-- The strategy of methods with a name. -/
def ofName (name : Name) : Strategy :=
  match name.words with
  | ["add"] => .add
  | ["get"] => .get
  | ["list"] => .list
  | ["update"] => .update
  | ["remove"] => .remove
  | _ => .action

/-- The statuses that count as success. -/
def successCodes : Strategy → List UInt16
  | .add => [200, 201, 202]
  | _ => [200]

/-- Whether the primary parameter is sent as the body. -/
def sendsPrimary : Strategy → Bool
  | .add | .update => true
  | _ => false

end Strategy

namespace Method

/-- The strategy of a method. -/
def strategy (method : Method) : Strategy := .ofName method.name

/-- The first parameter that is given and returned and is no scalar. -/
def primary? (method : Method) : Option Parameter :=
  method.parameters.find? fun p => p.isIn && p.isOut && !p.type.isPrimitive

/-- Parameters in the order of their names; parameters of one name stay in declared order. -/
def sortedByName (parameters : List Parameter) : List Parameter :=
  parameters.mergeSort fun a b => a.name.le b.name

/-- The scalars that are given and not returned, by name. -/
def secondary (method : Method) : List Parameter :=
  sortedByName (method.parameters.filter fun p => p.isIn && !p.isOut && p.type.isPrimitive)

/-- Everything that is given, by name. -/
def inputs (method : Method) : List Parameter :=
  sortedByName (method.parameters.filter Parameter.isIn)

/-- What reading an object returns: the first returned parameter by name. -/
def mainOutput? (method : Method) : Option Parameter :=
  (sortedByName (method.parameters.filter Parameter.isOut)).head?

/-- What an action returns: the first returned parameter as declared. -/
def actionOutput? (method : Method) : Option Parameter :=
  method.parameters.find? Parameter.isOut

end Method

end ServiceTree
