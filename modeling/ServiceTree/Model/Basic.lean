import ServiceTree.Model.ValueType

/-!
# Service models

A model describes a remote interface as a tree of services. A service has methods, the operations it
supports, and locators, the named edges to child services; it may extend a base service, whose
members it takes over.
-/

namespace ServiceTree

/-- A parameter of a method. It may be given, returned, or both. -/
structure Parameter where
  name : Name
  type : ValueType
  isIn : Bool
  isOut : Bool
  doc : Option String
  deriving DecidableEq, Repr, Inhabited

/-- An operation on a service. -/
structure Method where
  name : Name
  parameters : List Parameter
  doc : Option String
  deriving DecidableEq, Repr, Inhabited

/-- A named edge from a service to a child service. Without a parameter its path segment is its
name; with one, the segment is the argument. -/
structure Locator where
  name : Name
  parameter : Option Parameter
  /-- The service that the edge leads to. -/
  service : Name
  doc : Option String
  deriving DecidableEq, Repr, Inhabited

/-- A node of the tree. -/
structure Service where
  name : Name
  base : Option Name
  methods : List Method
  locators : List Locator
  doc : Option String
  deriving DecidableEq, Repr, Inhabited

/-- A description of a remote interface. -/
structure Model where
  name : Name
  /-- The service from which every path is resolved. -/
  root : Name
  services : List Service
  deriving DecidableEq, Repr, Inhabited

/-- Whether a locator takes an argument. -/
def Locator.isParameterized (locator : Locator) : Bool := locator.parameter.isSome

namespace Service

/-- The locators without an argument, in declared order. -/
def literalLocators (service : Service) : List Locator :=
  service.locators.filter fun locator => !locator.isParameterized

/-- The first locator with an argument. -/
def parameterizedLocator? (service : Service) : Option Locator :=
  service.locators.find? Locator.isParameterized

end Service

namespace Model

/-- The first service of a name. -/
def find? (model : Model) (name : Name) : Option Service :=
  model.services.find? fun service => service.name = name

/-- The position of the first service of a name. -/
def index? (model : Model) (name : Name) : Option Nat :=
  model.services.findIdx? fun service => service.name = name

/-- The service from which paths are resolved. -/
def rootService? (model : Model) : Option Service := model.find? model.root

end Model

end ServiceTree
