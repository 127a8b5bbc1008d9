import ServiceTree.Plan.Strategy
import ServiceTree.Body.Shape
import ServiceTree.Http.Request

/-!
# Client plans

A plan is a model with everything resolved that a client needs: services after their bases, each with
all its operations and locators, inherited ones included, and the edges along which paths are
resolved. A client interprets a plan, or is emitted from it as source code.
-/

namespace ServiceTree

/-- The parameter sent as the body. -/
structure BodyParameter where
  identifier : String
  shape : BodyShape
  deriving DecidableEq, Repr

/-- An option sent in the query. -/
structure QueryParameter where
  /-- The key looked up in the options. -/
  option : String
  /-- The key written into the query. -/
  tag : String
  /-- The declared kind of a scalar. -/
  kind : Option PrimitiveKind
  deriving DecidableEq, Repr

/-- An option carried in the envelope of an action. -/
structure EnvelopeField where
  option : String
  tag : String
  /-- How a loose value is coerced, unless the parameter is a scalar. -/
  shape : Option BodyShape
  deriving DecidableEq, Repr

/-- What a successful response yields. -/
inductive ResponsePlan where
  /-- Nothing. -/
  | empty
  /-- The body. -/
  | body (shape : BodyShape)
  /-- A field of the returned envelope. -/
  | actionField (tag : String) (shape : Option BodyShape)
  deriving DecidableEq, Repr

/-- A method resolved to its request. -/
structure OperationPlan where
  name : Name
  identifier : String
  strategy : Strategy
  verb : Verb
  /-- What an action appends to the path of its service. -/
  actionSegment : Option String
  successCodes : List UInt16
  primary : Option BodyParameter
  /-- Options sent in the query, by name. -/
  query : List QueryParameter
  /-- Options carried in the envelope, in declared order. -/
  envelope : List EnvelopeField
  response : ResponsePlan
  doc : String
  deriving DecidableEq, Repr

/-- An accessor to a child service. -/
structure LocatorPlan where
  name : Name
  accessor : String
  /-- The path segment of a locator without argument. -/
  segment : String
  /-- The name of the argument. -/
  argument : Option String
  target : Name
  targetType : String
  doc : String
  deriving DecidableEq, Repr

/-- A step from a service to a child, for a locator of the service. -/
structure RouteEdge where
  locator : Name
  segment : String
  target : Name
  deriving DecidableEq, Repr

/-- The steps from a service. Literal ones are tried in order; the wildcard takes any segment as its
argument. -/
structure Router where
  literals : List RouteEdge
  wildcard : Option RouteEdge
  deriving DecidableEq, Repr

/-- A service with all its members. -/
structure ServicePlan where
  name : Name
  typeName : String
  base : Option Name
  doc : Option String
  /-- Operations by name. -/
  operations : List OperationPlan
  /-- Locators by name. -/
  locators : List LocatorPlan
  router : Router
  deriving DecidableEq, Repr

/-- The resolved client of a model. -/
structure ClientPlan where
  name : String
  /-- The position of the root among the services. -/
  root : Nat
  /-- Services after their bases. -/
  services : List ServicePlan
  deriving DecidableEq, Repr

/-- Whether a locator takes an argument. -/
def LocatorPlan.isParameterized (locator : LocatorPlan) : Bool := locator.argument.isSome

namespace OperationPlan

/-- The option keys that the operation looks up. -/
def optionKeys (operation : OperationPlan) : List String :=
  match operation.strategy with
  | .action => operation.envelope.map EnvelopeField.option
  | _ => operation.query.map QueryParameter.option

end OperationPlan

namespace ServicePlan

/-- The first operation of a name. -/
def operation? (service : ServicePlan) (name : Name) : Option OperationPlan :=
  service.operations.find? fun operation => operation.name = name

/-- The first locator of a name. -/
def locator? (service : ServicePlan) (name : Name) : Option LocatorPlan :=
  service.locators.find? fun locator => locator.name = name

end ServicePlan

namespace ClientPlan

/-- The first service of a name. -/
def service? (plan : ClientPlan) (name : Name) : Option ServicePlan :=
  plan.services.find? fun service => service.name = name

/-- The position of the first service of a name. -/
def index? (plan : ClientPlan) (name : Name) : Option Nat :=
  plan.services.findIdx? fun service => service.name = name

/-- The root service, unless its position is out of range. -/
def rootService? (plan : ClientPlan) : Option ServicePlan := plan.services[plan.root]?

end ClientPlan

end ServiceTree
