import ServiceTree.Client.Error
import ServiceTree.Name.Spelling
import ServiceTree.Plan.Basic
import ServiceTree.Text.Quoted

/-!
# Positions in a service tree

Interpreting a plan means standing at one of its services, under the path that leads there. The root
stands at the empty path, and every step to a child appends a segment.
-/

namespace ServiceTree

/-- A service of a plan, reached at a path. -/
structure Position where
  plan : ClientPlan
  service : ServicePlan
  path : String
  deriving DecidableEq, Repr

namespace Position

/-- The root of a plan. -/
def root (plan : ClientPlan) : Except ClientError Position :=
  match plan.rootService? with
  | some service => .ok ⟨plan, service, ""⟩
  | none => .error (.noSuchService "")

/-- The child of the named service, if the plan has one, one segment further. -/
def child? (position : Position) (target : Name) (segment : String) : Option Position :=
  (position.plan.service? target).map fun service =>
    { position with service := service, path := joinPath position.path segment }

/-- The name of the type that represents the service. -/
def typeName (position : Position) : String := position.service.typeName

/-- The position as it is shown to users. -/
def display (position : Position) : String := position.typeName ++ "(" ++ position.path ++ ")"

/-- The position as it is shown to developers. -/
def inspect (position : Position) : String :=
  "DynamicService \x7b type_name: " ++ Text.quoted position.typeName ++ ", path: " ++
    Text.quoted position.path ++ ", .. \x7d"

end Position

end ServiceTree
