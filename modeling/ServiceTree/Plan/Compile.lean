import ServiceTree.Plan.Operation
import ServiceTree.Plan.Order

/-!
# Planning a model

Services are planned after their bases. A service starts with all members of its base and adds or
replaces members by name, in declared order.
-/

namespace ServiceTree

/-- Add members one after the other, each in place of an earlier one of its name, and put the result
in the order of the names. -/
def mergeMembers {M : Type} (name : M → Name) (inherited declared : List M) : List M :=
  (declared.foldl (fun members member =>
    members.filter (fun other => name other ≠ name member) ++ [member]) inherited).mergeSort
      fun a b => (name a).le (name b)

/-- The plan of a locator of the model. -/
def Locator.plan (model : Model) (locator : Locator) : Except GenerationError LocatorPlan :=
  match model.find? locator.service with
  | none => .error (.unknownService locator.service.camelCase)
  | some target =>
    .ok
      { name := locator.name
        accessor := locator.name.accessor
        segment := locator.name.segment
        argument := locator.parameter.map fun p => p.name.identifier
        target := target.name
        targetType := target.name.serviceType
        doc := locator.doc.getD ("Locates the `" ++ locator.name.identifier ++ "` service.") }

/-- The edge for a locator. -/
def LocatorPlan.edge (locator : LocatorPlan) : RouteEdge :=
  ⟨locator.name, locator.segment, locator.target⟩

/-- The edges for all locators of a service. -/
def Router.ofLocators (locators : List LocatorPlan) : Router :=
  { literals := (locators.filter fun locator => !locator.isParameterized).map LocatorPlan.edge
    wildcard := (locators.find? LocatorPlan.isParameterized).map LocatorPlan.edge }

/-- The plan of a service whose base has the given plan. -/
def Service.plan (model : Model) (service : Service) (base : Option ServicePlan) :
    Except GenerationError ServicePlan := do
  let inheritedOperations := (base.map ServicePlan.operations).getD []
  let inheritedLocators := (base.map ServicePlan.locators).getD []
  let declared ← service.locators.mapM (Locator.plan model)
  let locators := mergeMembers LocatorPlan.name inheritedLocators declared
  let parameterized := locators.filter LocatorPlan.isParameterized
  if parameterized.length > 1 then
    throw (.model (.severalParameterized service.name.camelCase
      (parameterized.map fun locator => locator.name.camelCase)))
  return {
    name := service.name
    typeName := service.name.serviceType
    base := service.base
    doc := service.doc
    operations := mergeMembers OperationPlan.name inheritedOperations (service.methods.map Method.plan)
    locators := locators
    router := Router.ofLocators locators }

/-- The plan of a service's base among the plans made so far, the latest of its name. -/
def basePlan (planned : List ServicePlan) (service : Service) :
    Except GenerationError (Option ServicePlan) :=
  match service.base with
  | none => .ok none
  | some base =>
    match planned.reverse.find? fun plan => plan.name = base with
    | some plan => .ok (some plan)
    | none => .error (.unknownService base.camelCase)

/-- Plan services in order, after those planned already. -/
def planServices (model : Model) (planned : List ServicePlan) :
    List Service → Except GenerationError (List ServicePlan)
  | [] => .ok planned
  | service :: rest => do
    let base ← basePlan planned service
    let plan ← service.plan model base
    planServices model (planned ++ [plan]) rest

/-- The plan of a model. -/
def Model.plan (model : Model) : Except GenerationError ClientPlan := do
  let services ← planServices model [] (← orderServices model.services)
  match services.findIdx? fun service => service.name = model.root with
  | none => .error (.unknownService model.root.camelCase)
  | some root => .ok ⟨model.name.camelCase, root, services⟩

end ServiceTree
