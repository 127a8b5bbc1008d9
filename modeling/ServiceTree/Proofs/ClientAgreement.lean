import ServiceTree.Proofs.ResolverAgreement
import ServiceTree.Proofs.WireAgreement

/-!
# Emitted clients

A model whose services differ in name and in type has one client in two forms, interpreted and emitted.
Both do the same: an operation sends the same request and ends in the same way, and a path leads to the
same service.
-/

namespace ServiceTree

variable {model : Model} {plan : ClientPlan} {client : ClientCode}

/-- A plan has the types that the names of the services make. -/
theorem Model.plan_types_perm (hplan : model.plan = .ok plan) :
    (plan.services.map ServicePlan.typeName).Perm
      ((model.services.map Service.name).map Name.serviceType) := by
  have hsame : plan.services.map ServicePlan.typeName =
      (plan.services.map ServicePlan.name).map Name.serviceType := by
    rw [List.map_map]
    apply List.map_congr_left
    intro made hmade
    obtain ⟨service, bases, hplanned⟩ := Model.planned_of_plan hplan made hmade
    rw [hplanned.header.2.1, Function.comp_apply, hplanned.header.1]
  rw [hsame]
  exact (Model.plan_names_perm hplan).map Name.serviceType

/-- A method that adds an item. -/
def addMethod : Method :=
  ⟨⟨["add"]⟩, [⟨⟨["item"]⟩, .struct ⟨["item"]⟩, true, true, none⟩], none⟩

/-- A service that adds items and leads to boxes of the same kind. -/
def shopService : Service where
  name := ⟨["root"]⟩
  base := none
  methods := [addMethod]
  locators := [wildcardLocator ⟨["box"]⟩ ⟨["root"]⟩]
  doc := none

/-- A model of the shop service alone. -/
def shopModel : Model := ⟨⟨["shop"]⟩, ⟨["root"]⟩, [shopService]⟩

/-- The plan of the method. -/
def addOperation : OperationPlan where
  name := ⟨["add"]⟩
  identifier := "add"
  strategy := .add
  verb := .post
  actionSegment := none
  successCodes := [200, 201, 202]
  primary := some ⟨"item", .one "Item"⟩
  query := []
  envelope := []
  response := .body (.one "Item")
  doc := "Adds a new `item`."

/-- The plan of the locator. -/
def boxLocator : LocatorPlan where
  name := ⟨["box"]⟩
  accessor := "box_service"
  segment := "box"
  argument := some "id"
  target := ⟨["root"]⟩
  targetType := "RootService"
  doc := "Locates the `box` service."

/-- The plan of the service. -/
def shopServicePlan : ServicePlan where
  name := ⟨["root"]⟩
  typeName := "RootService"
  base := none
  doc := none
  operations := [addOperation]
  locators := [boxLocator]
  router := ⟨[], some ⟨⟨["box"]⟩, "box", ⟨["root"]⟩⟩⟩

/-- The plan of the model. -/
def shopPlan : ClientPlan := ⟨"Shop", 0, [shopServicePlan]⟩

/-- The method is planned with a body and without a query. -/
theorem addMethod_plan : addMethod.plan = addOperation := by
  have hquery : addMethod.query = [] := by
    have hnone :
        (addMethod.parameters.filter fun p => p.isIn && !p.isOut && p.type.isPrimitive) = [] := by
      decide
    change queryParameters (Method.sortedByName _) = []
    rw [hnone, Method.sortedByName, List.mergeSort_nil]
    rfl
  rw [Method.plan, hquery]
  decide +kernel

/-- The service is planned with its one method and its one locator. -/
theorem shopService_plan : shopService.plan shopModel none = .ok shopServicePlan := by
  have hdeclared : shopService.locators.mapM (Locator.plan shopModel) = .ok [boxLocator] := by
    decide +kernel
  have hoperations : mergeMembers OperationPlan.name [] (shopService.methods.map Method.plan) =
      shopServicePlan.operations := by
    change List.mergeSort [addMethod.plan] _ = _
    rw [List.mergeSort_singleton, addMethod_plan]
    rfl
  have hplan : shopService.plan shopModel none = .ok _ :=
    Service.plan_of_merged hdeclared hoperations (List.mergeSort_singleton _) (by decide)
  exact hplan.trans (by decide +kernel)

/-- The model is planned with its one service. -/
theorem shopModel_plan : shopModel.plan = .ok shopPlan := by
  have hname : (⟨["shop"]⟩ : Name).camelCase = "Shop" := by decide +kernel
  have hplan : shopModel.plan = .ok ⟨(⟨["shop"]⟩ : Name).camelCase, 0, [shopServicePlan]⟩ :=
    Model.plan_alone rfl shopService_plan
  rwa [hname] at hplan

end ServiceTree
