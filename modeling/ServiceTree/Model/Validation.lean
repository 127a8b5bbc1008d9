import ServiceTree.Model.Basic
import ServiceTree.Model.Error

/-!
# Validation of models

The rules that planning relies on: services have distinct names, the root and every base and locator
target is declared, following bases always ends, and of the locators visible from a service at most
one takes an argument. A locator hides the locators of its name in all bases of its service.
-/

namespace ServiceTree.Model

/-- The base that a service of the given name extends. -/
def base? (model : Model) (name : Name) : Option Name := (model.find? name).bind Service.base

/-- Whether following bases from a name comes to an end within so many links. -/
def endsWithin (model : Model) : Nat → Name → Bool
  | links, name =>
    match model.base? name, links with
    | none, _ => true
    | some _, 0 => false
    | some base, links + 1 => model.endsWithin links base

/-- The services met when following bases through at most so many links, the nearest first. -/
def chain (model : Model) : Nat → Service → List Service
  | 0, service => [service]
  | links + 1, service =>
    match service.base.bind model.find? with
    | none => [service]
    | some base => service :: model.chain links base

/-- The locators whose name is not among those seen, and of several with one name the first. -/
def firstOfEachName (seen : List Name) : List Locator → List Locator
  | [] => []
  | locator :: rest =>
    if seen.contains locator.name then firstOfEachName seen rest
    else locator :: firstOfEachName (locator.name :: seen) rest

/-- The locators visible from a service: for each name the declaration in the nearest service. -/
def visibleLocators (model : Model) (service : Service) : List Locator :=
  firstOfEachName [] ((model.chain model.services.length service).flatMap Service.locators)

/-- The first name that repeats an earlier one. -/
def repeatedName? (seen : List Name) : List Name → Option Name
  | [] => none
  | name :: rest => if seen.contains name then some name else repeatedName? (name :: seen) rest

/-- Whether a service of the name is declared. -/
def declares (model : Model) (name : Name) : Bool :=
  model.services.any fun service => service.name = name

/-- What is wrong with the base of a service. -/
def baseError? (model : Model) (service : Service) : Option ModelError :=
  match service.base with
  | some base =>
    if model.declares base then none
    else some (.unknownBase service.name.camelCase base.camelCase)
  | none => none

/-- What is wrong with the targets of a service's locators. -/
def targetError? (model : Model) (service : Service) : Option ModelError :=
  (service.locators.find? fun locator => !model.declares locator.service).map fun locator =>
    .unknownTarget service.name.camelCase locator.name.camelCase locator.service.camelCase

/-- What is wrong with the services that a service refers to. -/
def referenceError? (model : Model) (service : Service) : Option ModelError :=
  (model.baseError? service).or (model.targetError? service)

/-- Whether following bases from a service never ends. -/
def cycleError? (model : Model) (service : Service) : Option ModelError :=
  if model.endsWithin model.services.length service.name then none
  else some (.baseCycle service.name.camelCase)

/-- Whether more than one locator visible from a service takes an argument. -/
def parameterError? (model : Model) (service : Service) : Option ModelError :=
  let parameterized := (model.visibleLocators service).filter Locator.isParameterized
  if parameterized.length ≤ 1 then none
  else some (.severalParameterized service.name.camelCase
    (parameterized.map fun locator => locator.name.camelCase))

/-- The first rule that the model breaks. -/
def error? (model : Model) : Option ModelError :=
  match repeatedName? [] (model.services.map Service.name) with
  | some name => some (.duplicateService name.camelCase)
  | none =>
    if !model.declares model.root then some (.unknownRoot model.root.camelCase)
    else (model.services.findSome? model.referenceError?).or
      ((model.services.findSome? model.cycleError?).or
        (model.services.findSome? model.parameterError?))

/-- Whether the model keeps every rule, or else the first one it breaks. -/
def validate (model : Model) : Except ModelError Unit :=
  match model.error? with
  | some error => .error error
  | none => .ok ()

end ServiceTree.Model
