import ServiceTree.Json.Basic
import ServiceTree.Model.Basic
import ServiceTree.Name.Spelling
import ServiceTree.Outline.Decode

/-!
# Models as documents

A model is written with its names in camel case and without the members that hold nothing. Reading
accepts any spelling of a name, fills in what may be left out, and passes over what it does not know.
-/

namespace ServiceTree

/-- A member that is written only when there is a value. -/
def optionalMember {A : Type} (key : String) (write : A → Json) :
    Option A → List (String × Json)
  | some value => [(key, write value)]
  | none => []

namespace Name

/-- A name as a document. -/
def toJson (name : Name) : Json := .text name.camelCase

/-- The name at a place of an outline. -/
def ofOutline? (outline : Outline) : Option Name := outline.text?.bind parse?

end Name

namespace ValueType

/-- A type as a document: the word for its form, and what it is a form of. -/
def toJson : ValueType → Json
  | .primitive kind => .record [("kind", .text "primitive"), ("of", .text kind.word)]
  | .struct name => .record [("kind", .text "struct"), ("of", name.toJson)]
  | .list element => .record [("kind", .text "list"), ("of", element.toJson)]

/-- The type at a place of an outline, in which so many containers may still nest. -/
def ofOutline? (format : Format) : Nat → Outline → Option ValueType
  | 0, _ => none
  | room + 1, outline => do
    let tagged ← outline.tagged? format room "kind" "of" ["primitive", "struct", "list"]
    match tagged.tag with
    | "primitive" =>
      (tagged.content.choice? tagged.format room PrimitiveKind.all PrimitiveKind.word).map .primitive
    | "struct" => (Name.ofOutline? tagged.content).map .struct
    | "list" => (ofOutline? tagged.format room tagged.content).map .list
    | _ => none

end ValueType

namespace Parameter

/-- A parameter as a document. -/
def toJson (parameter : Parameter) : Json :=
  .record ([("name", parameter.name.toJson), ("type", parameter.type.toJson),
    ("in", .bool parameter.isIn), ("out", .bool parameter.isOut)] ++
      optionalMember "doc" .text parameter.doc)

/-- The parameter at a place of an outline. -/
def ofOutline? (format : Format) (room : Nat) (outline : Outline) : Option Parameter := do
  let members ← outline.members? format ["name", "type", "in", "out", "doc"]
  return {
    name := ← Outline.required? members "name" Name.ofOutline?
    type := ← Outline.required? members "type" (ValueType.ofOutline? format (room - 1))
    isIn := ← Outline.defaulted? members "in" false Outline.truth?
    isOut := ← Outline.defaulted? members "out" false Outline.truth?
    doc := ← Outline.optional? members "doc" Outline.text? }

end Parameter

namespace Method

/-- A method as a document. -/
def toJson (method : Method) : Json :=
  .record ([("name", method.name.toJson),
    ("parameters", .list (method.parameters.map Parameter.toJson))] ++
      optionalMember "doc" .text method.doc)

/-- The method at a place of an outline. -/
def ofOutline? (format : Format) (room : Nat) (outline : Outline) : Option Method := do
  let members ← outline.members? format ["name", "parameters", "doc"]
  return {
    name := ← Outline.required? members "name" Name.ofOutline?
    parameters := ← Outline.defaulted? members "parameters" []
      (Outline.listOf? (Parameter.ofOutline? format (room - 2)))
    doc := ← Outline.optional? members "doc" Outline.text? }

end Method

namespace Locator

/-- A locator as a document. -/
def toJson (locator : Locator) : Json :=
  .record ([("name", locator.name.toJson)] ++
    optionalMember "parameter" Parameter.toJson locator.parameter ++
      [("service", locator.service.toJson)] ++ optionalMember "doc" .text locator.doc)

/-- The locator at a place of an outline. -/
def ofOutline? (format : Format) (room : Nat) (outline : Outline) : Option Locator := do
  let members ← outline.members? format ["name", "parameter", "service", "doc"]
  return {
    name := ← Outline.required? members "name" Name.ofOutline?
    parameter := ← Outline.optional? members "parameter" (Parameter.ofOutline? format (room - 1))
    service := ← Outline.required? members "service" Name.ofOutline?
    doc := ← Outline.optional? members "doc" Outline.text? }

end Locator

namespace Service

/-- A service as a document. -/
def toJson (service : Service) : Json :=
  .record ([("name", service.name.toJson)] ++ optionalMember "base" Name.toJson service.base ++
    [("methods", .list (service.methods.map Method.toJson)),
      ("locators", .list (service.locators.map Locator.toJson))] ++
      optionalMember "doc" .text service.doc)

/-- The service at a place of an outline. -/
def ofOutline? (format : Format) (room : Nat) (outline : Outline) : Option Service := do
  let members ← outline.members? format ["name", "base", "methods", "locators", "doc"]
  return {
    name := ← Outline.required? members "name" Name.ofOutline?
    base := ← Outline.optional? members "base" Name.ofOutline?
    methods := ← Outline.defaulted? members "methods" []
      (Outline.listOf? (Method.ofOutline? format (room - 2)))
    locators := ← Outline.defaulted? members "locators" []
      (Outline.listOf? (Locator.ofOutline? format (room - 2)))
    doc := ← Outline.optional? members "doc" Outline.text? }

end Service

namespace Model

/-- A model as a document. -/
def toJson (model : Model) : Json :=
  .record [("name", model.name.toJson), ("root", model.root.toJson),
    ("services", .list (model.services.map Service.toJson))]

/-- The model that an outline writes; it may break the rules of models. -/
def ofOutline? (format : Format) (outline : Outline) : Option Model := do
  let members ← outline.members? format ["name", "root", "services"]
  return {
    name := ← Outline.required? members "name" Name.ofOutline?
    root := ← Outline.required? members "root" Name.ofOutline?
    services := ← Outline.defaulted? members "services" []
      (Outline.listOf? (Service.ofOutline? format (format.nestingLimit - 2))) }

end Model

end ServiceTree
