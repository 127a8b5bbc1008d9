import ServiceTree.Json.Writer
import ServiceTree.Json.Reader
import ServiceTree.Model.Document
import ServiceTree.Plan.Basic

/-!
# Plans as documents

A plan file holds the plan as an indented document. Reading one back takes it as it is: nothing says
that its services, edges and types fit together.
-/

namespace ServiceTree

namespace BodyShape

/-- A shape as a document. -/
def toJson : BodyShape → Json
  | .one name => .record [("shape", .text "one"), ("type", .text name)]
  | .many name => .record [("shape", .text "many"), ("type", .text name)]

/-- The shape at a place of an outline. -/
def ofOutline? (format : Format) (outline : Outline) : Option BodyShape := do
  let tagged ← outline.tagged? format format.nestingLimit "shape" "type" ["one", "many"]
  match tagged.tag with
  | "one" => tagged.content.text?.map .one
  | "many" => tagged.content.text?.map .many
  | _ => none

end BodyShape

namespace BodyParameter

/-- A body parameter as a document. -/
def toJson (parameter : BodyParameter) : Json :=
  .record [("ident", .text parameter.identifier), ("shape", parameter.shape.toJson)]

/-- The body parameter at a place of an outline. -/
def ofOutline? (outline : Outline) : Option BodyParameter := do
  let members ← outline.members? .json ["ident", "shape"]
  return {
    identifier := ← Outline.required? members "ident" Outline.text?
    shape := ← Outline.required? members "shape" (BodyShape.ofOutline? .json) }

end BodyParameter

namespace QueryParameter

/-- A query parameter as a document. -/
def toJson (parameter : QueryParameter) : Json :=
  .record ([("option", .text parameter.option), ("tag", .text parameter.tag)] ++
    optionalMember "kind" (fun kind => .text kind.word) parameter.kind)

/-- The query parameter at a place of an outline. -/
def ofOutline? (outline : Outline) : Option QueryParameter := do
  let members ← outline.members? .json ["option", "tag", "kind"]
  return {
    option := ← Outline.required? members "option" Outline.text?
    tag := ← Outline.required? members "tag" Outline.text?
    kind := ← Outline.optional? members "kind"
      (Outline.choice? .json Format.json.nestingLimit PrimitiveKind.all PrimitiveKind.word) }

end QueryParameter

namespace EnvelopeField

/-- An envelope field as a document. -/
def toJson (field : EnvelopeField) : Json :=
  .record ([("option", .text field.option), ("tag", .text field.tag)] ++
    optionalMember "shape" BodyShape.toJson field.shape)

/-- The envelope field at a place of an outline. -/
def ofOutline? (outline : Outline) : Option EnvelopeField := do
  let members ← outline.members? .json ["option", "tag", "shape"]
  return {
    option := ← Outline.required? members "option" Outline.text?
    tag := ← Outline.required? members "tag" Outline.text?
    shape := ← Outline.optional? members "shape" (BodyShape.ofOutline? .json) }

end EnvelopeField

namespace ResponsePlan

/-- A response as a document. -/
def toJson : ResponsePlan → Json
  | .empty => .record [("kind", .text "empty")]
  | .body shape => .record [("kind", .text "body"), ("shape", shape.toJson)]
  | .actionField tag shape =>
    .record ([("kind", .text "action_field"), ("tag", .text tag)] ++
      optionalMember "shape" BodyShape.toJson shape)

/-- The response of a kind whose other members are given. -/
def ofMembers? (kind : String) (members : Outline) : Option ResponsePlan := do
  match kind with
  | "empty" =>
    match members with
    | .list (_ :: _) => none
    | _ => some .empty
  | "body" =>
    let members ← members.members? .free ["shape"]
    return .body (← Outline.required? members "shape" (BodyShape.ofOutline? .free))
  | "action_field" =>
    let members ← members.members? .free ["tag", "shape"]
    return .actionField (← Outline.required? members "tag" Outline.text?)
      (← Outline.optional? members "shape" (BodyShape.ofOutline? .free))
  | _ => none

/-- The response at a place of an outline. Its kind stands among its other members. -/
def ofOutline? (room : Nat) (outline : Outline) : Option ResponsePlan :=
  match outline with
  | .record members => do
    match ← Outline.knownMembers? .json ["kind"] members with
    | [(_, kind)] =>
      let others := Outline.record (members.filter fun member => member.1.text? ≠ some "kind")
      if others.isSound room then ofMembers? (← kind.text?) others else none
    | _ => none
  | .list (kind :: others) => do
    if (Outline.list others).isSound room then ofMembers? (← kind.text?) (.list others) else none
  | _ => none

end ResponsePlan

namespace OperationPlan

/-- An operation as a document. -/
def toJson (operation : OperationPlan) : Json :=
  .record ([("name", operation.name.toJson), ("ident", .text operation.identifier),
    ("strategy", .text operation.strategy.word), ("verb", .text operation.verb.word)] ++
      optionalMember "action_segment" .text operation.actionSegment ++
      [("success_codes", .list (operation.successCodes.map fun code => Json.integer code.toNat))] ++
      optionalMember "primary" BodyParameter.toJson operation.primary ++
      [("query", .list (operation.query.map QueryParameter.toJson)),
        ("envelope", .list (operation.envelope.map EnvelopeField.toJson)),
        ("response", operation.response.toJson), ("doc", .text operation.doc)])

/-- The status code at a place of an outline. -/
def code? (outline : Outline) : Option UInt16 := (outline.naturalBelow? UInt16.size).map UInt16.ofNat

/-- The operation at a place of an outline. -/
def ofOutline? (room : Nat) (outline : Outline) : Option OperationPlan := do
  let members ← outline.members? .json ["name", "ident", "strategy", "verb", "action_segment",
    "success_codes", "primary", "query", "envelope", "response", "doc"]
  return {
    name := ← Outline.required? members "name" Name.ofOutline?
    identifier := ← Outline.required? members "ident" Outline.text?
    strategy := ← Outline.required? members "strategy"
      (Outline.choice? .json Format.json.nestingLimit Strategy.all Strategy.word)
    verb := ← Outline.required? members "verb"
      (Outline.choice? .json Format.json.nestingLimit Verb.all Verb.word)
    actionSegment := ← Outline.optional? members "action_segment" Outline.text?
    successCodes := ← Outline.required? members "success_codes" (Outline.listOf? code?)
    primary := ← Outline.optional? members "primary" BodyParameter.ofOutline?
    query := ← Outline.required? members "query" (Outline.listOf? QueryParameter.ofOutline?)
    envelope := ← Outline.required? members "envelope" (Outline.listOf? EnvelopeField.ofOutline?)
    response := ← Outline.required? members "response" (ResponsePlan.ofOutline? (room - 1))
    doc := ← Outline.required? members "doc" Outline.text? }

end OperationPlan

namespace LocatorPlan

/-- A locator as a document. -/
def toJson (locator : LocatorPlan) : Json :=
  .record ([("name", locator.name.toJson), ("accessor", .text locator.accessor),
    ("segment", .text locator.segment)] ++ optionalMember "argument" .text locator.argument ++
      [("target", locator.target.toJson), ("target_type", .text locator.targetType),
        ("doc", .text locator.doc)])

/-- The locator at a place of an outline. -/
def ofOutline? (outline : Outline) : Option LocatorPlan := do
  let members ← outline.members? .json
    ["name", "accessor", "segment", "argument", "target", "target_type", "doc"]
  return {
    name := ← Outline.required? members "name" Name.ofOutline?
    accessor := ← Outline.required? members "accessor" Outline.text?
    segment := ← Outline.required? members "segment" Outline.text?
    argument := ← Outline.optional? members "argument" Outline.text?
    target := ← Outline.required? members "target" Name.ofOutline?
    targetType := ← Outline.required? members "target_type" Outline.text?
    doc := ← Outline.required? members "doc" Outline.text? }

end LocatorPlan

namespace RouteEdge

/-- An edge as a document. -/
def toJson (edge : RouteEdge) : Json :=
  .record [("locator", edge.locator.toJson), ("segment", .text edge.segment),
    ("target", edge.target.toJson)]

/-- The edge at a place of an outline. -/
def ofOutline? (outline : Outline) : Option RouteEdge := do
  let members ← outline.members? .json ["locator", "segment", "target"]
  return {
    locator := ← Outline.required? members "locator" Name.ofOutline?
    segment := ← Outline.required? members "segment" Outline.text?
    target := ← Outline.required? members "target" Name.ofOutline? }

end RouteEdge

namespace Router

/-- The edges of a service as a document. -/
def toJson (router : Router) : Json :=
  .record ([("literals", .list (router.literals.map RouteEdge.toJson))] ++
    optionalMember "wildcard" RouteEdge.toJson router.wildcard)

/-- The edges at a place of an outline. -/
def ofOutline? (outline : Outline) : Option Router := do
  let members ← outline.members? .json ["literals", "wildcard"]
  return {
    literals := ← Outline.required? members "literals" (Outline.listOf? RouteEdge.ofOutline?)
    wildcard := ← Outline.optional? members "wildcard" RouteEdge.ofOutline? }

end Router

namespace ServicePlan

/-- A service as a document. -/
def toJson (service : ServicePlan) : Json :=
  .record ([("name", service.name.toJson), ("type_name", .text service.typeName)] ++
    optionalMember "base" Name.toJson service.base ++ optionalMember "doc" .text service.doc ++
      [("operations", .list (service.operations.map OperationPlan.toJson)),
        ("locators", .list (service.locators.map LocatorPlan.toJson)),
        ("router", service.router.toJson)])

/-- The service at a place of an outline. -/
def ofOutline? (room : Nat) (outline : Outline) : Option ServicePlan := do
  let members ← outline.members? .json
    ["name", "type_name", "base", "doc", "operations", "locators", "router"]
  return {
    name := ← Outline.required? members "name" Name.ofOutline?
    typeName := ← Outline.required? members "type_name" Outline.text?
    base := ← Outline.optional? members "base" Name.ofOutline?
    doc := ← Outline.optional? members "doc" Outline.text?
    operations := ← Outline.required? members "operations"
      (Outline.listOf? (OperationPlan.ofOutline? (room - 2)))
    locators := ← Outline.required? members "locators" (Outline.listOf? LocatorPlan.ofOutline?)
    router := ← Outline.required? members "router" Router.ofOutline? }

end ServicePlan

namespace ClientPlan

/-- A plan as a document. -/
def toJson (plan : ClientPlan) : Json :=
  .record [("name", .text plan.name), ("root", Json.integer plan.root),
    ("services", .list (plan.services.map ServicePlan.toJson))]

/-- The plan that an outline writes. -/
def ofOutline? (outline : Outline) : Option ClientPlan := do
  let members ← outline.members? .json ["name", "root", "services"]
  return {
    name := ← Outline.required? members "name" Outline.text?
    root := ← Outline.required? members "root" (Outline.naturalBelow? UInt64.size)
    services := ← Outline.required? members "services"
      (Outline.listOf? (ServicePlan.ofOutline? (Format.json.nestingLimit - 2))) }

/-- The text of a plan file. -/
def render (plan : ClientPlan) : String := plan.toJson.renderIndented ++ "\n"

/-- The plan that the text of a plan file holds. -/
def read? (text : String) : Option ClientPlan := (Json.outline? text.toList).bind ofOutline?

end ClientPlan

end ServiceTree
