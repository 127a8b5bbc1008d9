import ServiceTree.Emit.Token
import ServiceTree.Plan.Basic

/-!
# Documentation of emitted code

What the emitted code says about itself: an operation lists the options it takes and the statuses that
count as success, and the client as a whole lists its services and shows how to begin.
-/

namespace ServiceTree

namespace OperationPlan

/-- How an operation succeeds and fails, in words. -/
def outcomeDoc (operation : OperationPlan) : String :=
  let codes := ", ".intercalate (operation.successCodes.map fun code => toString code.toNat)
  match operation.strategy with
  | .action =>
    "Succeeds on status " ++ codes ++ " unless the returned envelope reports a failure; anything " ++
      "else returns `ArborError::Fault`."
  | _ => "Succeeds on status " ++ codes ++ "; any other status returns `ArborError::Fault`."

/-- The documentation of an operation. -/
def fullDoc (operation : OperationPlan) : String :=
  "\n".intercalate
    ([operation.doc, "", "## Options", ""] ++
      operation.optionKeys.map (fun key => "- `" ++ key ++ "`") ++
      ["- `headers`, `query`: overrides merged into the request", "", "## Errors", "",
        operation.outcomeDoc])

end OperationPlan

namespace ServicePlan

/-- The documentation of a service. -/
def fullDoc (service : ServicePlan) : String :=
  service.doc.getD ("Client for the `" ++ service.name.identifier ++ "` service.") ++
    match service.base with
    | some base => "\n\nIncludes the members of [`" ++ base.serviceType ++ "`]."
    | none => ""

/-- A list of members under a heading, if there are any. -/
def memberSummary (heading : String) (members : List String) : List String :=
  if members.isEmpty then []
  else [heading ++ " " ++ ", ".intercalate (members.map fun member => "`" ++ member ++ "`")]

/-- The members of a service in one line, or nothing. -/
def summary (service : ServicePlan) : String :=
  let parts := memberSummary "operations" (service.operations.map OperationPlan.identifier) ++
    memberSummary "locators" (service.locators.map LocatorPlan.accessor)
  if parts.isEmpty then "" else ": " ++ "; ".intercalate parts

end ServicePlan

namespace ClientPlan

/-- What the client is for, and where it begins. -/
def introduction (plan : ClientPlan) : String :=
  " Generated client for the " ++ plan.name ++ " API." ++
    match plan.rootService? with
    | none => ""
    | some root =>
      (match root.doc with
        | some doc => "\n\n " ++ doc
        | none => "") ++
      "\n\n Every path is resolved from [`" ++ root.typeName ++ "`], addressed by the empty path."

/-- All services with their members. -/
def servicesSection (plan : ClientPlan) : String :=
  "\n".intercalate ([" ## Services", ""] ++
    plan.services.map fun service => " - [`" ++ service.typeName ++ "`]" ++ service.summary)

/-- The line of the example that steps to a child, if the root has one without argument. -/
def exampleStep (root : ServicePlan) : List String :=
  match root.locators.find? fun locator => !locator.isParameterized with
  | some locator => [" let child = root." ++ locator.accessor ++ "();"]
  | none => []

/-- An example of using the client. -/
def exampleSection (plan : ClientPlan) : String :=
  match plan.rootService? with
  | none => ""
  | some root =>
    "\n".intercalate
      ([" ## Example", "", " ```ignore", " use std::sync::Arc;",
        " use arbor::\x7bConnection, HttpTransport\x7d;", "",
        " let transport = HttpTransport::new(\"https://example.com/api/\".parse()?)?;",
        " let root = " ++ root.typeName ++ "::new(Arc::new(Connection::new(transport)), \"\");"] ++
        exampleStep root ++
        [" let resolved = root.resolve(\"some/path\")?;", " println!(\"\x7bresolved\x7d\");", " ```"])

/-- The documentation of the client as a whole. -/
def fullDoc (plan : ClientPlan) : String :=
  "\n\n".intercalate [plan.introduction, plan.servicesSection, plan.exampleSection]

/-- The documentation of the client as attributes of the code that holds them. -/
def docTokens (plan : ClientPlan) : Emit.Tokens :=
  (Text.lines plan.fullDoc).flatMap fun line =>
    Emit.code "#![doc =" ++ Emit.literal line ++ Emit.code "]"

end ClientPlan

end ServiceTree
