import ServiceTree.Emit.AnyService

/-!
# Emitted clients

A client is the function that makes the root, one structure for each service, and the enumeration of
all services. Names that were never meant for code can make a client that the grammar of the language
refuses; such a client is not handed out.
-/

namespace ServiceTree

/-- The code of a client. -/
structure ClientCode where
  modelName : String
  root : Identifier
  services : List ServiceCode
  variants : List VariantCode
  deriving DecidableEq, Repr

/-- The type that no service may take. -/
def anyServiceType : String := "AnyService"

/-- Words that the grammar keeps for itself. -/
def grammarWords : List String :=
  Identifier.neverRaw ++ Identifier.keywords.filter fun word => word ≠ "gen"

/-- Whether an identifier can name a type. -/
def Identifier.namesType (identifier : Identifier) : Bool :=
  identifier.isRaw || !grammarWords.contains identifier.word

/-- Whether an identifier can refer to a type. -/
def Identifier.refersToType (identifier : Identifier) : Bool :=
  identifier.namesType || ["self", "Self", "super", "crate"].contains identifier.word

/-- Whether the ending of a method has a pattern for success. -/
def Ending.isGrammatical : Ending → Bool
  | .byStatus codes _ => !codes.isEmpty
  | .byEnvelope => true
  | .byField _ _ => true

/-- Whether the grammar accepts the code of a service. -/
def ServiceCode.isGrammatical (service : ServiceCode) : Bool :=
  service.name.namesType && (service.methods.all fun method => method.ending.isGrammatical) &&
    service.accessors.all fun accessor => accessor.target.refersToType

/-- The error for code that the grammar refuses. -/
def ungrammatical : GenerationError := .refusedCode "Generated code is invalid"

/-- The tokens of a service on its own, if the grammar accepts them. -/
def ServicePlan.emit (service : ServicePlan) : Except GenerationError Emit.Tokens := do
  let code ← ServiceCode.ofPlan service
  if code.isGrammatical then return code.tokens else throw ungrammatical

open Emit

namespace ClientCode

/-- The code of a client, if its services can be told apart and named. -/
def ofPlan (plan : ClientPlan) : Except GenerationError ClientCode := do
  if plan.services.any fun service => service.typeName == anyServiceType then
    throw (.refusedCode ("A service may not be named '" ++ anyServiceType ++ "'"))
  match plan.rootService? with
  | none => throw (.unknownService ("root #" ++ toString plan.root))
  | some root =>
    let services ← plan.services.mapM ServiceCode.ofPlan
    let variants ← plan.services.mapM VariantCode.ofPlan
    return ⟨plan.name, ← Identifier.spelled root.typeName, services, variants⟩

/-- Whether the grammar accepts the code of a client. -/
def isGrammatical (client : ClientCode) : Bool :=
  client.services.all ServiceCode.isGrammatical &&
    client.variants.all fun variant => variant.name.namesType

/-- The function that makes the root. -/
def rootTokens (client : ClientCode) : Tokens :=
  docAttribute (setOff ("Returns the root service of the " ++ client.modelName ++ " API.")) ++
    code "pub fn root(connection: std::sync::Arc<arbor::Connection>) ->" ++ [client.root.token] ++
    braces ([client.root.token] ++ code "::new(connection," ++ literal "" ++ code ")")

/-- The code of a client. -/
def tokens (client : ClientCode) : Tokens :=
  code "pub use arbor::" ++ braces (code "ArborError, Connection, Options, Value") ++ [";"] ++
    client.rootTokens ++ client.services.flatMap ServiceCode.tokens ++
    VariantCode.allTokens client.modelName client.variants

end ClientCode

namespace ClientPlan

/-- The code of the client, if the grammar accepts it. -/
def clientCode (plan : ClientPlan) : Except GenerationError ClientCode := do
  let client ← ClientCode.ofPlan plan
  if client.isGrammatical then return client else throw ungrammatical

/-- The tokens of the client without its documentation, to be included in other code. -/
def emitItems (plan : ClientPlan) : Except GenerationError Tokens := do
  return (← plan.clientCode).tokens

/-- The tokens of the client as a file of its own. -/
def emit (plan : ClientPlan) : Except GenerationError Tokens := do
  return plan.docTokens ++ (← plan.clientCode).tokens

end ClientPlan

end ServiceTree
