import ServiceTree.Emit.Accessor
import ServiceTree.Emit.Method
import ServiceTree.Emit.Resolver

/-!
# Emitted services

A service becomes a structure of a shared connection and a path. Its members are a constructor, the
path, one method for each operation, one accessor for each locator, and the resolver. Operations and
accessors may not take each other's names, nor those of the fixed members.
-/

namespace ServiceTree

/-- The code of a service. -/
structure ServiceCode where
  doc : String
  /-- The name of the type as it is shown. -/
  typeName : String
  name : Identifier
  methods : List MethodCode
  accessors : List AccessorCode
  resolver : ResolverCode
  deriving DecidableEq, Repr

namespace ServicePlan

/-- The members that every service has. -/
def fixedMembers : List String := ["new", "path", "resolve"]

/-- The names of the operations and accessors of a service. -/
def memberNames (service : ServicePlan) : List String :=
  service.operations.map OperationPlan.identifier ++ service.locators.map LocatorPlan.accessor

/-- The first text that is among those seen or repeats an earlier one. -/
def firstRepeated? (seen : List String) : List String → Option String
  | [] => none
  | text :: rest => if seen.contains text then some text else firstRepeated? (text :: seen) rest

/-- What is wrong with the names of the members. -/
def memberError? (service : ServicePlan) : Option GenerationError :=
  (firstRepeated? fixedMembers service.memberNames).map fun member =>
    .refusedCode ("Service '" ++ service.typeName ++ "' has more than one member named '" ++ member ++
      "'")

end ServicePlan

open Emit

namespace ServiceCode

/-- The code of a service, if its members can be told apart and named. -/
def ofPlan (service : ServicePlan) : Except GenerationError ServiceCode :=
  match service.memberError? with
  | some error => .error error
  | none => do
    let name ← Identifier.spelled service.typeName
    let resolver ← ResolverCode.ofPlan service
    let methods ← service.operations.mapM MethodCode.ofPlan
    let accessors ← service.locators.mapM AccessorCode.ofPlan
    return ⟨service.fullDoc, service.typeName, name, methods, accessors, resolver⟩

/-- The parameter of every formatting method. -/
def formatterTokens : Tokens :=
  code "fn fmt(&self, f: &mut std::fmt::Formatter<'_>) -> std::fmt::Result"

/-- The structure that holds the state of a service. -/
def structTokens (service : ServiceCode) : Tokens :=
  docAttributes service.doc ++ code "#[derive(Clone)] pub struct" ++ [service.name.token] ++
    braces (code "connection: std::sync::Arc<arbor::Connection>, path: String,")

/-- The constructor. -/
def constructorTokens : Tokens :=
  docAttributes "Creates the service addressed by `path`." ++
    code "pub fn new(connection: std::sync::Arc<arbor::Connection>, path: impl Into<String>)" ++
    code "-> Self" ++ braces (["Self"] ++ braces (code "connection, path: path.into(),"))

/-- The member that tells the path. -/
def pathTokens : Tokens :=
  docAttributes "Path of this service relative to the base URL." ++
    code "pub fn path(&self) -> &str" ++ braces (code "&self.path")

/-- The members of a service. -/
def membersTokens (service : ServiceCode) : Tokens :=
  code "impl" ++ [service.name.token] ++
    braces (constructorTokens ++ pathTokens ++ service.methods.flatMap MethodCode.tokens ++
      service.accessors.flatMap AccessorCode.tokens ++ service.resolver.tokens)

/-- How a service is shown to users. -/
def displayTokens (service : ServiceCode) : Tokens :=
  code "impl std::fmt::Display for" ++ [service.name.token] ++
    braces (formatterTokens ++
      braces (code "write!" ++
        parens (code "f," ++ literal (service.typeName ++ "(\x7b\x7d)") ++ code ", self.path")))

/-- How a service is shown to developers. -/
def debugTokens (service : ServiceCode) : Tokens :=
  code "impl std::fmt::Debug for" ++ [service.name.token] ++
    braces (formatterTokens ++
      braces (code "f.debug_struct" ++ parens (literal service.typeName) ++ code ".field" ++
        parens (literal "path" ++ code ", &self.path") ++ code ".finish_non_exhaustive()"))

/-- The code of a service. -/
def tokens (service : ServiceCode) : Tokens :=
  service.structTokens ++ service.membersTokens ++ service.displayTokens ++ service.debugTokens

end ServiceCode

end ServiceTree
