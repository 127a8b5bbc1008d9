import ServiceTree.Emit.Identifier
import ServiceTree.Emit.Token
import ServiceTree.Plan.Basic

/-!
# Emitted resolvers

The method that resolves a path tries one branch for each literal edge, and then the accessor of the
wildcard. Edges for which the service has no locator are left out.
-/

namespace ServiceTree

/-- The branch for a literal edge: its segment, and the accessor that makes the child. -/
structure LiteralBranch where
  segment : String
  accessor : Identifier
  deriving DecidableEq, Repr

/-- The code that resolves paths from a service. -/
structure ResolverCode where
  /-- The variant that the service itself is returned as. -/
  variant : Identifier
  literals : List LiteralBranch
  wildcard : Option Identifier
  deriving DecidableEq, Repr

/-- The variant that stands for a service among all services. -/
def ServicePlan.variant (service : ServicePlan) : String := service.name.camelCase

open Emit

namespace ResolverCode

/-- The accessor of the locator that an edge is for. -/
def accessor? (service : ServicePlan) (edge : RouteEdge) :
    Except GenerationError (Option Identifier) :=
  match service.locator? edge.locator with
  | some locator => (Identifier.escaped locator.accessor).map some
  | none => .ok none

/-- The branch for a literal edge, if the service has its locator. -/
def branch? (service : ServicePlan) (edge : RouteEdge) :
    Except GenerationError (Option LiteralBranch) := do
  return (← accessor? service edge).map fun accessor => ⟨edge.segment, accessor⟩

/-- The resolver of a service. -/
def ofPlan (service : ServicePlan) : Except GenerationError ResolverCode := do
  let variant ← Identifier.spelled service.variant
  let literals ← service.router.literals.mapM (branch? service)
  let wildcard ← match service.router.wildcard with
    | some edge => accessor? service edge
    | none => .ok none
  return ⟨variant, literals.filterMap id, wildcard⟩

end ResolverCode

/-- The code of a branch. -/
def LiteralBranch.tokens (branch : LiteralBranch) : Tokens :=
  code "if path ==" ++ literal branch.segment ++
    braces (code "return Ok(self." ++ [branch.accessor.token] ++ code "().into());") ++
    code "if let Some(rest) = path.strip_prefix" ++ parens (literal (branch.segment ++ "/")) ++
    braces (code "return self." ++ [branch.accessor.token] ++ code "().resolve(rest);")

namespace ResolverCode

/-- The code behind all literal branches. -/
def fallbackTokens : Option Identifier → Tokens
  | some accessor =>
    code "match path.split_once" ++ parens slash ++
      braces (code "None => Ok(self." ++ [accessor.token] ++ code "(path).into())," ++
        code "Some((argument, rest)) => self." ++ [accessor.token] ++
        code "(argument).resolve(rest),")
  | none =>
    ["Err"] ++
      parens (code "arbor::ArborError::NoSuchService" ++ braces (code "path: path.to_string(),"))

/-- The documentation of every resolver. -/
def doc : String :=
  "Resolves a path relative to this service.\n\nThe empty path is this service itself.\n\n" ++
    "## Errors\n\nReturns `ArborError::NoSuchService` when no locator matches."

/-- The code of a resolver. -/
def tokens (resolver : ResolverCode) : Tokens :=
  docAttributes doc ++
    code "pub fn resolve(&self, path: &str) -> Result<AnyService, arbor::ArborError>" ++
    braces
      (code "if path.is_empty()" ++
        braces (code "return Ok(AnyService::" ++ [resolver.variant.token] ++
          code "(self.clone()));") ++
        resolver.literals.flatMap LiteralBranch.tokens ++ fallbackTokens resolver.wildcard)

end ResolverCode

end ServiceTree
