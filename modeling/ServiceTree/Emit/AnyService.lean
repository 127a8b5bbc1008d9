import ServiceTree.Emit.Service

/-!
# The emitted sum of all services

A resolver may end at any service of the tree. What it returns is an enumeration with one variant for
each service, which passes on the path and the displayed forms of the service it holds.
-/

namespace ServiceTree

/-- A variant: its name, the type it holds, and how that type is shown. -/
structure VariantCode where
  name : Identifier
  type : Identifier
  typeName : String
  deriving DecidableEq, Repr

open Emit

namespace VariantCode

/-- The variant of a service. -/
def ofPlan (service : ServicePlan) : Except GenerationError VariantCode := do
  return ⟨← Identifier.spelled service.variant, ← Identifier.spelled service.typeName,
    service.typeName⟩

/-- One branch for each variant. -/
def branches (variants : List VariantCode) (branch : VariantCode → Tokens) : Tokens :=
  code "match self" ++
    braces (variants.flatMap fun variant => code "Self::" ++ [variant.name.token] ++ branch variant)

/-- The enumeration of all variants. -/
def enumTokens (modelName : String) (variants : List VariantCode) : Tokens :=
  docAttribute (setOff ("Any service of the " ++ modelName ++ " API, as returned by `resolve`.")) ++
    code "#[derive(Clone, Debug)] pub enum AnyService" ++
    braces (variants.flatMap fun variant =>
      [variant.name.token] ++ parens [variant.type.token] ++ [","])

/-- The members of the enumeration. -/
def membersTokens (variants : List VariantCode) : Tokens :=
  code "impl AnyService" ++
    braces
      (docAttributes "Path of the wrapped service." ++ code "pub fn path(&self) -> &str" ++
        braces (branches variants fun _ => code "(service) => service.path(),") ++
        docAttributes "Name of the wrapped service type." ++
        code "pub fn type_name(&self) -> &'static str" ++
        braces (branches variants fun variant =>
          code "(_) =>" ++ literal variant.typeName ++ [","]))

/-- How the enumeration is shown. -/
def displayTokens (variants : List VariantCode) : Tokens :=
  code "impl std::fmt::Display for AnyService" ++
    braces (ServiceCode.formatterTokens ++
      braces (branches variants fun _ => code "(service) => std::fmt::Display::fmt(service, f),"))

/-- The conversion of a service into the enumeration. -/
def conversionTokens (variant : VariantCode) : Tokens :=
  code "impl From<" ++ [variant.type.token] ++ code "> for AnyService" ++
    braces (code "fn from(service:" ++ [variant.type.token] ++ code ") -> Self" ++
      braces (code "Self::" ++ [variant.name.token] ++ code "(service)"))

/-- The code of the enumeration. -/
def allTokens (modelName : String) (variants : List VariantCode) : Tokens :=
  enumTokens modelName variants ++ membersTokens variants ++ displayTokens variants ++
    variants.flatMap conversionTokens

end VariantCode

end ServiceTree
