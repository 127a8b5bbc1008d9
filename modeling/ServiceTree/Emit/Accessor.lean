import ServiceTree.Emit.Identifier
import ServiceTree.Emit.Token
import ServiceTree.Plan.Basic

/-!
# Emitted accessors

A locator becomes a method that makes the child service, one segment further: a fixed segment, or the
argument of the method.
-/

namespace ServiceTree

/-- The segment that an accessor appends. -/
inductive SegmentCode where
  | fixed (segment : String)
  | argument (name : Identifier)
  deriving DecidableEq, Repr

/-- The code of an accessor. -/
structure AccessorCode where
  doc : String
  name : Identifier
  segment : SegmentCode
  /-- The type of the child. -/
  target : Identifier
  deriving DecidableEq, Repr

open Emit

namespace AccessorCode

/-- The segment of a locator's accessor. -/
def segmentOfPlan (locator : LocatorPlan) : Except GenerationError SegmentCode :=
  match locator.argument with
  | some argument => (Identifier.escaped argument).map .argument
  | none => .ok (.fixed locator.segment)

/-- The accessor of a locator. -/
def ofPlan (locator : LocatorPlan) : Except GenerationError AccessorCode := do
  let name ← Identifier.escaped locator.accessor
  let target ← Identifier.spelled locator.targetType
  return ⟨locator.doc, name, ← segmentOfPlan locator, target⟩

/-- The code of the parameter that takes the argument. -/
def parameterTokens : SegmentCode → Tokens
  | .fixed _ => []
  | .argument name => [","] ++ [name.token] ++ code ": &str"

/-- The code of the segment. -/
def segmentTokens : SegmentCode → Tokens
  | .fixed segment => literal segment
  | .argument name => [name.token]

/-- The code of an accessor. -/
def tokens (accessor : AccessorCode) : Tokens :=
  docAttributes accessor.doc ++ code "pub fn" ++ [accessor.name.token] ++
    parens (code "&self" ++ parameterTokens accessor.segment) ++ code "->" ++
    [accessor.target.token] ++
    braces ([accessor.target.token] ++ code "::new" ++
      parens (code "std::sync::Arc::clone(&self.connection), arbor::join_path" ++
        parens (code "&self.path," ++ segmentTokens accessor.segment) ++ [","]))

end AccessorCode

end ServiceTree
