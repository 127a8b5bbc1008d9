import ServiceTree.Model.Error

/-!
# Errors of generation

Why a model could not be planned, emitted or written out.
-/

namespace ServiceTree

/-- Why generation failed. -/
inductive GenerationError where
  | model (error : ModelError)
  /-- The named services wait for bases that can never be placed. -/
  | unresolvableBase (services : List String)
  | unknownService (name : String)
  /-- The code to be emitted is refused. -/
  | refusedCode (problem : String)
  /-- A text cannot stand where the code needs an identifier. -/
  | notAnIdentifier (text : String)
  /-- A file cannot be written. -/
  | unwritable (path : String)
  | configuration (problem : String)
  deriving DecidableEq, Repr

namespace GenerationError

/-- The error in words. -/
def message : GenerationError → String
  | .model cause => cause.message
  | .unresolvableBase services =>
    "Cannot order services; unresolvable bases for: " ++ ", ".intercalate services
  | .unknownService name => "Unknown service '" ++ name ++ "'"
  | .refusedCode problem => "Code generation failed: " ++ problem
  | .notAnIdentifier text => "Not an identifier: " ++ Text.quoted text
  | .unwritable path => "Failed to write output file '" ++ path ++ "'"
  | .configuration problem => "Invalid configuration: " ++ problem

end GenerationError

end ServiceTree
