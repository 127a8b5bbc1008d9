import ServiceTree.Text.Quoted

/-!
# Errors of models

Why a model cannot be used: it cannot be read, or it breaks one of the rules that every later step
relies on.
-/

namespace ServiceTree

/-- Why a model cannot be used. Services and locators are named as they are displayed. -/
inductive ModelError where
  /-- A name has no words. -/
  | emptyName
  | duplicateService (service : String)
  | unknownRoot (root : String)
  | unknownBase (service base : String)
  | unknownTarget (service locator target : String)
  /-- More than one of the locators visible from a service takes an argument. -/
  | severalParameterized (service : String) (locators : List String)
  /-- Following the bases of a service never ends. -/
  | baseCycle (service : String)
  /-- A file has an extension that no format goes with. -/
  | unsupportedFormat (extension : String)
  /-- A file cannot be read as text. -/
  | unreadable
  | malformedJson
  | malformedYaml
  deriving DecidableEq, Repr

namespace ModelError

/-- The error in words. -/
def message : ModelError → String
  | .emptyName => "Name must contain at least one word"
  | .duplicateService service => "Service '" ++ service ++ "' is declared more than once"
  | .unknownRoot root => "Root service '" ++ root ++ "' is not declared"
  | .unknownBase service base => "Service '" ++ service ++ "' extends unknown service '" ++ base ++ "'"
  | .unknownTarget service locator target =>
    "Locator '" ++ locator ++ "' of service '" ++ service ++ "' targets unknown service '" ++ target ++
      "'"
  | .severalParameterized service locators =>
    "Service '" ++ service ++ "' declares more than one parameterized locator: " ++
      Text.quotedList locators
  | .baseCycle service => "Service '" ++ service ++ "' is part of a base cycle"
  | .unsupportedFormat extension =>
    "Unsupported model format '" ++ extension ++ "': expected .json, .yaml or .yml"
  | .unreadable => "Failed to read model"
  | .malformedJson => "Invalid JSON model"
  | .malformedYaml => "Invalid YAML model"

end ModelError

end ServiceTree
