import ServiceTree.Model.Basic
import ServiceTree.Name.Spelling

/-!
# Declaring models

Models can be put together from spellings of names. No rule is checked here, and names may even be
empty: what is wrong with a model shows when it is validated.
-/

namespace ServiceTree

namespace Parameter

/-- A parameter with a direction. -/
def declare (spelling : String) (type : ValueType) (isIn isOut : Bool) : Parameter :=
  ⟨.parse spelling, type, isIn, isOut, none⟩

/-- A parameter that is given. -/
def input (spelling : String) (type : ValueType) : Parameter := declare spelling type true false

/-- A parameter that is returned. -/
def output (spelling : String) (type : ValueType) : Parameter := declare spelling type false true

/-- A parameter that is given and returned. -/
def inOut (spelling : String) (type : ValueType) : Parameter := declare spelling type true true

end Parameter

/-- The structure of a name. -/
def ValueType.named (spelling : String) : ValueType := .struct (.parse spelling)

/-- A method. -/
def Method.declare (spelling : String) (parameters : List Parameter)
    (doc : Option String := none) : Method :=
  ⟨.parse spelling, parameters, doc⟩

namespace Locator

/-- A locator whose segment is its name. -/
def literal (spelling service : String) : Locator := ⟨.parse spelling, none, .parse service, none⟩

/-- A locator whose segment is its argument. -/
def parameterized (spelling service : String) (parameter : Parameter) : Locator :=
  ⟨.parse spelling, some parameter, .parse service, none⟩

end Locator

/-- A service. -/
def Service.declare (spelling : String) (base : Option String) (methods : List Method)
    (locators : List Locator) (doc : Option String := none) : Service :=
  ⟨.parse spelling, base.map .parse, methods, locators, doc⟩

/-- A model. -/
def Model.declare (spelling root : String) (services : List Service) : Model :=
  ⟨.parse spelling, .parse root, services⟩

end ServiceTree
