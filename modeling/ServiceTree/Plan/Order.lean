import ServiceTree.Model.Basic
import ServiceTree.Plan.Error

/-!
# Bases before their descendants

Services wait in a queue sorted by name. The one in front is placed when it has no base or its base
is placed already, and goes to the back otherwise. When all that wait have been put back one after the
other, none of them can ever be placed.
-/

namespace ServiceTree

/-- Services in the order of their names; services of one name stay in declared order. -/
def sortServices (services : List Service) : List Service :=
  services.mergeSort fun a b => a.name.le b.name

/-- Texts in the order of their code points. -/
def sortTexts (texts : List String) : List String :=
  texts.mergeSort fun a b => decide (¬ b < a)

/-- Whether a service can be placed after the given ones. -/
def isReady (placed : List Name) (service : Service) : Bool :=
  match service.base with
  | none => true
  | some base => placed.contains base

/-- Place the services that wait in `front` and, behind them, those put back since a service was last
placed. -/
def placeServices (placed : List Name) (front putBack : List Service) :
    Except GenerationError (List Service) :=
  match front with
  | [] =>
    if putBack.isEmpty then .ok []
    else .error (.unresolvableBase (sortTexts (putBack.map fun service => service.name.camelCase)))
  | service :: rest =>
    if isReady placed service then
      (placeServices (service.name :: placed) (rest ++ putBack) []).map (service :: ·)
    else placeServices placed rest (putBack ++ [service])
  termination_by (front.length + putBack.length, front.length)
  decreasing_by
  · exact Prod.Lex.left _ _ (by simp only [List.length_append, List.length_cons, List.length_nil]; omega)
  · have hlength : rest.length + (putBack ++ [service]).length =
        (service :: rest).length + putBack.length := by
      simp only [List.length_append, List.length_cons, List.length_nil]
      omega
    rw [hlength]
    exact Prod.Lex.right _ (by simp only [List.length_cons]; omega)

/-- The services with every base before its descendants. -/
def orderServices (services : List Service) : Except GenerationError (List Service) :=
  placeServices [] (sortServices services) []

end ServiceTree
