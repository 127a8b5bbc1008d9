import ServiceTree.Emit.Client
import ServiceTree.Model.Validation
import ServiceTree.Plan.Compile
import ServiceTree.Plan.Document

/-!
# Artifacts

What can be made of a model: the code of its client, or its plan for tools that interpret plans.
-/

namespace ServiceTree

/-- What is made of a model. -/
inductive Artifact where
  /-- The code of the client. -/
  | code
  /-- The plan as a document. -/
  | plan
  deriving DecidableEq, Repr

namespace Artifact

/-- The word for an artifact. -/
def word : Artifact → String
  | .code => "rust"
  | .plan => "plan"

/-- All artifacts. -/
def all : List Artifact := [.code, .plan]

/-- The artifact that a word names. -/
def ofWord? (text : String) : Option Artifact := all.find? fun artifact => artifact.word == text

/-- The name of the file that holds an artifact. -/
def fileName : Artifact → String
  | .code => "lib.rs"
  | .plan => "plan.json"

/-- The line that emitted code begins with. -/
def notice : String :=
  "// This code was automatically generated by arbor-gen. Do not edit manually."

/-- The text of emitted code: the notice, and the tokens on a line of their own. -/
def codeText (tokens : Emit.Tokens) : String := notice ++ "\n\n" ++ Emit.render tokens ++ "\n"

/-- The content of an artifact. -/
def ofPlan (artifact : Artifact) (plan : ClientPlan) : Except GenerationError String :=
  match artifact with
  | .code => plan.emit.map codeText
  | .plan => .ok plan.render

/-- The content of an artifact of a model that keeps every rule. -/
def ofModel (artifact : Artifact) (model : Model) : Except GenerationError String := do
  model.validate.mapError .model
  artifact.ofPlan (← model.plan)

end Artifact

end ServiceTree
