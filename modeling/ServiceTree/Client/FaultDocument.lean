import ServiceTree.Client.Error
import ServiceTree.Json.Reader
import ServiceTree.Model.Document

/-!
# Faults as documents

A fault is written with all its fields, whether they hold something or not, and read back with the
reason and the detail left out where they are missing.
-/

namespace ServiceTree.Fault

/-- A text, or null. -/
def textOrNull : Option String → Json
  | some text => .text text
  | none => .null

/-- A fault as a document. -/
def toJson (fault : Fault) : Json :=
  .record [("status", Json.integer fault.status.toNat), ("reason", textOrNull fault.reason),
    ("detail", textOrNull fault.detail)]

/-- The fault at a place of an outline. -/
def ofOutline? (outline : Outline) : Option Fault := do
  let members ← outline.members? .json ["status", "reason", "detail"]
  let status ← Outline.required? members "status" (Outline.naturalBelow? UInt16.size)
  return {
    status := UInt16.ofNat status
    reason := ← Outline.optional? members "reason" Outline.text?
    detail := ← Outline.optional? members "detail" Outline.text? }

/-- The fault that a text holds. -/
def read? (text : String) : Option Fault := (Json.outline? text.toList).bind ofOutline?

end ServiceTree.Fault
