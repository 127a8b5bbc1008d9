import ServiceTree.Proofs.BodyRoundTrip
import ServiceTree.Proofs.CallErrors

/-!
# Bodies of coerced values

A shape gives loose fields their structure and loose items their element type. What has its type keeps it,
and a value that is neither is left as it is, so coercing again changes nothing. A body does not say of which
types its values are: a value and its coerced form are written as the same bytes, or fail with the same
error. What is read from a body has the type of the shape already.
-/

namespace ServiceTree

namespace Value

/-- The document of a value does not say of which structure it is an instance. -/
theorem toJson_asStruct (typeName : String) (value : Value) :
    (value.asStruct typeName).toJson = value.toJson := by
  cases value <;> rfl

/-- The documents of items do not say of which structure the items are instances. -/
theorem itemsToJson_asStruct (typeName : String) (items : List Value) :
    itemsToJson (items.map (asStruct typeName)) = itemsToJson items := by
  rw [itemsToJson_eq_map, itemsToJson_eq_map, List.map_map]
  exact List.map_congr_left fun item _ => toJson_asStruct typeName item

end Value

/-- Items are written as the same bytes with or without the type of their structure. -/
theorem Body.writeMany_asStruct (typeName : String) (items : List Value) :
    Body.writeMany (items.map (Value.asStruct typeName)) = Body.writeMany items := by
  have hcalendar : Value.itemsOnCalendar (items.map (Value.asStruct typeName)) =
      Value.itemsOnCalendar items := Value.isOnCalendar_asList typeName (.sequence items)
  rw [Body.writeMany, Body.writeMany, hcalendar, Value.itemsToJson_asStruct]

namespace BodyShape

/-- Whether a value is of the loose form that a shape gives a type to. -/
def TakesLoose : BodyShape → Value → Prop
  | .one _, value => ∃ fields, value = .mapping fields
  | .many _, value => ∃ items, value = .sequence items

variable (shape : BodyShape) {value result : Value} {bytes : ByteArray}

/-- A coerced value is not of the loose form. -/
theorem not_takesLoose_coerce (value : Value) : ¬ shape.TakesLoose (shape.coerce value) := by
  cases shape with
  | one name =>
    rintro ⟨fields, hfields⟩
    cases value <;> cases hfields
  | many name =>
    rintro ⟨items, hitems⟩
    cases value <;> cases hitems

variable {shape}

/-- Just the values of the loose form are changed. -/
theorem coerce_eq_self_iff : shape.coerce value = value ↔ ¬ shape.TakesLoose value := by
  constructor
  · intro hsame
    rw [← hsame]
    exact shape.not_takesLoose_coerce value
  · intro htyped
    cases shape with
    | one name =>
      cases value with
      | mapping fields => exact absurd ⟨fields, rfl⟩ htyped
      | _ => rfl
    | many name =>
      cases value with
      | sequence items => exact absurd ⟨items, rfl⟩ htyped
      | _ => rfl

/-- A value and its coerced form are written alike. -/
theorem write_coerce : shape.write (shape.coerce value) = shape.write value := by
  cases shape with
  | one name => cases value <;> rfl
  | many name =>
    cases value with
    | sequence items => exact Body.writeMany_asStruct name items
    | _ => rfl

/-- What is read from a body is not of the loose form. -/
theorem not_takesLoose_of_read (hread : shape.read bytes = .ok result) : ¬ shape.TakesLoose result := by
  cases shape with
  | one name =>
    rw [read, Body.readOne] at hread
    cases hfields : Body.readFields name bytes with
    | error error =>
      rw [hfields] at hread
      cases hread
    | ok fields =>
      rw [hfields] at hread
      cases hread
      rintro ⟨_, hloose⟩
      cases hloose
  | many name =>
    rw [read] at hread
    cases hitems : Body.readMany name bytes with
    | error error =>
      rw [hitems] at hread
      cases hread
    | ok items =>
      rw [hitems] at hread
      cases hread
      rintro ⟨_, hloose⟩
      cases hloose

end BodyShape

/-- Coercing a value twice is coercing it once, and nothing of it shows in the body: the same bytes are
written or the same error is met. What a body is read as is left as it is. -/
theorem coercion_invisible (shape : BodyShape) :
    (∀ value, shape.coerce (shape.coerce value) = shape.coerce value ∧
      shape.write (shape.coerce value) = shape.write value) ∧
    ∀ bytes result, shape.read bytes = .ok result → shape.coerce result = result := by
  refine ⟨fun value => ⟨?_, BodyShape.write_coerce⟩, fun bytes result hread => ?_⟩
  · exact BodyShape.coerce_eq_self_iff.mpr (shape.not_takesLoose_coerce value)
  · exact BodyShape.coerce_eq_self_iff.mpr (BodyShape.not_takesLoose_of_read hread)

/-- Loose items: a draft, an instance of another structure, and no instance at all. -/
def looseItems : Value := .sequence [.mapping [("pages", .integer 3)], .struct "Book" [], .null]

/-- The loose items are written as the items of a list of drafts, which is what they are read as. -/
theorem looseItems_coerced : ∃ bytes, (BodyShape.many "Draft").write looseItems = .ok bytes ∧
    (BodyShape.many "Draft").write (.list "Draft"
      [.struct "Draft" [("pages", .integer 3)], .struct "Book" [], .null]) = .ok bytes ∧
    ∃ result, (BodyShape.many "Draft").read bytes = .ok result ∧
      (BodyShape.many "Draft").coerce result = result := by
  have hdecimals : looseItems.HasNoDecimals := by
    simp [Value.HasNoDecimals, looseItems, Value.parts, Value.itemsParts, Value.fieldsParts]
  have hordered : looseItems.HasOrderedFields := by
    simp [Value.HasOrderedFields, looseItems, Value.parts, Value.itemsParts, Value.fieldsParts, Value.fields?,
      Fields.Ordered]
  have hwritten : (BodyShape.many "Draft").write looseItems = .ok (Body.encode looseItems.toJson) := by
    decide
  have hread := (BodyShape.read_of_write hdecimals hordered (by decide) hwritten).1
  obtain ⟨hvalue, hresult⟩ := coercion_invisible (.many "Draft")
  exact ⟨_, hwritten, (hvalue looseItems).2.trans hwritten, _, hread, hresult _ _ hread⟩

end ServiceTree
