import ServiceTree.Proofs.CoercedBodies

/-!
# Coercion by type and by shape

The value of a parameter is coerced by its type, or by the shape that a body of the type has. A shape keeps the
name of an element type and forgets whether it is the name of a structure. So the two agree but for loose items in
a list of anything but structures: the type leaves them as they are, and the shape gives them their element type
as if it were a structure. A body does not show the difference.
-/

namespace ServiceTree

namespace ValueType

/-- Whether a value is loose where the type asks for a structure or for a list of structures. -/
inductive TakesLoose : ValueType → Value → Prop
  | fields (name : Name) (fields : List (String × Value)) : TakesLoose (.struct name) (.mapping fields)
  | items (name : Name) (items : List Value) : TakesLoose (.list (.struct name)) (.sequence items)

/-- Whether a value is loose where the type asks for a list of anything but structures. -/
inductive PassesLoose : ValueType → Value → Prop
  | items {element : ValueType} (hplain : element.isStruct = false) (items : List Value) :
      PassesLoose (.list element) (.sequence items)

/-- A type is a structure, or it is not. -/
theorem struct_or_plain (type : ValueType) : (∃ name, type = .struct name) ∨ type.isStruct = false := by
  cases type with
  | struct name => exact .inl ⟨name, rfl⟩
  | _ => exact .inr rfl

end ValueType

namespace Value

/-- Give a value the type that a body of the type asks for; a type without a body asks for none. -/
def coerceByShape (value : Value) (type : ValueType) : Value :=
  match BodyShape.forType? type with
  | some shape => shape.coerce value
  | none => value

variable {value : Value} {type element : ValueType} {name : Name}

/-- A list of anything but structures is left as it is by its type. -/
theorem coerce_of_plain (hplain : element.isStruct = false) : value.coerce (.list element) = value := by
  cases element with
  | struct name => cases hplain
  | _ => rfl

/-- The shape of a structure changes just the loose fields. -/
theorem coerceByShape_struct_eq_self_iff :
    value.coerceByShape (.struct name) = value ↔ ¬ ∃ fields, value = .mapping fields := by
  change (BodyShape.one name.camelCase).coerce value = value ↔ _
  exact BodyShape.coerce_eq_self_iff

/-- The shape of a list changes just the loose items. -/
theorem coerceByShape_list_eq_self_iff :
    value.coerceByShape (.list element) = value ↔ ¬ ∃ items, value = .sequence items := by
  change (BodyShape.many element.description).coerce value = value ↔ _
  exact BodyShape.coerce_eq_self_iff

/-- The shape and the type agree where a value is not loose for a list of anything but structures. -/
theorem coerceByShape_eq_coerce (hvalue : ¬ type.PassesLoose value) :
    value.coerceByShape type = value.coerce type := by
  cases type with
  | primitive kind => rfl
  | struct name => rfl
  | list element =>
    rcases element.struct_or_plain with ⟨name, rfl⟩ | hplain
    · rfl
    · rw [coerce_of_plain hplain, coerceByShape_list_eq_self_iff]
      rintro ⟨items, rfl⟩
      exact hvalue (.items hplain items)

/-- Loose items for a list of anything but structures are left as they are by the type, and are given the
element type by the shape. -/
theorem coerce_of_passesLoose (hvalue : type.PassesLoose value) :
    value.coerce type = value ∧ value.coerceByShape type ≠ value := by
  obtain ⟨hplain, items⟩ := hvalue
  exact ⟨coerce_of_plain hplain, mt coerceByShape_list_eq_self_iff.mp (not_not.mpr ⟨items, rfl⟩)⟩

/-- The shape changes just the values that are loose for a structure or a list. -/
theorem coerceByShape_ne_self_iff :
    value.coerceByShape type ≠ value ↔ type.TakesLoose value ∨ type.PassesLoose value := by
  cases type with
  | primitive kind => exact iff_of_false (· rfl) (Or.elim · nofun nofun)
  | struct name =>
    rw [ne_eq, coerceByShape_struct_eq_self_iff, not_not]
    constructor
    · rintro ⟨fields, rfl⟩
      exact .inl (.fields name fields)
    · rintro (hvalue | hvalue) <;> cases hvalue
      exact ⟨_, rfl⟩
  | list element =>
    rw [ne_eq, coerceByShape_list_eq_self_iff, not_not]
    constructor
    · rintro ⟨items, rfl⟩
      rcases element.struct_or_plain with ⟨name, rfl⟩ | hplain
      · exact .inl (.items name items)
      · exact .inr (.items hplain items)
    · rintro (hvalue | hvalue) <;> cases hvalue <;> exact ⟨_, rfl⟩

/-- The type changes just the values that are loose for a structure or a list of structures. -/
theorem coerce_ne_self_iff : value.coerce type ≠ value ↔ type.TakesLoose value := by
  by_cases hvalue : type.PassesLoose value
  · refine iff_of_false (not_not.mpr (coerce_of_passesLoose hvalue).1) fun htakes => ?_
    obtain ⟨hplain, items⟩ := hvalue
    cases htakes
    cases hplain
  · rw [← coerceByShape_eq_coerce hvalue, coerceByShape_ne_self_iff, or_iff_left hvalue]

/-- A body does not show by which of the two a value was coerced. -/
theorem write_coerceByShape {shape : BodyShape} (hshape : BodyShape.forType? type = some shape) :
    shape.write (value.coerceByShape type) = shape.write (value.coerce type) := by
  by_cases hvalue : type.PassesLoose value
  · rw [(coerce_of_passesLoose hvalue).1, coerceByShape, hshape]
    exact BodyShape.write_coerce
  · rw [coerceByShape_eq_coerce hvalue]

end Value

/-- Coercing by a type and by the shape of its body differ exactly in loose items for a list of anything but
structures, which only the shape changes; what is written is the same. -/
theorem coerce_by_type_and_shape (value : Value) (type : ValueType) :
    (value.coerce type = value.coerceByShape type ↔ ¬ type.PassesLoose value) ∧
    (value.coerce type ≠ value ↔ type.TakesLoose value) ∧
    (value.coerceByShape type ≠ value ↔ type.TakesLoose value ∨ type.PassesLoose value) ∧
    (∀ element items, type = .list element → value = .sequence items →
      value.coerceByShape type =
        .list element.description (items.map (Value.asStruct element.description))) ∧
    ∀ shape, BodyShape.forType? type = some shape →
      shape.write (value.coerceByShape type) = shape.write (value.coerce type) := by
  refine ⟨⟨fun hsame hvalue => ?_, fun hvalue => (Value.coerceByShape_eq_coerce hvalue).symm⟩,
    Value.coerce_ne_self_iff, Value.coerceByShape_ne_self_iff, ?_, fun _ => Value.write_coerceByShape⟩
  · obtain ⟨hleft, hgiven⟩ := Value.coerce_of_passesLoose hvalue
    exact hgiven (hsame.symm.trans hleft)
  · rintro element items rfl rfl
    rfl

/-- Loose items for a list of texts, one of them a text and one of them loose fields. -/
def looseTags : Value := .sequence [.string "dune", .mapping []]

/-- For a list of texts the loose items are left as they are by the type, and the shape makes a list of them, with
an instance of a structure that is named like the texts. -/
theorem looseTags_coerced_apart :
    looseTags.coerce (.list (.primitive .string)) = looseTags ∧
    looseTags.coerceByShape (.list (.primitive .string)) =
      .list "string" [.string "dune", .struct "string" []] ∧
    looseTags.coerce (.list (.primitive .string)) ≠
      looseTags.coerceByShape (.list (.primitive .string)) :=
  ⟨rfl, rfl, nofun⟩

end ServiceTree
