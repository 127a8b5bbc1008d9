import ServiceTree.Body.Shape
import ServiceTree.Proofs.FreeDocuments

/-!
# Bodies that are written and read

A body does not say of which types its values are, and it holds no dates. So a value that is written
and read comes back with loose containers and with texts for its dates, and the shape of the body gives
the outermost containers their types again. Everything else comes back as it was: truth values,
integers of every size, and all texts and keys. Values with decimals are left out.
-/

namespace ServiceTree

namespace Value

/-! ## Containers, typed or loose -/

/-- The fields of a structure or of loose fields. -/
def fields? : Value → Option (Fields Value)
  | .struct _ fields => some fields
  | .mapping fields => some fields
  | _ => none

/-- What a container has if everything directly inside it has it, every value has. -/
@[elab_as_elim]
theorem inside_induction {motive : Value → Prop}
    (leaf : ∀ value : Value, value.fields? = none → value.items? = none → motive value)
    (record : ∀ (value : Value) (fields : Fields Value), value.fields? = some fields →
      (∀ field ∈ fields, motive field.2) → motive value)
    (collection : ∀ (value : Value) (items : List Value), value.items? = some items →
      (∀ item ∈ items, motive item) → motive value)
    (value : Value) : motive value := by
  refine @Value.rec motive (fun fields => ∀ field ∈ fields, motive field.2)
    (fun items => ∀ item ∈ items, motive item) (fun field => motive field.2)
    (leaf _ rfl rfl) (fun _ => leaf _ rfl rfl) (fun _ => leaf _ rfl rfl) (fun _ => leaf _ rfl rfl)
    (fun _ => leaf _ rfl rfl) (fun _ => leaf _ rfl rfl) (fun _ fields => record _ fields rfl)
    (fun _ items => collection _ items rfl) (fun fields => record _ fields rfl)
    (fun items => collection _ items rfl) ?_ ?_ ?_ ?_ ?_ value
  · exact List.forall_mem_nil _
  · exact fun field rest hfield hrest => List.forall_mem_cons.mpr ⟨hfield, hrest⟩
  · exact List.forall_mem_nil _
  · exact fun item rest hitem hrest => List.forall_mem_cons.mpr ⟨hitem, hrest⟩
  · exact fun _ _ hvalue => hvalue

mutual

/-- A value and all values inside it. -/
def parts : Value → List Value
  | .null => [.null]
  | .boolean value => [.boolean value]
  | .integer value => [.integer value]
  | .decimal value => [.decimal value]
  | .date value => [.date value]
  | .string value => [.string value]
  | .struct name fields => .struct name fields :: fieldsParts fields
  | .list name items => .list name items :: itemsParts items
  | .mapping fields => .mapping fields :: fieldsParts fields
  | .sequence items => .sequence items :: itemsParts items
  termination_by structural value => value

/-- The parts of the items of a list. -/
def itemsParts : List Value → List Value
  | [] => []
  | item :: rest => parts item ++ itemsParts rest
  termination_by structural items => items

/-- The parts of the fields of a structure. -/
def fieldsParts : List (String × Value) → List Value
  | [] => []
  | (_, value) :: rest => parts value ++ fieldsParts rest
  termination_by structural fields => fields

end

mutual

/-- A value without its types: its containers are loose, and its dates are texts. -/
def loosened : Value → Value
  | .null => .null
  | .boolean value => .boolean value
  | .integer value => .integer value
  | .decimal value => .decimal value
  | .date value => .string (Rfc3339.write value)
  | .string value => .string value
  | .struct _ fields => .mapping (fieldsLoosened fields)
  | .list _ items => .sequence (itemsLoosened items)
  | .mapping fields => .mapping (fieldsLoosened fields)
  | .sequence items => .sequence (itemsLoosened items)
  termination_by structural value => value

/-- The items of a list without their types. -/
def itemsLoosened : List Value → List Value
  | [] => []
  | item :: rest => loosened item :: itemsLoosened rest
  termination_by structural items => items

/-- The fields of a structure without their types. -/
def fieldsLoosened : List (String × Value) → List (String × Value)
  | [] => []
  | (key, value) :: rest => (key, loosened value) :: fieldsLoosened rest
  termination_by structural fields => fields

end

/-- The parts of several items are those of each of them. -/
theorem itemsParts_eq_flatMap (items : List Value) : itemsParts items = items.flatMap parts := by
  induction items with
  | nil => rfl
  | cons item rest ih => rw [itemsParts, ih, List.flatMap_cons]

/-- The parts of several fields are those of each of their values. -/
theorem fieldsParts_eq_flatMap (fields : List (String × Value)) :
    fieldsParts fields = fields.flatMap fun field => field.2.parts := by
  induction fields with
  | nil => rfl
  | cons field rest ih => rw [fieldsParts, ih, List.flatMap_cons]

/-- Items lose their types one by one. -/
theorem itemsLoosened_eq_map (items : List Value) : itemsLoosened items = items.map loosened := by
  induction items with
  | nil => rfl
  | cons item rest ih => rw [itemsLoosened, ih, List.map_cons]

/-- Fields lose their types one by one and keep their keys. -/
theorem fieldsLoosened_eq_map (fields : List (String × Value)) :
    fieldsLoosened fields = fields.map fun field => (field.1, field.2.loosened) := by
  induction fields with
  | nil => rfl
  | cons field rest ih => rw [fieldsLoosened, ih, List.map_cons]

section

variable {value : Value} {fields : Fields Value} {items : List Value}

/-- The parts of a value with fields are the value and the parts of its fields. -/
theorem forall_parts_of_fields (hfields : value.fields? = some fields) {P : Value → Prop} :
    (∀ part ∈ value.parts, P part) ↔
      P value ∧ ∀ field ∈ fields, ∀ part ∈ field.2.parts, P part := by
  cases value <;> cases hfields
  all_goals rw [parts, List.forall_mem_cons, fieldsParts_eq_flatMap, List.forall_mem_flatMap]

/-- The parts of a value with items are the value and the parts of its items. -/
theorem forall_parts_of_items (hitems : value.items? = some items) {P : Value → Prop} :
    (∀ part ∈ value.parts, P part) ↔
      P value ∧ ∀ item ∈ items, ∀ part ∈ item.parts, P part := by
  cases value <;> cases hitems
  all_goals rw [parts, List.forall_mem_cons, itemsParts_eq_flatMap, List.forall_mem_flatMap]

/-- Every value is a part of itself. -/
theorem self_mem_parts (value : Value) : value ∈ value.parts := by
  cases value <;> exact List.mem_cons_self

/-- A value with fields is sent as the record of their documents. -/
theorem toJson_of_fields (hfields : value.fields? = some fields) :
    value.toJson = .record (fields.map fun field => (field.1, field.2.toJson)) := by
  cases value <;> cases hfields
  all_goals rw [toJson, fieldsToJson_eq_map]

/-- A value with items is sent as the list of their documents. -/
theorem toJson_of_items (hitems : value.items? = some items) :
    value.toJson = .list (items.map toJson) := by
  cases value <;> cases hitems
  all_goals rw [toJson, itemsToJson_eq_map]

/-- A value with fields loses its types to become loose fields. -/
theorem loosened_of_fields (hfields : value.fields? = some fields) :
    value.loosened = .mapping (fields.map fun field => (field.1, field.2.loosened)) := by
  cases value <;> cases hfields
  all_goals rw [loosened, fieldsLoosened_eq_map]

/-- A value with items loses its types to become loose items. -/
theorem loosened_of_items (hitems : value.items? = some items) :
    value.loosened = .sequence (items.map loosened) := by
  cases value <;> cases hitems
  all_goals rw [loosened, itemsLoosened_eq_map]

end

/-- A value without the types inside it: with fields it is an instance of the named type, otherwise it
has no type. -/
def instanceOf (name : String) (value : Value) : Value :=
  match value.fields? with
  | some fields => .struct name (fields.map fun field => (field.1, field.2.loosened))
  | none => value.loosened

/-- Typing the loose form of a value makes it an instance. -/
theorem asStruct_loosened (name : String) (value : Value) :
    value.loosened.asStruct name = value.instanceOf name := by
  cases value <;> simp [loosened, asStruct, instanceOf, fields?, fieldsLoosened_eq_map]

/-! ## Documents of values -/

/-- Whether no part of a value is a decimal. -/
def HasNoDecimals (value : Value) : Prop := ∀ part ∈ value.parts, ∀ number, part ≠ .decimal number

/-- Whether all fields in a value stand in the order of their keys, as maps keep them. -/
def HasOrderedFields (value : Value) : Prop :=
  ∀ part ∈ value.parts, ∀ fields ∈ part.fields?, fields.Ordered

/-- The integer of a value fits a machine word. -/
theorem fitsWord_toInt (value : Int64) : Json.FitsWord value.toInt := by
  refine ⟨value.minValue_le_toInt, ?_⟩
  have hlt := value.toInt_lt
  change value.toInt < (18446744073709551616 : Int)
  omega

/-- The document of a value without decimals holds no decimals either. -/
theorem whole_toJson {value : Value} (hdecimals : value.HasNoDecimals) : value.toJson.Whole := by
  induction value using inside_induction with
  | leaf value hfields hitems =>
    cases value with
    | null | boolean _ | date _ | string _ => trivial
    | integer value => exact fitsWord_toInt value
    | decimal number => exact absurd rfl (hdecimals _ (self_mem_parts _) number)
    | struct _ _ | mapping _ => cases hfields
    | list _ _ | sequence _ => cases hitems
  | record value fields hfields ih =>
    obtain ⟨-, hinside⟩ := (forall_parts_of_fields hfields).mp hdecimals
    rw [toJson_of_fields hfields, Json.whole_record, List.forall_mem_map]
    exact fun field hfield => ih field hfield (hinside field hfield)
  | collection value items hitems ih =>
    obtain ⟨-, hinside⟩ := (forall_parts_of_items hitems).mp hdecimals
    rw [toJson_of_items hitems, Json.whole_list, List.forall_mem_map]
    exact fun item hitem => ih item hitem (hinside item hitem)

/-- The document of a value with ordered fields is sorted. -/
theorem sorted_toJson {value : Value} (hordered : value.HasOrderedFields) : value.toJson.Sorted := by
  induction value using inside_induction with
  | leaf value hfields hitems =>
    cases value with
    | null | boolean _ | integer _ | date _ | string _ => trivial
    | decimal number =>
      rw [toJson]
      split <;> trivial
    | struct _ _ | mapping _ => cases hfields
    | list _ _ | sequence _ => cases hitems
  | record value fields hfields ih =>
    obtain ⟨hown, hinside⟩ := (forall_parts_of_fields hfields).mp hordered
    rw [toJson_of_fields hfields, Json.sorted_record, List.forall_mem_map]
    refine ⟨?_, fun field hfield => ih field hfield (hinside field hfield)⟩
    rw [Fields.Ordered, List.pairwise_map]
    exact hown fields hfields
  | collection value items hitems ih =>
    obtain ⟨-, hinside⟩ := (forall_parts_of_items hitems).mp hordered
    rw [toJson_of_items hitems, Json.sorted_list, List.forall_mem_map]
    exact fun item hitem => ih item hitem (hinside item hitem)

/-- The document of a value without decimals decodes to the value without its types. -/
theorem ofJson_toJson {value : Value} (hdecimals : value.HasNoDecimals) :
    ofJson value.toJson = value.loosened := by
  induction value using inside_induction with
  | leaf value hfields hitems =>
    cases value with
    | null | boolean _ | date _ | string _ => rfl
    | integer value =>
      change ofNumber (.integer value.toInt) = .integer value
      rw [ofNumber, if_pos value.toInt_le, Int64.ofInt_toInt]
    | decimal number => exact absurd rfl (hdecimals _ (self_mem_parts _) number)
    | struct _ _ | mapping _ => cases hfields
    | list _ _ | sequence _ => cases hitems
  | record value fields hfields ih =>
    obtain ⟨-, hinside⟩ := (forall_parts_of_fields hfields).mp hdecimals
    rw [toJson_of_fields hfields, loosened_of_fields hfields, ofJson, fieldsOfJson_eq_map, List.map_map]
    congr 1
    refine List.map_congr_left fun field hfield => ?_
    rw [Function.comp_apply, ih field hfield (hinside field hfield)]
  | collection value items hitems ih =>
    obtain ⟨-, hinside⟩ := (forall_parts_of_items hitems).mp hdecimals
    rw [toJson_of_items hitems, loosened_of_items hitems, ofJson, itemsOfJson_eq_map, List.map_map]
    congr 1
    refine List.map_congr_left fun item hitem => ?_
    rw [Function.comp_apply, ih item hitem (hinside item hitem)]

end Value

/-! ## Bodies -/

/-- A document is decoded from the bytes that encode it. -/
theorem Body.decode_encode {json : Json} (hwhole : json.Whole) (hsorted : json.Sorted)
    (hnesting : json.nesting ≤ Format.json.nestingLimit) : Body.decode (Body.encode json) = .ok json := by
  have htext : String.fromUTF8? json.render.toUTF8 = some json.render :=
    dif_pos json.render.isValidUTF8
  rw [Body.decode, Body.encode, htext, Option.bind_some, Json.read?_render hwhole hsorted hnesting]

namespace BodyShape

variable {shape : BodyShape} {value : Value} {bytes : ByteArray}

/-- Only a value with fields is written as one instance, and its document is what is written. -/
theorem write_one_eq_ok {name : String} (hwritten : (one name).write value = .ok bytes) :
    bytes = Body.encode value.toJson ∧ ∃ fields, value.fields? = some fields := by
  have hfields : ∃ fields, value.fields? = some fields := by
    cases value with
    | struct _ fields | mapping fields => exact ⟨fields, rfl⟩
    | _ => cases hwritten
  have hwrite : (one name).write value =
      if value.isOnCalendar then .ok (Body.encode value.toJson) else .error .offCalendar := by
    obtain ⟨fields, hfields⟩ := hfields
    cases value <;> cases hfields <;> rfl
  rw [hwrite] at hwritten
  split at hwritten
  · cases hwritten
    exact ⟨rfl, hfields⟩
  · cases hwritten

/-- Only a value with items is written as a collection, and its document is what is written. -/
theorem write_many_eq_ok {name : String} (hwritten : (many name).write value = .ok bytes) :
    bytes = Body.encode value.toJson ∧ ∃ items, value.items? = some items := by
  rw [write] at hwritten
  split at hwritten
  case h_1 items hitems =>
    rw [Body.writeMany, Value.itemsToJson_eq_map, ← Value.toJson_of_items hitems] at hwritten
    split at hwritten
    · cases hwritten
      exact ⟨rfl, items, hitems⟩
    · cases hwritten
  case h_2 => cases hwritten

/-- What a shape makes of a value that was written: a structure with its fields, or a list with its items in
order, of which those with fields are instances of the element type. -/
def ReadsAs : BodyShape → Value → Value → Prop
  | .one name, value, result =>
      ∃ fields, value.fields? = some fields ∧
        result = .struct name (fields.map fun field => (field.1, field.2.loosened))
  | .many name, value, result =>
      ∃ items, value.items? = some items ∧ result = .list name (items.map (Value.instanceOf name))

/-- A body that is written from a value without decimals is read as the value with its types erased
and those of the shape applied. -/
theorem read_of_write (hdecimals : value.HasNoDecimals) (hordered : value.HasOrderedFields)
    (hnesting : value.toJson.nesting < 128) (hwritten : shape.write value = .ok bytes) :
    shape.read bytes = .ok (shape.coerce value.loosened) ∧
      shape.ReadsAs value (shape.coerce value.loosened) := by
  have hdecoded : Body.decode (Body.encode value.toJson) = .ok value.toJson :=
    Body.decode_encode (Value.whole_toJson hdecimals) (Value.sorted_toJson hordered)
      (Nat.le_of_lt_succ hnesting)
  have hvalue := Value.ofJson_toJson hdecimals
  cases shape with
  | one name =>
    obtain ⟨rfl, fields, hfields⟩ := write_one_eq_ok hwritten
    rw [Value.loosened_of_fields hfields] at hvalue ⊢
    refine ⟨?_, fields, hfields, rfl⟩
    simp only [read, Body.readOne, Body.readFields, hdecoded, bind, Except.bind, hvalue]
    rfl
  | many name =>
    obtain ⟨rfl, items, hitems⟩ := write_many_eq_ok hwritten
    have hcoerced : coerce (many name) value.loosened = .list name (items.map (Value.instanceOf name)) := by
      simp only [coerce, Value.loosened_of_items hitems, Value.asList, List.map_map, Function.comp_def,
        Value.asStruct_loosened]
    refine ⟨?_, items, hitems, hcoerced⟩
    rw [Value.loosened_of_items hitems, Value.toJson_of_items hitems, Value.ofJson] at hvalue
    rw [Value.toJson_of_items hitems] at hdecoded ⊢
    rw [hcoerced]
    simp only [read, Body.readMany, hdecoded, bind, Except.bind, Value.sequence.inj hvalue, List.map_map,
      Function.comp_def, Value.asStruct_loosened]
    rfl

end BodyShape

/-- A list with an item of another type, whose fields hold a date, the least integer and a text with
signs that have to be escaped, and with an item that is no instance. -/
def mixedList : Value :=
  .list "Draft"
    [.struct "Draft" [("due", .date ⟨0, 0, 3600⟩), ("pages", .integer Int64.minValue),
      ("tags", .list "Tag" [.string "a\n\"é"])], .null]

/-- The mixed list is read as books, with loose items inside and a text for the date. -/
theorem mixedList_read : ∃ bytes, (BodyShape.many "Book").write mixedList = .ok bytes ∧
    (BodyShape.many "Book").read bytes = .ok (.list "Book"
      [.struct "Book" [("due", .string "1970-01-01T01:00:00+01:00"), ("pages", .integer Int64.minValue),
        ("tags", .sequence [.string "a\n\"é"])], .null]) := by
  have hdate : Rfc3339.write ⟨0, 0, 3600⟩ = "1970-01-01T01:00:00+01:00" := by decide +kernel
  have hdecimals : mixedList.HasNoDecimals := by
    simp [Value.HasNoDecimals, mixedList, Value.parts, Value.itemsParts, Value.fieldsParts]
  have hkeys : Fields.Ordered [("due", Value.date ⟨0, 0, 3600⟩), ("pages", .integer Int64.minValue),
      ("tags", .list "Tag" [.string "a\n\"é"])] := by
    unfold Fields.Ordered
    decide +kernel
  have hordered : mixedList.HasOrderedFields := by
    simpa [Value.HasOrderedFields, mixedList, Value.parts, Value.itemsParts, Value.fieldsParts,
      Value.fields?] using hkeys
  have hwritten : (BodyShape.many "Book").write mixedList = .ok (Body.encode mixedList.toJson) := by
    decide
  have hread := (BodyShape.read_of_write hdecimals hordered (by decide) hwritten).1
  rw [← hdate]
  exact ⟨_, hwritten, hread⟩

end ServiceTree
