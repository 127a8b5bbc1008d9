import ServiceTree.Proofs.CallErrors

/-!
# The responses to actions

What becomes of the response to an action is told by its status and by the document in its body: whether it
is an object, whether that has a member for a fault, of whatever form, and whether its status is the word for
failure. Each response has one verdict, so no failure passes for success. The reason and the detail of a fault
are strings among the members of the object that describes it; where there is no such object, or where its
members are no strings, only the status is known.
-/

namespace ServiceTree

/-! ## Objects of a document -/

namespace Json

/-- The text of a string. -/
def text? : Json → Option String
  | .text value => some value
  | _ => none

/-- The text of a member of an object, if it is a string. -/
def memberText? (key : String) : Json → Option String
  | .record members => (Fields.find? members key).bind text?
  | _ => none

end Json

namespace Value

/-- A member is found under its key in the fields that an object decodes to. -/
theorem find?_fieldsOfJson (members : List (String × Json)) (key : String) :
    Fields.find? (fieldsOfJson members) key = (Fields.find? members key).map ofJson := by
  induction members with
  | nil => rfl
  | cons member rest ih =>
    obtain ⟨own, value⟩ := member
    rw [fieldsOfJson, Fields.find?, Fields.find?, ih]
    split <;> rfl

/-- A number decodes to an integer or to a decimal. -/
theorem ofNumber_cases (number : Number) :
    (∃ value, ofNumber number = .integer value) ∨ ∃ value, ofNumber number = .decimal value := by
  rw [ofNumber.eq_def]
  split
  · split
    · exact .inl ⟨_, rfl⟩
    · exact .inr ⟨_, rfl⟩
  · exact .inr ⟨_, rfl⟩

/-- Just the objects decode to loose fields. -/
theorem ofJson_eq_mapping {json : Json} {fields : Fields Value} (h : ofJson json = .mapping fields) :
    ∃ members, json = .record members ∧ fields = fieldsOfJson members := by
  cases json with
  | record members =>
    cases h
    exact ⟨members, rfl, rfl⟩
  | number number =>
    obtain ⟨value, hvalue⟩ | ⟨value, hvalue⟩ := ofNumber_cases number
    · cases hvalue.symm.trans h
    · cases hvalue.symm.trans h
  | _ => cases h

/-- Just the strings decode to strings. -/
theorem text?_ofJson (json : Json) : (ofJson json).text? = json.text? := by
  cases json with
  | number number =>
    obtain ⟨value, hvalue⟩ | ⟨value, hvalue⟩ := ofNumber_cases number
    all_goals
      rw [ofJson, hvalue]
      rfl
  | _ => rfl

/-- A string among the fields that an object decodes to is one among its members. -/
theorem text_fieldsOfJson (members : List (String × Json)) (key : String) :
    (Fields.find? (fieldsOfJson members) key).bind text? = (Json.record members).memberText? key := by
  rw [find?_fieldsOfJson, Option.bind_map, Json.memberText?]
  exact Option.bind_congr fun json _ => text?_ofJson json

end Value

namespace Fault

/-- The fault that a document describes: its reason and its detail are strings in an object. -/
def describedBy (status : UInt16) (document : Option Json) : Fault :=
  ⟨status, document.bind (Json.memberText? "reason"), document.bind (Json.memberText? "detail")⟩

/-- The fields that an object decodes to describe the fault that the object describes. -/
theorem withFields_fieldsOfJson (status : UInt16) (members : List (String × Json)) :
    (ofStatus status).withFields (Value.fieldsOfJson members) =
      describedBy status (some (.record members)) := by
  simp only [withFields, ofStatus, describedBy, Value.text_fieldsOfJson, Option.or_none, Option.bind_some]

/-- A document that is no object describes nothing. -/
theorem describedBy_of_no_record (status : UInt16) {json : Json} (hjson : ∀ members, json ≠ .record members) :
    describedBy status (some json) = ofStatus status := by
  cases json with
  | record members => exact absurd rfl (hjson members)
  | _ => rfl

end Fault

namespace Body

variable {bytes : ByteArray} {typeName : String}

/-- The object that a body writes is read as its fields. -/
theorem readFields_of_record {members : List (String × Json)} (h : decode bytes = .ok (.record members)) :
    readFields typeName bytes = .ok (Value.fieldsOfJson members) := by
  rw [readFields, h]
  rfl

/-- A document that is no object is not read as fields. -/
theorem readFields_of_no_record {json : Json} (h : decode bytes = .ok json)
    (hjson : ∀ members, json ≠ .record members) :
    readFields typeName bytes =
      .error (.unexpectedShape typeName "an object" (Value.ofJson json).kindName) := by
  rw [readFields, h]
  simp only [bind, Except.bind]
  split
  case h_1 fields hfields =>
    obtain ⟨members, rfl, -⟩ := Value.ofJson_eq_mapping hfields
    exact absurd rfl (hjson members)
  case h_2 => rfl

/-- No bytes are no document. -/
theorem decode_empty : decode ByteArray.empty = .error .malformed := by
  have htext : String.fromUTF8? "".toUTF8 = some "" := dif_pos "".isValidUTF8
  change decode "".toUTF8 = _
  rw [decode, htext]
  rfl

end Body

namespace Response

/-- The document that a body writes, if it writes one. -/
def document? (response : Response) : Option Json := (Body.decode response.body).toOption

variable {response : Response} {members : List (String × Json)}

/-- The document of a body is what its bytes are decoded to. -/
theorem decode_of_document {json : Json} (h : response.document? = some json) :
    Body.decode response.body = .ok json := by
  rw [document?] at h
  cases hbody : Body.decode response.body <;> rw [hbody] at h <;> cases h
  rfl

/-- A body without a document is malformed. -/
theorem decode_of_no_document (h : response.document? = none) :
    Body.decode response.body = .error .malformed := by
  rw [document?] at h
  cases hbody : Body.decode response.body with
  | error cause => rw [Body.decode_eq_error hbody]
  | ok json =>
    rw [hbody] at h
    cases h

/-- The fault of a response is the one that its body describes. -/
theorem fault_eq (response : Response) :
    response.fault = .describedBy response.status response.document? := by
  by_cases hempty : response.body.isEmpty = true
  · have hbody : response.body = ByteArray.empty := by
      simpa [ByteArray.isEmpty] using hempty
    rw [fault, if_pos hempty, document?, hbody, Body.decode_empty]
    rfl
  · rw [fault, if_neg hempty]
    cases hdocument : response.document? with
    | none =>
      rw [Body.readFields, decode_of_no_document hdocument]
      rfl
    | some json =>
      have hbody := decode_of_document hdocument
      by_cases hrecord : ∃ members, json = .record members
      · obtain ⟨members, rfl⟩ := hrecord
        rw [Body.readFields_of_record hbody]
        exact Fault.withFields_fieldsOfJson response.status members
      · rw [not_exists] at hrecord
        rw [Body.readFields_of_no_record hbody hrecord, Fault.describedBy_of_no_record _ hrecord]

section Envelope

variable (status : UInt16)

/-- A member for the fault describes the fault of an envelope. -/
theorem envelopeFault?_of_fault {member : Json} (hfault : Fields.find? members "fault" = some member) :
    envelopeFault? status (Value.fieldsOfJson members) = some (.describedBy status (some member)) := by
  rw [envelopeFault?, Value.find?_fieldsOfJson, hfault, Option.map_some]
  cases member with
  | record members => exact congrArg some (Fault.withFields_fieldsOfJson status members)
  | number number =>
    obtain ⟨value, hvalue⟩ | ⟨value, hvalue⟩ := Value.ofNumber_cases number
    all_goals
      rw [Value.ofJson, hvalue]
      rfl
  | _ => rfl

/-- An envelope without a member for the fault fails with the word for failure. -/
theorem envelopeFault?_of_failed (hfault : Fields.find? members "fault" = none)
    (hword : Fields.find? members "status" = some (.text "failed")) :
    envelopeFault? status (Value.fieldsOfJson members) = some ⟨status, some "Action failed", none⟩ := by
  simp only [envelopeFault?, Value.find?_fieldsOfJson, hfault, hword, Option.map_none, Option.map_some]
  rfl

/-- An envelope with neither has no fault. -/
theorem envelopeFault?_of_sound (hfault : Fields.find? members "fault" = none)
    (hword : Fields.find? members "status" ≠ some (.text "failed")) :
    envelopeFault? status (Value.fieldsOfJson members) = none := by
  have htext : (Json.record members).memberText? "status" ≠ some "failed" := by
    intro htext
    obtain ⟨json, hjson, hvalue⟩ := Option.bind_eq_some_iff.mp htext
    cases json <;> cases hvalue
    exact hword hjson
  simp only [envelopeFault?, Value.find?_fieldsOfJson, hfault, Option.map_none]
  rw [← Value.find?_fieldsOfJson, Value.text_fieldsOfJson, if_neg htext]

end Envelope

/-! ## Verdicts -/

/-- What becomes of the response to an action. -/
inductive Verdict (response : Response) : Except ClientError Value → Prop
  /-- The status is none of success. -/
  | rejected (hstatus : response.status ≠ 200) :
      Verdict response (.error (.fault (.describedBy response.status response.document?)))
  /-- The body is no document. -/
  | malformed (hstatus : response.status = 200) (hbody : response.document? = none) :
      Verdict response (.error (.codec .malformed))
  /-- The document is no object. -/
  | misshapen {json : Json} (hstatus : response.status = 200) (hbody : response.document? = some json)
      (hrecord : ∀ members, response.document? ≠ some (.record members)) :
      Verdict response
        (.error (.codec (.unexpectedShape "Action" "an object" (Value.ofJson json).kindName)))
  /-- The object has a member for the fault. -/
  | faulty {members : List (String × Json)} {member : Json} (hstatus : response.status = 200)
      (hbody : response.document? = some (.record members))
      (hfault : Fields.find? members "fault" = some member) :
      Verdict response (.error (.fault (.describedBy response.status (some member))))
  /-- The object has the word for failure. -/
  | failed {members : List (String × Json)} (hstatus : response.status = 200)
      (hbody : response.document? = some (.record members))
      (hfault : Fields.find? members "fault" = none)
      (hword : Fields.find? members "status" = some (.text "failed")) :
      Verdict response (.error (.fault ⟨response.status, some "Action failed", none⟩))
  | returned {members : List (String × Json)} (hstatus : response.status = 200)
      (hbody : response.document? = some (.record members))
      (hfault : Fields.find? members "fault" = none)
      (hword : Fields.find? members "status" ≠ some (.text "failed")) :
      Verdict response (.ok (.struct "Action" (members.map fun member => (member.1, Value.ofJson member.2))))

variable {result : Except ClientError Value}

/-- There is a verdict on every response. -/
theorem exists_verdict (response : Response) : ∃ result, Verdict response result := by
  by_cases hstatus : response.status = 200
  · by_cases hrecord : ∃ members, response.document? = some (.record members)
    · obtain ⟨members, hbody⟩ := hrecord
      cases hfault : Fields.find? members "fault" with
      | some member => exact ⟨_, .faulty hstatus hbody hfault⟩
      | none =>
        by_cases hword : Fields.find? members "status" = some (.text "failed")
        · exact ⟨_, .failed hstatus hbody hfault hword⟩
        · exact ⟨_, .returned hstatus hbody hfault hword⟩
    · rw [not_exists] at hrecord
      cases hbody : response.document? with
      | none => exact ⟨_, .malformed hstatus hbody⟩
      | some json => exact ⟨_, .misshapen hstatus hbody hrecord⟩
  · exact ⟨_, .rejected hstatus⟩

/-- A body that holds an object is judged by its members. -/
theorem actionEnvelope_of_record (hstatus : response.status = 200)
    (hbody : response.document? = some (.record members)) :
    response.actionEnvelope = match envelopeFault? response.status (Value.fieldsOfJson members) with
      | some fault => .error (.fault fault)
      | none => .ok (.struct actionType (Value.fieldsOfJson members)) := by
  rw [actionEnvelope, envelope, if_neg (not_not.mpr hstatus),
    Body.readFields_of_record (decode_of_document hbody)]
  simp only
  cases envelopeFault? response.status (Value.fieldsOfJson members) <;> rfl

/-- The verdict on a response is what its envelope is. -/
theorem Verdict.actionEnvelope_eq (h : Verdict response result) : response.actionEnvelope = result := by
  cases h with
  | rejected hstatus =>
    rw [actionEnvelope, envelope, if_pos hstatus, fault_eq]
    rfl
  | malformed hstatus hbody =>
    rw [actionEnvelope, envelope, if_neg (not_not.mpr hstatus), Body.readFields,
      decode_of_no_document hbody]
    rfl
  | misshapen hstatus hbody hrecord =>
    have hjson members := fun h => hrecord members (hbody.trans (congrArg some h))
    rw [actionEnvelope, envelope, if_neg (not_not.mpr hstatus),
      Body.readFields_of_no_record (decode_of_document hbody) hjson]
    rfl
  | faulty hstatus hbody hfault =>
    rw [actionEnvelope_of_record hstatus hbody, envelopeFault?_of_fault _ hfault]
  | failed hstatus hbody hfault hword =>
    rw [actionEnvelope_of_record hstatus hbody, envelopeFault?_of_failed _ hfault hword]
  | returned hstatus hbody hfault hword =>
    rw [actionEnvelope_of_record hstatus hbody, envelopeFault?_of_sound _ hfault hword,
      Value.fieldsOfJson_eq_map]
    rfl

/-- The envelope of a response is what the verdict on it is. -/
theorem actionEnvelope_eq_iff : response.actionEnvelope = result ↔ Verdict response result := by
  constructor
  · rintro rfl
    obtain ⟨verdict, hverdict⟩ := response.exists_verdict
    rwa [hverdict.actionEnvelope_eq]
  · exact Verdict.actionEnvelope_eq

end Response

/-- The response to an action has an envelope, cannot be read or is a fault, as its status and body decide; a
fault is made of every response, whatever its bytes. -/
theorem action_classified (response : Response) :
    (∀ value, response.actionEnvelope = .ok value ↔
      response.status = 200 ∧ ∃ members, response.document? = some (.record members) ∧
        Fields.find? members "fault" = none ∧ Fields.find? members "status" ≠ some (.text "failed") ∧
        value = .struct "Action" (members.map fun member => (member.1, Value.ofJson member.2))) ∧
    ((∃ cause, response.actionEnvelope = .error (.codec cause)) ↔
      response.status = 200 ∧ ∀ members, response.document? ≠ some (.record members)) ∧
    (∀ fault, response.actionEnvelope = .error (.fault fault) ↔
      (response.status ≠ 200 ∧ fault = .describedBy response.status response.document?) ∨
      response.status = 200 ∧ ∃ members, response.document? = some (.record members) ∧
        ((∃ member, Fields.find? members "fault" = some member ∧
            fault = .describedBy response.status (some member)) ∨
          Fields.find? members "fault" = none ∧ Fields.find? members "status" = some (.text "failed") ∧
            fault = ⟨response.status, some "Action failed", none⟩)) ∧
    ((∃ value, response.actionEnvelope = .ok value) ∨
      (∃ cause, response.actionEnvelope = .error (.codec cause)) ∨
      ∃ fault, response.actionEnvelope = .error (.fault fault)) ∧
    response.fault = .describedBy response.status response.document? := by
  refine ⟨fun value => ?returned, ?unreadable, fun fault => ?reported, ?complete, response.fault_eq⟩
  case returned =>
    rw [Response.actionEnvelope_eq_iff]
    constructor
    · intro h
      cases h with
      | returned hstatus hbody hfault hword => exact ⟨hstatus, _, hbody, hfault, hword, rfl⟩
    · rintro ⟨hstatus, members, hbody, hfault, hword, rfl⟩
      exact .returned hstatus hbody hfault hword
  case unreadable =>
    simp only [Response.actionEnvelope_eq_iff]
    constructor
    · rintro ⟨cause, h⟩
      cases h with
      | malformed hstatus hbody => exact ⟨hstatus, by simp [hbody]⟩
      | misshapen hstatus hbody hrecord => exact ⟨hstatus, hrecord⟩
    · rintro ⟨hstatus, hrecord⟩
      cases hbody : response.document? with
      | none => exact ⟨_, .malformed hstatus hbody⟩
      | some json => exact ⟨_, .misshapen hstatus hbody hrecord⟩
  case reported =>
    rw [Response.actionEnvelope_eq_iff]
    constructor
    · intro h
      cases h with
      | rejected hstatus => exact .inl ⟨hstatus, rfl⟩
      | faulty hstatus hbody hfault => exact .inr ⟨hstatus, _, hbody, .inl ⟨_, hfault, rfl⟩⟩
      | failed hstatus hbody hfault hword => exact .inr ⟨hstatus, _, hbody, .inr ⟨hfault, hword, rfl⟩⟩
    · rintro (⟨hstatus, rfl⟩ | ⟨hstatus, members, hbody, ⟨member, hfault, rfl⟩ | ⟨hfault, hword, rfl⟩⟩)
      · exact .rejected hstatus
      · exact .faulty hstatus hbody hfault
      · exact .failed hstatus hbody hfault hword
  case complete =>
    obtain ⟨result, hresult⟩ := response.exists_verdict
    rw [hresult.actionEnvelope_eq]
    cases hresult with
    | returned => exact .inl ⟨_, rfl⟩
    | malformed | misshapen => exact .inr (.inl ⟨_, rfl⟩)
    | rejected | faulty | failed => exact .inr (.inr ⟨_, rfl⟩)

end ServiceTree
