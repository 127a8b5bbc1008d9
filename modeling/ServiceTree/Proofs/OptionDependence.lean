import ServiceTree.Proofs.BodyRoundTrip
import ServiceTree.Proofs.SentRequests

/-!
# What operations depend on

An operation depends on the options under its option keys, and on the headers and the query entries that are
given with them. Options under other keys have no influence on it: not on the requests that are sent, not on
the result, and not on the transport. The keys cannot be fewer, either, for a change of the option under any
of them may show.
-/

namespace ServiceTree

/-- Whether two options give the same under some keys, and the same headers and query entries. -/
structure Options.AgreeOn (options : Options) (keys : List String) (other : Options) : Prop where
  values : ∀ key ∈ keys, options.get? key = other.get? key
  headers : options.headers = other.headers
  query : options.query = other.query

variable {options other : Options} {keys : List String}

/-- Options that agree under some keys agree under fewer. -/
theorem Options.AgreeOn.mono {fewer : List String} (h : options.AgreeOn keys other) (hkeys : fewer ⊆ keys) :
    options.AgreeOn fewer other :=
  ⟨fun key hkey => h.values key (hkeys hkey), h.headers, h.query⟩

/-! ## Options that are not looked up -/

/-- A query depends on the options of its parameters. -/
theorem buildQuery_congr {parameters : List QueryParameter}
    (h : ∀ parameter ∈ parameters, options.get? parameter.option = other.get? parameter.option) :
    buildQuery parameters options = buildQuery parameters other := by
  have hfold (start : Fields String) : parameters.foldlM (QueryParameter.addTo options) start =
      parameters.foldlM (QueryParameter.addTo other) start := by
    induction parameters generalizing start with
    | nil => rfl
    | cons parameter rest ih =>
      obtain ⟨hfirst, hrest⟩ := List.forall_mem_cons.mp h
      have hstep : parameter.addTo options start = parameter.addTo other start := by
        rw [QueryParameter.addTo, QueryParameter.addTo, hfirst]
      rw [List.foldlM_cons, List.foldlM_cons, hstep]
      exact congrArg _ (funext fun reached => ih hrest reached)
  exact hfold []

/-- An envelope depends on the options of its fields. -/
theorem buildEnvelope_congr {fields : List EnvelopeField}
    (h : ∀ field ∈ fields, options.get? field.option = other.get? field.option) :
    buildEnvelope fields options = buildEnvelope fields other := by
  refine List.foldl_ext _ _ _ fun envelope field hfield => ?_
  rw [EnvelopeField.addTo, EnvelopeField.addTo, h field hfield]

/-- A request takes the headers and the query entries from the options. -/
theorem Request.withOptions_congr (request : Request) (hheaders : options.headers = other.headers)
    (hquery : options.query = other.query) : request.withOptions options = request.withOptions other := by
  rw [withOptions, withOptions, hheaders, hquery]

namespace OperationPlan

variable {operation : OperationPlan} {path : String} {argument : Option Value}

/-- An action looks up the options of its envelope. -/
theorem optionKeys_of_action (haction : operation.strategy = .action) :
    operation.optionKeys = operation.envelope.map EnvelopeField.option := by
  rw [optionKeys, haction]

/-- An operation on a resource looks up the options of its query. -/
theorem optionKeys_of_resource (hresource : operation.strategy ≠ .action) :
    operation.optionKeys = operation.query.map QueryParameter.option := by
  rw [optionKeys.eq_def]
  split
  · exact absurd ‹_› hresource
  · rfl

/-- The exchange of an operation depends on the options under its keys. -/
theorem call_congr (h : options.AgreeOn operation.optionKeys other) :
    operation.call path argument options = operation.call path argument other := by
  rw [call.eq_def, call.eq_def]
  split
  case h_1 haction =>
    rw [optionKeys_of_action haction] at h
    have henvelope : buildEnvelope operation.envelope options = buildEnvelope operation.envelope other :=
      buildEnvelope_congr fun field hfield => h.values _ (List.mem_map_of_mem hfield)
    simp only [actionRequest, henvelope, fun request => Request.withOptions_congr request h.headers h.query]
  case h_2 hresource =>
    rw [optionKeys_of_resource hresource] at h
    have hquery : buildQuery operation.query options = buildQuery operation.query other :=
      buildQuery_congr fun parameter hparameter => h.values _ (List.mem_map_of_mem hparameter)
    simp only [resourceRequest, hquery, fun request => Request.withOptions_congr request h.headers h.query]

end OperationPlan

/-! ## Options that show -/

/-- Options that give nothing but one value. -/
def Options.only (key : String) (value : Value) : Options := ⟨[(key, value)], [], []⟩

/-- One option is not given under other keys. -/
theorem Options.only_agreeOn {key : String} (hmissing : key ∉ keys) (value : Value) :
    (Options.only key value).AgreeOn keys .empty := by
  refine ⟨fun own hown => ?_, rfl, rfl⟩
  have hne : own ≠ key := fun hsame => hmissing (hsame ▸ hown)
  rw [get?, only, Fields.find?, if_neg hne]
  rfl

/-- The one option is given. -/
theorem Options.get?_only (key : String) (value : Value) : (Options.only key value).get? key = some value :=
  if_pos rfl

/-- What the one option is given as is its value. -/
theorem Options.eq_of_get?_only {key own : String} {value given : Value}
    (h : (Options.only key value).get? own = some given) : given = value := by
  rw [get?, only, Fields.find?] at h
  split at h
  · exact (Option.some.inj h).symm
  · cases h

/-- One option is on the calendar if its value is. -/
theorem Options.only_onCalendar (key : String) {value : Value} (hvalue : value.isOnCalendar = true) :
    (Options.only key value).OnCalendar := by
  intro own given hgiven
  rwa [Options.eq_of_get?_only hgiven]

namespace OperationPlan

variable {operation : OperationPlan} {key : String}

/-- Loose items under an option of a query keep an operation on a resource from being sent. -/
theorem call_only_items (hresource : operation.strategy ≠ .action) (hkey : key ∈ operation.optionKeys)
    (path : String) (argument : Option Value) : ∃ name problem,
      operation.call path argument (.only key (.sequence [])) = .error (.invalidOption name problem) := by
  rw [optionKeys_of_resource hresource] at hkey
  obtain ⟨parameter, hparameter, rfl⟩ := List.mem_map.mp hkey
  cases hquery : buildQuery operation.query (.only parameter.option (.sequence [])) with
  | ok query =>
    obtain ⟨text, htext⟩ := (buildQuery_eq_ok hquery).2 parameter hparameter _ (Options.get?_only _ _) rfl
    cases htext
  | error error =>
    have hdates : Options.OnCalendar (.only parameter.option (.sequence [])) := Options.only_onCalendar _ rfl
    obtain ⟨named, -, problem, rfl⟩ := (buildQuery_eq_error hquery).resolve_right fun h => h.2 hdates
    refine ⟨named.option, problem, ?_⟩
    rw [call.eq_def]
    split
    case h_1 haction => exact absurd haction hresource
    case h_2 =>
      rw [resourceRequest, Outcome.map_eq_error, Outcome.bind_eq_error]
      exact .inl hquery

/-- Without options an operation on a resource is not kept from being sent for an option. -/
theorem call_empty_ne (hresource : operation.strategy ≠ .action) (path : String) (argument : Option Value)
    (name problem : String) :
    operation.call path argument .empty ≠ .error (.invalidOption name problem) := by
  have hrendered : Options.Rendered .empty operation.query := fun _ _ _ hgiven => by cases hgiven
  obtain ⟨query, hquery⟩ := buildQuery_isOk hrendered
  intro hcall
  rw [call.eq_def] at hcall
  split at hcall
  case h_1 haction => exact hresource haction
  case h_2 =>
    rcases Outcome.bind_eq_error.mp (Outcome.map_eq_error.mp hcall) with hfails | ⟨_, -, hcall⟩
    · cases hquery.symm.trans hfails
    · rcases Outcome.bind_eq_error.mp hcall with hbody | ⟨body, -, hcall⟩
      · rcases primaryBody_eq_error hbody with ⟨-, primary, -, herror⟩ | ⟨_, _, _, -, -, -, herror⟩
        · cases herror
        · cases herror
      · cases hcall

/-- An action whose options the calendar covers is sent with its envelope as the body. -/
theorem call_of_action (haction : operation.strategy = .action) (hoptions : options.OnCalendar)
    (path : String) (argument : Option Value) : ∃ request,
      operation.call path argument options = .ok ⟨request, operation.actionResult⟩ ∧
      request.body =
        some (Body.encode (Value.struct actionType (buildEnvelope operation.envelope options)).toJson) := by
  have hdates : (Value.struct actionType (buildEnvelope operation.envelope options)).isOnCalendar = true :=
    buildEnvelope_onCalendar hoptions operation.envelope
  rw [call.eq_def, haction]
  simp only [actionRequest, Body.writeOne, hdates, if_true]
  exact ⟨_, rfl, rfl⟩

/-- An option under a key of an action is in the envelope. -/
theorem envelope_only_ne_nil {fields : List EnvelopeField} {field : EnvelopeField} (hfield : field ∈ fields)
    (value : Value) : buildEnvelope fields (.only field.option value) ≠ [] := by
  intro hempty
  have hfound := (buildEnvelope_holds fields (.only field.option value)).found field.tag
  rw [hempty, lastUnder?, eq_comm, Fields.find?, List.findSome?_eq_none_iff] at hfound
  have hnone := hfound field (List.mem_reverse.mpr hfield)
  rw [if_pos rfl, EnvelopeField.value?, Options.get?_only] at hnone
  cases hnone

/-- Null is null in an envelope. -/
theorem envelope_only_null (fields : List EnvelopeField) (key : String) :
    ∀ entry ∈ buildEnvelope fields (.only key .null), entry.2 = .null := by
  rw [buildEnvelope]
  refine List.foldlRecOn (motive := fun envelope : Fields Value => ∀ entry ∈ envelope, entry.2 = .null)
    fields _ (List.forall_mem_nil _) fun envelope hnulls field _ entry hentry => ?_
  rw [EnvelopeField.addTo] at hentry
  split at hentry
  case h_1 value hvalue =>
    rcases Fields.mem_insert hentry with rfl | hentry
    · rw [Options.eq_of_get?_only hvalue, EnvelopeField.coerce]
      split
      case h_1 shape _ => cases shape <;> rfl
      case h_2 => rfl
    · exact hnulls entry hentry
  case h_2 => exact hnulls entry hentry

/-- An envelope of nulls is read back from its bytes. -/
theorem decode_nulls {envelope : Fields Value} (hordered : envelope.Ordered)
    (hnulls : ∀ entry ∈ envelope, entry.2 = .null) (name : String) :
    Body.decode (Body.encode (Value.struct name envelope).toJson) =
      .ok (Value.struct name envelope).toJson := by
  have hdecimals : (Value.struct name envelope).HasNoDecimals := by
    refine (Value.forall_parts_of_fields rfl).mpr ⟨nofun, fun entry hentry part hpart => ?_⟩
    rw [hnulls entry hentry] at hpart
    rw [List.mem_singleton.mp hpart]
    nofun
  have hinside : (Value.struct name envelope).HasOrderedFields := by
    refine (Value.forall_parts_of_fields rfl).mpr
      ⟨fun fields hfields => ?_, fun entry hentry part hpart => ?_⟩
    · cases hfields
      exact hordered
    · rw [hnulls entry hentry] at hpart
      rw [List.mem_singleton.mp hpart]
      nofun
  have hflat : Json.membersNesting (Value.fieldsToJson envelope) = 0 := by
    clear hordered hdecimals hinside
    induction envelope with
    | nil => rfl
    | cons entry rest ih =>
      obtain ⟨hfirst, hrest⟩ := List.forall_mem_cons.mp hnulls
      obtain ⟨tag, value⟩ := entry
      obtain rfl : value = .null := hfirst
      rw [Value.fieldsToJson, Json.membersNesting, ih hrest]
      rfl
  refine Body.decode_encode (Value.whole_toJson hdecimals) (Value.sorted_toJson hinside) ?_
  rw [Value.toJson, Json.nesting, hflat]
  decide

/-- Null under an option of an action shows in the request. -/
theorem envelope_eq_nil_of_run (haction : operation.strategy = .action)
    (hrun : (operation.call "" none (.only key .null)).run Recording.transport.observed .standard
        (.empty, []) =
      (operation.call "" none .empty).run Recording.transport.observed .standard (.empty, [])) :
    buildEnvelope operation.envelope (.only key .null) = [] := by
  have hdates : Options.OnCalendar .empty := fun _ _ hgiven => by cases hgiven
  obtain ⟨request, hrequest, hbody⟩ :=
    call_of_action haction (Options.only_onCalendar key (rfl : Value.null.isOnCalendar = true)) "" none
  obtain ⟨bare, hbare, hbareBody⟩ := call_of_action haction hdates "" none
  have hempty : buildEnvelope operation.envelope .empty = [] :=
    List.foldl_fixed' (fun _ => rfl) operation.envelope
  have hsent := congrArg (fun result => result.2.2) hrun
  simp only [Call.requests_of_run, hrequest, hbare, Except.toOption, Option.map_some, Option.toList_some,
    List.cons.injEq, and_true] at hsent
  obtain ⟨headers, hheaders⟩ := Connection.standard.outgoing_eq request
  obtain ⟨bareHeaders, hbareHeaders⟩ := Connection.standard.outgoing_eq bare
  rw [hheaders, hbareHeaders, Request.mk.injEq, hbody, hbareBody, hempty, Option.some.injEq] at hsent
  have hbytes := congrArg Body.decode hsent.2.2.2.2
  rw [decode_nulls (buildEnvelope_holds _ _).ordered (envelope_only_null _ _),
    decode_nulls List.Pairwise.nil (List.forall_mem_nil _)] at hbytes
  simpa [Value.toJson, Value.fieldsToJson_eq_map] using hbytes

/-- Whether the options under some keys, with the headers and the query entries that are given, settle what
an operation comes to: its result, the requests that it sends and the state in which it leaves a transport. -/
def SettledBy (operation : OperationPlan) (keys : List String) : Prop :=
  ∀ options other : Options, options.AgreeOn keys other → ∀ (path : String) (argument : Option Value)
    (S : Type) (transport : Transport S) (connection : Connection) (state : S),
    (operation.call path argument options).run transport.observed connection (state, []) =
      (operation.call path argument other).run transport.observed connection (state, [])

/-- An operation is settled by its option keys and by no fewer. -/
theorem settledBy_iff : operation.SettledBy keys ↔ operation.optionKeys ⊆ keys := by
  constructor
  · intro hsettled key hkey
    by_contra hmissing
    have hrun (value : Value) := hsettled _ _ (Options.only_agreeOn hmissing value) "" none Recording
      Recording.transport .standard .empty
    by_cases haction : operation.strategy = .action
    · rw [optionKeys_of_action haction] at hkey
      obtain ⟨field, hfield, rfl⟩ := List.mem_map.mp hkey
      exact envelope_only_ne_nil hfield .null (envelope_eq_nil_of_run haction (hrun .null))
    · obtain ⟨name, problem, hcall⟩ := call_only_items haction hkey "" none
      have hresult := congrArg Prod.fst (hrun (.sequence []))
      rw [hcall] at hresult
      cases hempty : operation.call "" none .empty with
      | error error =>
        rw [hempty] at hresult
        cases hresult
        exact call_empty_ne haction _ _ _ _ hempty
      | ok exchange =>
        rw [hempty] at hresult
        cases hresult
  · intro hkeys options other hagree path argument S transport connection state
    rw [call_congr (hagree.mono hkeys)]

end OperationPlan

/-- Options that agree under the keys of an operation, in their headers and in their query entries lead to the
same requests, states and results. -/
theorem invoke_of_agreeOn {position : Position} {spelling : String} {operation : OperationPlan}
    (hfound : position.service.operation? (.parse spelling) = some operation)
    (hagree : options.AgreeOn operation.optionKeys other) (argument : Option Value) {S : Type}
    (transport : Transport S) (connection : Connection) (state : S) :
    (position.invoke spelling argument options).run transport.observed connection (state, []) =
      (position.invoke spelling argument other).run transport.observed connection (state, []) := by
  have hsettled := OperationPlan.settledBy_iff.mpr (List.Subset.refl operation.optionKeys)
  rw [Position.invoke, Position.invoke, hfound]
  exact hsettled options other hagree position.path argument S transport connection state

/-- A service that lists no more than some number of items. -/
def boundedService : ServicePlan where
  name := ⟨["boxes"]⟩
  typeName := "BoxesService"
  base := none
  doc := none
  operations := [boundedMethod.plan]
  locators := []
  router := ⟨[], none⟩

/-- The boxes of a client that has nothing else. -/
def boxesPosition : Position := ⟨⟨"Boxes", 0, [boundedService]⟩, boundedService, "boxes"⟩

/-- Listing boxes is not kept from being sent by an order that has no literal, for it looks up no order. -/
theorem boxesPosition_ignores :
    (boxesPosition.invoke "list" none ⟨[("max", .string "007"), ("order", .mapping [])], [], []⟩).run
        Recording.transport.observed .standard (.empty, []) =
      (boxesPosition.invoke "list" none ⟨[("max", .string "007")], [], []⟩).run
        Recording.transport.observed .standard (.empty, []) := by
  have hspelling : Name.parse "list" = ⟨["list"]⟩ := by decide +kernel
  have hfound : boxesPosition.service.operation? (.parse "list") = some boundedMethod.plan := by
    rw [hspelling]
    rfl
  have hkeys : boundedMethod.plan.optionKeys = ["max"] := by
    rw [OperationPlan.optionKeys_of_resource (by decide), boundedMethod_query]
    rfl
  have hagree : Options.AgreeOn ⟨[("max", .string "007"), ("order", .mapping [])], [], []⟩
      boundedMethod.plan.optionKeys ⟨[("max", .string "007")], [], []⟩ := by
    rw [hkeys]
    refine ⟨fun key hkey => ?_, rfl, rfl⟩
    rw [List.mem_singleton.mp hkey]
    rfl
  exact invoke_of_agreeOn hfound hagree none Recording.transport .standard .empty

end ServiceTree
