import ServiceTree.Proofs.CallErrors
import ServiceTree.Proofs.HeldEntries
import ServiceTree.Proofs.WireAgreement

/-!
# The request that is sent

A method, the path of its service, the argument, the options and the connection leave no choice about
the request. Its query and its headers hold the entries that the caller gives, the query also those of
the parameters that are sent there, and the headers also the type of a body that the caller did not
announce. Its body is the argument, or an envelope that holds the options of the parameters.
-/

namespace ServiceTree

/-- Headers and query entries are maps with keys in order. -/
structure Options.Ordered (options : Options) : Prop where
  headers : options.headers.Ordered
  query : options.query.Ordered

/-- The literal that a query parameter is sent as: that of its option under the declared kind, or else
under the value's own, and none where the option is absent or null. -/
def QueryParameter.literal? (options : Options) (parameter : QueryParameter) : Option String :=
  (options.get? parameter.option).bind fun value =>
    if value.isNull then none
    else value.primitiveKind?.bind fun own => Query.literal? (parameter.kind.getD own) value

/-- Whether every option that is given for one of the parameters of a query, and is not null, can be
rendered. -/
def Options.Rendered (options : Options) (parameters : List QueryParameter) : Prop :=
  ∀ parameter ∈ parameters, ∀ value, options.get? parameter.option = some value →
    value.isNull = false → ∃ text, Query.render parameter.option parameter.kind value = .ok (some text)

/-- The value that a field of an envelope is sent with: its option in the declared type. -/
def EnvelopeField.value? (options : Options) (field : EnvelopeField) : Option Value :=
  (options.get? field.option).map field.coerce

/-- Whether a request has a body that the caller does not announce, in whatever capitals. -/
def Request.Unannounced (request : Request) (headers : Fields String) : Prop :=
  request.body.isSome ∧ ∀ header ∈ headers, asciiLower header.1 ≠ asciiLower contentTypeHeader

/-- Headers are compared one by one. -/
instance (request : Request) (headers : Fields String) : Decidable (request.Unannounced headers) :=
  inferInstanceAs (Decidable (_ ∧ _))

/-! ## What a method sends -/

/-- The body that a method sends. -/
inductive Method.SendsBody (method : Method) (argument : Option Value) (options : Options) :
    Option ByteArray → Prop
  /-- An operation on a resource without a primary parameter has no body. -/
  | absent (haction : method.strategy ≠ .action) (hprimary : method.plan.primary = none) :
      SendsBody method argument options none
  /-- The primary parameter is the argument, in the declared type. -/
  | primary {primary : BodyParameter} {value : Value} {bytes : ByteArray}
      (hprimary : method.plan.primary = some primary) (hargument : argument = some value)
      (hbytes : primary.shape.write (primary.shape.coerce value) = .ok bytes) :
      SendsBody method argument options (some bytes)
  /-- An envelope holds the options of the parameters and nothing else. -/
  | envelope {envelope : Fields Value} {bytes : ByteArray} (haction : method.strategy = .action)
      (henvelope : envelope.Holds
        (lastUnder? EnvelopeField.tag (EnvelopeField.value? options) method.plan.envelope))
      (hbytes : Body.writeOne actionType (.struct actionType envelope) = .ok bytes) :
      SendsBody method argument options (some bytes)

/-- The request that a method sends from a service at a path. -/
structure Method.Sends (method : Method) (path : String) (argument : Option Value) (options : Options)
    (connection : Connection) (sent : Request) : Prop where
  verb : sent.verb = method.strategy.verb
  path : sent.path = if method.strategy = .action then joinPath path method.name.segment else path
  body : method.SendsBody argument options sent.body
  rendered : options.Rendered method.plan.query
  /-- The caller's own entry of a key goes before that of a parameter. -/
  query : sent.query.Holds fun key => (options.query.find? key).or
    (lastUnder? QueryParameter.tag (QueryParameter.literal? options) method.plan.query key)
  /-- A body is announced unless the caller did so. -/
  headers : sent.headers.Holds fun name =>
    if name = contentTypeHeader ∧ sent.Unannounced options.headers then some connection.contentType
    else options.headers.find? name

section Determined

variable {method : Method} {path : String} {argument : Option Value} {options : Options}
  {connection : Connection}

/-- A method sends one body. -/
theorem Method.SendsBody.unique {body other : Option ByteArray}
    (h : method.SendsBody argument options body) (hother : method.SendsBody argument options other) :
    body = other := by
  have haction (hstrategy : method.strategy = .action) : method.plan.primary = none :=
    (Method.plan_of_action hstrategy).2
  cases h with
  | absent hresource hprimary =>
    cases hother with
    | absent => rfl
    | primary hother => cases hprimary.symm.trans hother
    | envelope hstrategy => exact absurd hstrategy hresource
  | primary hprimary hargument hbytes =>
    cases hother with
    | absent _ hother => cases hprimary.symm.trans hother
    | primary hother hsame hwritten =>
      cases hprimary.symm.trans hother
      cases hargument.symm.trans hsame
      cases hbytes.symm.trans hwritten
      rfl
    | envelope hstrategy => cases hprimary.symm.trans (haction hstrategy)
  | envelope hstrategy henvelope hbytes =>
    cases hother with
    | absent hresource _ => exact absurd hstrategy hresource
    | primary hprimary => cases hprimary.symm.trans (haction hstrategy)
    | envelope _ hsame hwritten =>
      cases henvelope.unique hsame
      cases hbytes.symm.trans hwritten
      rfl

/-- A method sends one request. -/
theorem Method.Sends.unique {sent other : Request} (h : method.Sends path argument options connection sent)
    (hother : method.Sends path argument options connection other) : sent = other := by
  have hbody : sent.body = other.body := h.body.unique hother.body
  have hquery : sent.query = other.query := h.query.unique hother.query
  have hheaders : sent.headers = other.headers := by
    have hannounced : sent.Unannounced options.headers ↔ other.Unannounced options.headers := by
      rw [Request.Unannounced, hbody, Request.Unannounced]
    refine h.headers.unique ⟨hother.headers.ordered, fun name => ?_⟩
    simp only [hother.headers.found, hannounced]
  have hverb : sent.verb = other.verb := h.verb.trans hother.verb.symm
  have hpath : sent.path = other.path := h.path.trans hother.path.symm
  cases sent
  cases other
  rw [Request.mk.injEq]
  exact ⟨hverb, hpath, hheaders, hquery, hbody⟩

end Determined

/-! ## Building it -/

/-- A value that is rendered has the literal of its kind, and is null if it has none. -/
theorem QueryParameter.literal?_of_render {options : Options} {parameter : QueryParameter} {value : Value}
    {text? : Option String} (hvalue : options.get? parameter.option = some value)
    (h : Query.render parameter.option parameter.kind value = .ok text?) :
    parameter.literal? options = text? ∧ (value.isNull = false → text?.isSome) := by
  rw [literal?, hvalue, Option.bind_some]
  rw [Query.render] at h
  split at h
  case isTrue hnull =>
    cases h
    exact ⟨if_pos hnull, fun hpresent => absurd hnull (by simp [hpresent])⟩
  case isFalse hpresent =>
    rw [if_neg hpresent]
    split at h
    case h_1 => cases h
    case h_2 own hown =>
      simp only at h
      rw [hown, Option.bind_some]
      split at h
      case h_1 text htext =>
        split at h
        case isTrue =>
          cases h
          exact ⟨htext, fun _ => rfl⟩
        case isFalse => cases h
      case h_2 => cases h

/-- A parameter is added with its literal, and an option that is given for it and not null is rendered. -/
theorem QueryParameter.addTo_eq_ok {options : Options} {parameter : QueryParameter}
    {query extended : Fields String} (h : parameter.addTo options query = .ok extended) :
    extended = ((parameter.literal? options).map fun text => query.insert parameter.tag text).getD query ∧
      ∀ value, options.get? parameter.option = some value → value.isNull = false →
        ∃ text, Query.render parameter.option parameter.kind value = .ok (some text) := by
  rw [addTo] at h
  split at h
  case h_1 habsent =>
    cases h
    have hnone : parameter.literal? options = none := by
      rw [literal?, habsent]
      rfl
    refine ⟨by rw [hnone]; rfl, fun value hvalue => ?_⟩
    cases habsent.symm.trans hvalue
  case h_2 value hvalue =>
    obtain ⟨text?, hrender, h⟩ := Outcome.map_eq_ok.mp h
    obtain ⟨hliteral, hpresent⟩ := literal?_of_render hvalue hrender
    rw [hliteral]
    refine ⟨?_, fun other hother hnull => ?_⟩
    · cases text? <;> exact h.symm
    · cases hvalue.symm.trans hother
      obtain ⟨text, rfl⟩ := Option.isSome_iff_exists.mp (hpresent hnull)
      exact ⟨text, hrender⟩

/-- A query that can be built holds the literals of its parameters, whose options are all rendered. -/
theorem buildQuery_eq_ok {parameters : List QueryParameter} {options : Options} {query : Fields String}
    (h : buildQuery parameters options = .ok query) :
    query.Holds (lastUnder? QueryParameter.tag (QueryParameter.literal? options) parameters) ∧
      options.Rendered parameters := by
  have hstep (reached : Fields String) (parameter : QueryParameter) (next : Fields String) :
      parameter.addTo options reached = .ok next → _ := QueryParameter.addTo_eq_ok
  obtain ⟨hquery, hrendered⟩ := Outcome.foldlM_eq_ok hstep h
  have hholds : query.Holds _ := hquery ▸ Fields.holds_nil.foldl fun _ _ => rfl
  exact ⟨⟨hholds.ordered, fun key => (hholds.found key).trans Option.or_none⟩, hrendered⟩

/-- A query can be built if the options that are given for it can be rendered. -/
theorem buildQuery_isOk {parameters : List QueryParameter} {options : Options}
    (hrendered : options.Rendered parameters) : ∃ query, buildQuery parameters options = .ok query := by
  cases hquery : buildQuery parameters options with
  | ok query => exact ⟨query, rfl⟩
  | error error =>
    obtain ⟨parameter, hparameter, reached, hfails⟩ := Outcome.foldlM_eq_error hquery
    rw [QueryParameter.addTo] at hfails
    split at hfails
    case h_1 => cases hfails
    case h_2 value hvalue =>
      rw [Outcome.map_eq_error] at hfails
      cases hnull : value.isNull with
      | true => cases (if_pos hnull).symm.trans hfails
      | false =>
        obtain ⟨text, hrender⟩ := hrendered parameter hparameter value hvalue hnull
        cases hrender.symm.trans hfails

/-- An envelope holds the options of its fields. -/
theorem buildEnvelope_holds (fields : List EnvelopeField) (options : Options) :
    (buildEnvelope fields options).Holds
      (lastUnder? EnvelopeField.tag (EnvelopeField.value? options) fields) := by
  have hstep : ∀ (envelope : Fields Value) (field : EnvelopeField),
      field.addTo options envelope = ((field.value? options).map fun value =>
        envelope.insert field.tag value).getD envelope := by
    intro envelope field
    rw [EnvelopeField.addTo, EnvelopeField.value?]
    cases options.get? field.option <;> rfl
  have hholds : (buildEnvelope fields options).Holds _ := Fields.holds_nil.foldl hstep
  exact ⟨hholds.ordered, fun tag => (hholds.found tag).trans Option.or_none⟩

/-- Announcing a body changes nothing but the headers. -/
theorem Connection.outgoing_eq (connection : Connection) (request : Request) :
    ∃ headers, connection.outgoing request = { request with headers := headers } := by
  rw [outgoing]
  split
  · exact ⟨_, rfl⟩
  · exact ⟨request.headers, rfl⟩

/-- A body is announced unless the headers do so. -/
theorem Connection.outgoing_headers (connection : Connection) {request : Request}
    (hordered : request.headers.Ordered) :
    (connection.outgoing request).headers.Holds fun name =>
      if name = contentTypeHeader ∧ request.Unannounced request.headers then some connection.contentType
      else request.headers.find? name := by
  have hunannounced : (request.body.isSome && !announcesBody request) = true ↔
      request.Unannounced request.headers := by
    simp [announcesBody, Request.Unannounced]
  rw [outgoing]
  split
  case isTrue hcondition =>
    simpa only [hunannounced.mp hcondition, and_true] using
      hordered.holds.insert contentTypeHeader connection.contentType
  case isFalse hcondition =>
    simpa only [mt hunannounced.mpr hcondition, and_false, if_false] using hordered.holds

/-- A body is written for an operation exactly if it is written. -/
theorem liftCodec_eq_ok {A : Type} {outcome : Except CodecError A} {result : A} :
    liftCodec outcome = .ok result ↔ outcome = .ok result := by
  cases outcome <;> simp [liftCodec, Except.mapError]

section Requests

variable {method : Method} {path : String} {argument : Option Value} {options : Options}

/-- The body of an operation on a resource is what its method sends. -/
theorem Method.sendsBody_of_primaryBody (hresource : method.strategy ≠ .action) {body : Option ByteArray}
    (h : method.plan.primaryBody argument = .ok body) : method.SendsBody argument options body := by
  rw [OperationPlan.primaryBody.eq_def] at h
  split at h
  case h_1 hprimary =>
    cases h
    exact .absent hresource hprimary
  case h_2 => cases h
  case h_3 primary value hprimary =>
    obtain ⟨bytes, hbytes, rfl⟩ := Outcome.map_eq_ok.mp h
    exact .primary hprimary rfl (liftCodec_eq_ok.mp hbytes)

/-- A request without headers becomes, with the options and announced, what its method sends, provided
that it has the verb, the path, the body and the query of the method. -/
theorem Method.sends_outgoing (hoptions : options.Ordered) (connection : Connection) {bare : Request}
    (hverb : bare.verb = method.strategy.verb)
    (hpath : bare.path = if method.strategy = .action then joinPath path method.name.segment else path)
    (hheaders : bare.headers = []) (hbody : method.SendsBody argument options bare.body)
    (hquery : bare.query.Holds
      (lastUnder? QueryParameter.tag (QueryParameter.literal? options) method.plan.query))
    (hrendered : options.Rendered method.plan.query) :
    method.Sends path argument options connection (connection.outgoing (bare.withOptions options)) := by
  have hown : (bare.withOptions options).headers = options.headers := by
    change bare.headers.extend options.headers = _
    rw [hheaders]
    exact Fields.ofList_of_ordered hoptions.headers
  have hordered : (bare.withOptions options).headers.Ordered := hown ▸ hoptions.headers
  have hannounced := connection.outgoing_headers hordered
  obtain ⟨headers, hsent⟩ := connection.outgoing_eq (bare.withOptions options)
  rw [hsent] at hannounced ⊢
  rw [hown] at hannounced
  exact ⟨hverb, hpath, hbody, hrendered, hquery.extend hoptions.query, hannounced⟩

/-- The request of an action is what its method sends. -/
theorem Method.sends_of_actionRequest (hoptions : options.Ordered) (connection : Connection)
    (haction : method.strategy = .action) {request : Request}
    (h : method.plan.actionRequest path options = .ok request) :
    method.Sends path argument options connection (connection.outgoing request) := by
  obtain ⟨body, hbody, hrequest⟩ := Outcome.bind_eq_ok.mp h
  cases hrequest
  have hquery : method.plan.query = [] := by
    change method.query = []
    rw [Method.query, haction]
  have hbody : method.SendsBody argument options (some body) :=
    .envelope haction (buildEnvelope_holds _ _) (liftCodec_eq_ok.mp hbody)
  refine Method.sends_outgoing hoptions connection rfl ?_ rfl hbody ?_ ?_
  · change joinPath path ((if method.strategy = .action then some method.name.segment else none).getD "") = _
    rw [if_pos haction, if_pos haction, Option.getD_some]
  · rw [hquery]
    exact Fields.holds_nil
  · rw [hquery]
    exact nofun

/-- The request of an operation on a resource is what its method sends. -/
theorem Method.sends_of_resourceRequest (hoptions : options.Ordered) (connection : Connection)
    (hresource : method.strategy ≠ .action) {request : Request}
    (h : method.plan.resourceRequest path argument options = .ok request) :
    method.Sends path argument options connection (connection.outgoing request) := by
  obtain ⟨query, hquery, h⟩ := Outcome.bind_eq_ok.mp h
  obtain ⟨body, hbody, hrequest⟩ := Outcome.bind_eq_ok.mp h
  cases hrequest
  obtain ⟨hholds, hrendered⟩ := buildQuery_eq_ok hquery
  have hmade : (Fields.ofList query).Holds _ :=
    (Fields.ofList_of_ordered hholds.ordered).symm ▸ hholds
  have hbody : method.SendsBody argument options body := sendsBody_of_primaryBody hresource hbody
  cases body <;>
    exact sends_outgoing hoptions connection rfl (if_neg hresource).symm rfl hbody hmade hrendered

/-- The announced request of an operation is what its method sends. -/
theorem Method.sends_of_call (hoptions : options.Ordered) (connection : Connection)
    {exchange : Exchange Value} (h : method.plan.call path argument options = .ok exchange) :
    method.Sends path argument options connection (connection.outgoing exchange.request) := by
  rw [OperationPlan.call] at h
  split at h
  case h_1 haction =>
    obtain ⟨request, hrequest, rfl⟩ := Outcome.map_eq_ok.mp h
    exact sends_of_actionRequest hoptions connection haction hrequest
  case h_2 hresource =>
    obtain ⟨request, hrequest, rfl⟩ := Outcome.map_eq_ok.mp h
    exact sends_of_resourceRequest hoptions connection hresource hrequest

/-- An action whose body can be written has a request. -/
theorem Method.actionRequest_isOk (haction : method.strategy = .action) {body : Option ByteArray}
    (hbody : method.SendsBody argument options body) :
    ∃ request, method.plan.actionRequest path options = .ok request := by
  cases hbody with
  | absent hresource => exact absurd haction hresource
  | primary hprimary => cases hprimary.symm.trans (plan_of_action haction).2
  | envelope _ henvelope hbytes =>
    rw [henvelope.unique (buildEnvelope_holds _ _)] at hbytes
    exact ⟨_, Outcome.bind_eq_ok.mpr ⟨_, liftCodec_eq_ok.mpr hbytes, rfl⟩⟩

/-- An operation on a resource whose body can be written and whose query can be rendered has a request. -/
theorem Method.resourceRequest_isOk (hresource : method.strategy ≠ .action) {body : Option ByteArray}
    (hbody : method.SendsBody argument options body) (hrendered : options.Rendered method.plan.query) :
    ∃ request, method.plan.resourceRequest path argument options = .ok request := by
  obtain ⟨query, hquery⟩ := buildQuery_isOk hrendered
  have hprimaryBody : ∃ body, method.plan.primaryBody argument = .ok body := by
    cases hbody with
    | absent _ hprimary => exact ⟨none, by simp only [OperationPlan.primaryBody, hprimary]⟩
    | @primary primary value bytes hprimary hargument hbytes =>
      refine ⟨some bytes, ?_⟩
      simp only [OperationPlan.primaryBody, hprimary, hargument]
      exact Outcome.map_eq_ok.mpr ⟨bytes, liftCodec_eq_ok.mpr hbytes, rfl⟩
    | envelope haction => exact absurd haction hresource
  obtain ⟨body, hprimaryBody⟩ := hprimaryBody
  exact ⟨_, Outcome.bind_eq_ok.mpr ⟨query, hquery, Outcome.bind_eq_ok.mpr ⟨body, hprimaryBody, rfl⟩⟩⟩

/-- An operation has an exchange if there is a request that its method sends. -/
theorem Method.call_isOk {connection : Connection} {sent : Request}
    (h : method.Sends path argument options connection sent) :
    ∃ exchange, method.plan.call path argument options = .ok exchange := by
  rw [OperationPlan.call]
  split
  case h_1 haction =>
    obtain ⟨request, hrequest⟩ := actionRequest_isOk haction h.body
    exact ⟨_, Outcome.map_eq_ok.mpr ⟨request, hrequest, rfl⟩⟩
  case h_2 hresource =>
    obtain ⟨request, hrequest⟩ := resourceRequest_isOk hresource h.body h.rendered
    exact ⟨_, Outcome.map_eq_ok.mpr ⟨request, hrequest, rfl⟩⟩

end Requests

/-- Running an operation hands the transport the announced request of its exchange, if it has one. -/
theorem Call.requests_of_run {S A : Type} (call : Call A) (transport : Transport S)
    (connection : Connection) (state : S) :
    (call.run transport.observed connection (state, [])).2.2 =
      (call.toOption.map fun exchange => connection.outgoing exchange.request).toList := by
  cases call with
  | error error => rfl
  | ok exchange =>
    simp only [run, Transport.observed]
    cases (transport.send state (connection.outgoing exchange.request)).1 <;> rfl

/-- An operation hands a transport one request at most, and hands it one exactly if its verb, path, query, body
and headers are those that the method, its argument and its options call for. -/
theorem request_determined (method : Method) (path : String) (argument : Option Value) {options : Options}
    (hoptions : options.Ordered) {S : Type} (transport : Transport S) (connection : Connection)
    (state : S) :
    let requests :=
      ((method.plan.call path argument options).run transport.observed connection (state, [])).2.2
    requests.length ≤ 1 ∧
      ∀ sent, sent ∈ requests ↔ method.Sends path argument options connection sent := by
  intro requests
  have hrequests : requests = _ := Call.requests_of_run _ transport connection state
  rw [hrequests]
  cases hcall : method.plan.call path argument options with
  | error error =>
    refine ⟨Nat.zero_le 1, fun sent => iff_of_false List.not_mem_nil fun hsends => ?_⟩
    obtain ⟨exchange, hother⟩ := Method.call_isOk hsends
    cases hcall.symm.trans hother
  | ok exchange =>
    refine ⟨Nat.le_refl 1, fun sent => List.mem_singleton.trans ⟨?_, fun hsends => ?_⟩⟩
    · rintro rfl
      exact Method.sends_of_call hoptions connection hcall
    · exact hsends.unique (Method.sends_of_call hoptions connection hcall)

/-- A method that lists no more than some number of items. -/
def boundedMethod : Method := ⟨⟨["list"]⟩, [⟨⟨["max"]⟩, .primitive .integer, true, false, none⟩], none⟩

/-- Its one parameter is sent in the query. -/
theorem boundedMethod_query : boundedMethod.plan.query = [⟨"max", "max", some .integer⟩] := by
  have hinput : boundedMethod.parameters.filter Parameter.isIn = boundedMethod.parameters := rfl
  change queryParameters (Method.sortedByName _) = _
  rw [hinput, Method.sortedByName, boundedMethod, List.mergeSort_singleton]
  rfl

/-- Listing boxes with a text for the number and a query entry for the page sends both, the text as the
number that it writes. -/
theorem boundedMethod_request :
    (⟨.get, "boxes", [], [("max", "7"), ("page", "2")], none⟩ : Request) ∈
      ((boundedMethod.plan.call "boxes" none ⟨[("max", .string "007")], [], [("page", "2")]⟩).run
        Recording.transport.observed .standard (.empty, [])).2.2 := by
  generalize hoptions : (⟨[("max", .string "007")], [], [("page", "2")]⟩ : Options) = options
  have hordered : options.Ordered := by
    subst hoptions
    exact ⟨List.Pairwise.nil, List.pairwise_singleton _ _⟩
  have hliteral : QueryParameter.literal? options ⟨"max", "max", some .integer⟩ = some "7" := by
    subst hoptions
    rfl
  refine ((request_determined boundedMethod "boxes" none hordered Recording.transport .standard
    .empty).2 _).mpr ⟨rfl, rfl, .absent (by decide) rfl, ?_, ⟨List.pairwise_pair.mpr (by decide), ?_⟩,
      ⟨List.Pairwise.nil, ?_⟩⟩
  · rw [boundedMethod_query, ← hoptions]
    intro parameter hparameter value hvalue _
    obtain rfl := List.mem_singleton.mp hparameter
    cases hvalue
    exact ⟨"7", rfl⟩
  · intro key
    rw [boundedMethod_query, lastUnder?_cons, hliteral, ← hoptions]
    by_cases hkey : "max" = key
    · subst hkey
      rfl
    · rw [if_neg hkey, Fields.find?, if_neg (Ne.symm hkey)]
      exact Option.or_none.symm
  · intro name
    rw [if_neg, ← hoptions]
    rintro ⟨-, hpresent, -⟩
    cases hpresent

end ServiceTree
