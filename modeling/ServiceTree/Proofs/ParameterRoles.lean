import ServiceTree.Plan.Operation
import ServiceTree.Proofs.NameOrder

/-!
# The roles of parameters

Which parameters of a method travel in the body, in the query and in the envelope, and which one the
response yields. Where several can be the body, or the output of an action, the one declared first is taken,
while the query and the output of a reading go by names. So a method that sends no envelope is planned the
same in whatever order its parameters are declared, as long as those that can be the body keep their order.
-/

namespace ServiceTree

namespace Parameter

/-- A structure or a list that is given and returned, which can be the body of a request. -/
def IsBody (p : Parameter) : Prop := p.isIn ∧ p.isOut ∧ ¬ p.type.isPrimitive

/-- A scalar that is given and not returned. -/
def IsScalarInput (p : Parameter) : Prop := p.isIn ∧ ¬ p.isOut ∧ p.type.isPrimitive

/-- Whether a parameter is a body is read off its directions and its type. -/
instance (p : Parameter) : Decidable p.IsBody := inferInstanceAs (Decidable (_ ∧ _))

/-- So is whether it is a scalar. -/
instance (p : Parameter) : Decidable p.IsScalarInput := inferInstanceAs (Decidable (_ ∧ _))

/-- No parameter is a body and a scalar. -/
theorem IsScalarInput.not_isBody {p : Parameter} (h : p.IsScalarInput) : ¬ p.IsBody :=
  fun hbody => h.2.1 hbody.2.1

end Parameter

/-- The first parameter declared that has a property. -/
def FirstWith (P : Parameter → Prop) (parameters : List Parameter) (first : Parameter) : Prop :=
  P first ∧ ∃ before after, parameters = before ++ first :: after ∧ ∀ earlier ∈ before, ¬ P earlier

/-- The parameter with a property that has the smallest name. -/
structure LeastWith (P : Parameter → Prop) (parameters : List Parameter) (least : Parameter) : Prop where
  mem : least ∈ parameters
  holds : P least
  least : ∀ other ∈ parameters, P other → other ≠ least → least.name < other.name

/-- All parameters that have a property, with strictly increasing names. -/
structure OrderedWith (P : Parameter → Prop) (parameters ordered : List Parameter) : Prop where
  mem_iff : ∀ p, p ∈ ordered ↔ p ∈ parameters ∧ P p
  increasing : ordered.Pairwise fun a b => a.name < b.name

namespace Method

/-- The body of an addition or an update, and what it yields. -/
inductive PlansBody (method : Method) : Option BodyParameter → ResponsePlan → Prop
  /-- The first parameter declared that can be the body is sent, and returned in the same shape. -/
  | primary {p : Parameter} {shape : BodyShape} (hfirst : FirstWith Parameter.IsBody method.parameters p)
      (hshape : BodyShape.forType? p.type = some shape) :
      PlansBody method (some ⟨p.name.identifier, shape⟩) (.body shape)
  | absent (hnone : ∀ p ∈ method.parameters, ¬ p.IsBody) : PlansBody method none .empty

/-- What reading an object or a collection yields. -/
inductive Reads (method : Method) : ResponsePlan → Prop
  /-- The output of the smallest name is the body, unless it is a scalar. -/
  | output {p : Parameter} (hleast : LeastWith (fun p => p.isOut) method.parameters p) :
      Reads method (bodyResponse (BodyShape.forType? p.type))
  | nothing (hnone : ∀ p ∈ method.parameters, ¬ p.isOut) : Reads method .empty

/-- What an action yields. -/
inductive Returns (method : Method) : ResponsePlan → Prop
  /-- The first output declared is taken from the envelope. -/
  | output {p : Parameter} (hfirst : FirstWith (fun p => p.isOut) method.parameters p) :
      Returns method (.actionField p.name.tag (BodyShape.forType? p.type))
  | nothing (hnone : ∀ p ∈ method.parameters, ¬ p.isOut) : Returns method .empty

/-- The plan of an addition or an update. -/
structure SendsResource (method : Method) (operation : OperationPlan) : Prop where
  body : method.PlansBody operation.primary operation.response
  /-- The scalars that are only given are sent in the query, and the body is none of them. -/
  query : ∃ sent, OrderedWith Parameter.IsScalarInput method.parameters sent ∧
    operation.query = queryParameters sent ∧
      ∀ p ∈ sent, ¬ FirstWith Parameter.IsBody method.parameters p
  envelope : operation.envelope = []

/-- The plan of a reading or a removal. -/
structure AsksResource (method : Method) (operation : OperationPlan) : Prop where
  primary : operation.primary = none
  /-- Everything that is given is sent in the query. -/
  query : ∃ sent, OrderedWith (fun p => p.isIn) method.parameters sent ∧
    operation.query = queryParameters sent
  envelope : operation.envelope = []
  reads : method.strategy ≠ .remove → method.Reads operation.response
  removes : method.strategy = .remove → operation.response = .empty

/-- The plan of an action. -/
structure SendsEnvelope (method : Method) (operation : OperationPlan) : Prop where
  primary : operation.primary = none
  query : operation.query = []
  /-- The envelope holds all parameters in the order in which they are declared. -/
  envelope : operation.envelope = method.parameters.map fun p =>
    ⟨p.name.identifier, p.name.tag, BodyShape.forType? p.type⟩
  returns : method.Returns operation.response

end Method

/-! ## Finding parameters -/

/-- The parameter that is found by a test is the first one that passes it. -/
theorem find?_eq_some_iff_firstWith {P : Parameter → Prop} {test : Parameter → Bool}
    (htest : ∀ p, test p = true ↔ P p) {parameters : List Parameter} {first : Parameter} :
    parameters.find? test = some first ↔ FirstWith P parameters first := by
  rw [List.find?_eq_some_iff_append, htest]
  simp [FirstWith, ← htest]

/-- Sorting the parameters of different names that pass a test puts their names in order. -/
theorem sortedByName_orderedWith {P : Parameter → Prop} {test : Parameter → Bool}
    (htest : ∀ p, test p = true ↔ P p) {parameters : List Parameter}
    (hnames : (parameters.map Parameter.name).Nodup) :
    OrderedWith P parameters (Method.sortedByName (parameters.filter test)) := by
  refine ⟨fun p => ?_, ?_⟩
  · rw [Method.sortedByName, List.mem_mergeSort, List.mem_filter, htest]
  · exact sortByName_increasing Parameter.name _ (hnames.sublist (List.filter_sublist.map _))

/-- The first of the ordered parameters has the smallest name. -/
theorem OrderedWith.leastWith_of_head? {P : Parameter → Prop} {parameters ordered : List Parameter}
    (h : OrderedWith P parameters ordered) {least : Parameter} (hhead : ordered.head? = some least) :
    LeastWith P parameters least := by
  obtain ⟨rest, rfl⟩ := List.head?_eq_some_iff.mp hhead
  obtain ⟨hmem, hholds⟩ := (h.mem_iff least).mp List.mem_cons_self
  refine ⟨hmem, hholds, fun other hother hproperty hne => ?_⟩
  have hlater : other ∈ rest :=
    (List.mem_cons.mp ((h.mem_iff other).mpr ⟨hother, hproperty⟩)).resolve_left hne
  exact (List.pairwise_cons.mp h.increasing).1 other hlater

/-- A type has no shape as a body exactly if it is a scalar. -/
theorem BodyShape.forType?_eq_none_iff {type : ValueType} :
    forType? type = none ↔ type.isPrimitive = true := by
  cases type <;> simp [forType?, ValueType.isPrimitive]

namespace Method

variable {method : Method}

/-- The test for the primary parameter. -/
theorem isBody_iff (p : Parameter) : (p.isIn && p.isOut && !p.type.isPrimitive) = true ↔ p.IsBody := by
  simp [Parameter.IsBody, and_assoc]

/-- The test for the parameters in the query of an addition or an update. -/
theorem isScalarInput_iff (p : Parameter) :
    (p.isIn && !p.isOut && p.type.isPrimitive) = true ↔ p.IsScalarInput := by
  simp [Parameter.IsScalarInput, and_assoc]

/-- The primary parameter is the first one declared that can be the body. -/
theorem primary?_eq_some_iff {p : Parameter} :
    method.primary? = some p ↔ FirstWith Parameter.IsBody method.parameters p :=
  find?_eq_some_iff_firstWith isBody_iff

/-- There is no primary parameter exactly if none can be the body. -/
theorem primary?_eq_none_iff :
    method.primary? = none ↔ ∀ p ∈ method.parameters, ¬ p.IsBody := by
  simp only [primary?, List.find?_eq_none, isBody_iff]

/-- The body of an addition or an update is the primary parameter, and it is what the method yields. -/
theorem plansBody_of_sendsPrimary (hstrategy : method.strategy = .add ∨ method.strategy = .update) :
    method.PlansBody method.bodyParameter? method.response := by
  have hbody : method.bodyParameter? = method.primary?.bind fun p =>
      (BodyShape.forType? p.type).map fun shape => ⟨p.name.identifier, shape⟩ := by
    rw [bodyParameter?, if_pos]
    rcases hstrategy with h | h <;> rw [h] <;> rfl
  have hresponse : method.response = bodyResponse (method.bodyParameter?.map BodyParameter.shape) := by
    rcases hstrategy with h | h <;> rw [response, h]
  rw [hresponse, hbody]
  cases hprimary : method.primary? with
  | none => exact .absent (primary?_eq_none_iff.mp hprimary)
  | some p =>
    have hfirst := primary?_eq_some_iff.mp hprimary
    obtain ⟨shape, hshape⟩ : ∃ shape, BodyShape.forType? p.type = some shape := by
      rw [← Option.isSome_iff_exists, Option.isSome_iff_ne_none, Ne,
        BodyShape.forType?_eq_none_iff]
      exact hfirst.1.2.2
    rw [Option.bind_some, hshape]
    exact .primary hfirst hshape

/-- A reading yields the output of the smallest name. -/
theorem reads_of_mainOutput (hnames : (method.parameters.map Parameter.name).Nodup) :
    method.Reads (bodyResponse (method.mainOutput?.bind fun p => BodyShape.forType? p.type)) := by
  have hordered : OrderedWith (fun p => p.isOut) method.parameters _ :=
    sortedByName_orderedWith (fun _ => Iff.rfl) hnames
  cases hmain : method.mainOutput? with
  | some p => exact .output (hordered.leastWith_of_head? hmain)
  | none =>
    refine .nothing fun p hmem hout => ?_
    have hempty := List.head?_eq_none_iff.mp hmain
    have hsorted := (hordered.mem_iff p).mpr ⟨hmem, hout⟩
    rw [hempty] at hsorted
    cases hsorted

/-- An action yields the first output declared. -/
theorem returns_of_action (haction : method.strategy = .action) : method.Returns method.response := by
  rw [response, haction]
  dsimp only
  cases houtput : method.actionOutput? with
  | some p => exact .output ((find?_eq_some_iff_firstWith fun _ => Iff.rfl).mp houtput)
  | none => exact .nothing (by simpa [actionOutput?, List.find?_eq_none] using houtput)

/-! ## Plans -/

/-- An addition or an update sends its primary parameter and its other scalars. -/
theorem sendsResource (hnames : (method.parameters.map Parameter.name).Nodup)
    (hstrategy : method.strategy = .add ∨ method.strategy = .update) :
    method.SendsResource method.plan := by
  have hordered : OrderedWith Parameter.IsScalarInput method.parameters method.secondary :=
    sortedByName_orderedWith isScalarInput_iff hnames
  refine ⟨plansBody_of_sendsPrimary hstrategy, ⟨method.secondary, hordered, ?_, ?_⟩, ?_⟩
  · change method.query = _
    rcases hstrategy with h | h <;> rw [query, h]
  · exact fun p hsent hfirst => ((hordered.mem_iff p).mp hsent).2.not_isBody hfirst.1
  · change method.envelope = _
    rcases hstrategy with h | h <;> rw [envelope, h]

/-- A reading or a removal sends everything that is given in the query. -/
theorem asksResource (hnames : (method.parameters.map Parameter.name).Nodup)
    (hstrategy : method.strategy = .get ∨ method.strategy = .list ∨ method.strategy = .remove) :
    method.AsksResource method.plan := by
  refine ⟨?_, ⟨method.inputs, sortedByName_orderedWith (fun _ => Iff.rfl) hnames, ?_⟩, ?_, ?_, ?_⟩
  · change method.bodyParameter? = _
    rcases hstrategy with h | h | h <;> simp [bodyParameter?, h, Strategy.sendsPrimary]
  · change method.query = _
    rcases hstrategy with h | h | h <;> rw [query, h]
  · change method.envelope = _
    rcases hstrategy with h | h | h <;> rw [envelope, h]
  · intro hreads
    change method.Reads method.response
    have hresponse : method.response =
        bodyResponse (method.mainOutput?.bind fun p => BodyShape.forType? p.type) := by
      rcases hstrategy with h | h | h
      · rw [response, h]
      · rw [response, h]
      · exact absurd h hreads
    exact hresponse ▸ reads_of_mainOutput hnames
  · intro hremove
    change method.response = _
    rw [response, hremove]

/-- An action sends all its parameters in its envelope. -/
theorem sendsEnvelope (haction : method.strategy = .action) : method.SendsEnvelope method.plan := by
  refine ⟨?_, ?_, ?_, returns_of_action haction⟩
  · change method.bodyParameter? = _
    simp [bodyParameter?, haction, Strategy.sendsPrimary]
  · change method.query = _
    rw [query, haction]
  · change method.envelope = _
    rw [envelope, haction]

/-- The method with other parameters. -/
abbrev withParameters (method : Method) (parameters : List Parameter) : Method :=
  { method with parameters := parameters }

/-- Sorting what passes a test does not depend on the order in which the parameters are declared. -/
theorem sortedByName_of_perm {parameters others : List Parameter}
    (hnames : (parameters.map Parameter.name).Nodup) (hperm : others.Perm parameters)
    (test : Parameter → Bool) :
    sortedByName (others.filter test) = sortedByName (parameters.filter test) := by
  have hfiltered : ((parameters.filter test).map Parameter.name).Nodup :=
    hnames.sublist (List.filter_sublist.map _)
  exact (sortByName_eq_of_perm hfiltered (hperm.filter test).symm).symm

/-- A reading or a removal is planned the same in whatever order its parameters are declared. -/
theorem plan_of_perm (hnames : (method.parameters.map Parameter.name).Nodup)
    (hstrategy : method.strategy = .get ∨ method.strategy = .list ∨ method.strategy = .remove)
    {parameters : List Parameter} (hperm : parameters.Perm method.parameters) :
    (method.withParameters parameters).plan = method.plan := by
  have hinputs : (method.withParameters parameters).inputs = method.inputs :=
    sortedByName_of_perm hnames hperm Parameter.isIn
  have houtput : (method.withParameters parameters).mainOutput? = method.mainOutput? := by
    rw [mainOutput?, mainOutput?, sortedByName_of_perm hnames hperm]
  have hsame : (method.withParameters parameters).strategy = method.strategy := rfl
  rcases hstrategy with h | h | h <;>
    simp only [plan, bodyParameter?, Strategy.sendsPrimary, Bool.false_eq_true, if_false, query,
      envelope, response, defaultDoc, hsame, h, hinputs, houtput]

/-- An addition or an update is planned the same in whatever order its parameters are declared, as long as
those that can be the body keep their order. -/
theorem plan_of_perm_of_bodies (hnames : (method.parameters.map Parameter.name).Nodup)
    (hstrategy : method.strategy = .add ∨ method.strategy = .update) {parameters : List Parameter}
    (hperm : parameters.Perm method.parameters)
    (hbodies : parameters.filter (·.IsBody) = method.parameters.filter (·.IsBody)) :
    (method.withParameters parameters).plan = method.plan := by
  have hprimary : (method.withParameters parameters).primary? = method.primary? := by
    have hfilter (declared : List Parameter) :
        (declared.filter fun p => p.isIn && p.isOut && !p.type.isPrimitive) =
          declared.filter (·.IsBody) :=
      List.filter_congr fun p _ => Bool.eq_iff_iff.mpr ((isBody_iff p).trans (by simp))
    rw [primary?, primary?, ← List.head?_filter, ← List.head?_filter, hfilter, hfilter, hbodies]
  have hsecondary : (method.withParameters parameters).secondary = method.secondary :=
    sortedByName_of_perm hnames hperm _
  have hsame : (method.withParameters parameters).strategy = method.strategy := rfl
  rcases hstrategy with h | h <;>
    simp only [plan, bodyParameter?, query, envelope, response, defaultDoc, primaryWord, hsame, h,
      hprimary, hsecondary]

end Method

/-- Every strategy picks the body, the query and the response by the directions and types of parameters, and an
action takes all as declared; so but for actions no order matters, save that of bodies. -/
theorem plan_roles (method : Method) (hnames : (method.parameters.map Parameter.name).Nodup) :
    (method.strategy = .add ∨ method.strategy = .update → method.SendsResource method.plan) ∧
    (method.strategy = .get ∨ method.strategy = .list ∨ method.strategy = .remove →
      method.AsksResource method.plan) ∧
    (method.strategy = .action → method.SendsEnvelope method.plan) ∧
    ∀ parameters : List Parameter, parameters.Perm method.parameters →
      (method.strategy = .get ∨ method.strategy = .list ∨ method.strategy = .remove ∨
        (method.strategy = .add ∨ method.strategy = .update) ∧
          parameters.filter (·.IsBody) = method.parameters.filter (·.IsBody)) →
      (method.withParameters parameters).plan = method.plan := by
  refine ⟨Method.sendsResource hnames, Method.asksResource hnames, Method.sendsEnvelope, ?_⟩
  rintro parameters hperm (h | h | h | ⟨h, hbodies⟩)
  · exact Method.plan_of_perm hnames (.inl h) hperm
  · exact Method.plan_of_perm hnames (.inr (.inl h)) hperm
  · exact Method.plan_of_perm hnames (.inr (.inr h)) hperm
  · exact Method.plan_of_perm_of_bodies hnames h hperm hbodies

/-- A parameter whose name is a word. -/
def wordParameter (word : String) (type : ValueType) (isIn isOut : Bool) : Parameter :=
  ⟨⟨[word]⟩, type, isIn, isOut, none⟩

/-- A method that adds an item, with two parameters that can be the body and two scalars. -/
def stockMethod : Method where
  name := ⟨["add"]⟩
  parameters := [wordParameter "notify" (.primitive .boolean) true false,
    wordParameter "item" (.struct ⟨["item"]⟩) true true,
    wordParameter "amount" (.primitive .integer) true false,
    wordParameter "box" (.list (.struct ⟨["box"]⟩)) true true]
  doc := none

/-- The stock method keeps its plan when its scalars change places and its bodies move to the front. -/
theorem stockMethod_roles : stockMethod.SendsResource stockMethod.plan ∧
    (stockMethod.withParameters [wordParameter "item" (.struct ⟨["item"]⟩) true true,
      wordParameter "box" (.list (.struct ⟨["box"]⟩)) true true,
      wordParameter "amount" (.primitive .integer) true false,
      wordParameter "notify" (.primitive .boolean) true false]).plan = stockMethod.plan := by
  have hroles := plan_roles stockMethod (by decide)
  refine ⟨hroles.1 (.inl (by decide)), hroles.2.2.2 _ (by decide) ?_⟩
  exact .inr (.inr (.inr ⟨.inl (by decide), by decide⟩))

end ServiceTree
