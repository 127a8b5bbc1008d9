import ServiceTree.Emit.Client
import ServiceTree.Http.Transport
import ServiceTree.Query.Literal

/-!
# Running emitted clients

What emitted code does when it is run. A method runs its statements one after the other on local
variables, and fails with the first one that does; then it has one request to send. A resolver tries
its branches in the order in which they are written. Code that refers to a member which is not there
has no meaning.
-/

namespace ServiceTree

/-- The local variables of a method. -/
structure Locals where
  value : Value
  body : ByteArray
  query : Fields String
  envelope : Fields Value

/-- Local variables that nothing has been assigned to. -/
def Locals.unassigned : Locals := ⟨.null, .empty, [], []⟩

/-- What a method returns. -/
inductive Returned where
  | unit
  | value (value : Value)

namespace BodyShape

/-- What the code that gives a value its type computes. -/
def coerceRun : BodyShape → Value → Value
  | .one name, value => value.asStruct name
  | .many name, value => value.asList name

/-- What the code that writes the value computes. -/
def writeRun : BodyShape → Value → Except CodecError ByteArray
  | .one name, value => Body.writeOne name value
  | .many name, value =>
    match value.items? with
    | none => .error (.unexpectedShape name "a list" value.kindName)
    | some items => Body.writeMany items

/-- What the code that reads the body computes. -/
def readRun : BodyShape → ByteArray → Except CodecError Value
  | .one name, bytes => Body.readOne name bytes
  | .many name, bytes => (Body.readMany name bytes).map (Value.list name)

end BodyShape

/-- What the code that gives a value its declared type computes. -/
def coercedRun (shape : Option BodyShape) (value : Value) : Value :=
  match shape with
  | some shape => shape.coerceRun value
  | none => value

/-- The text of an option that is given and not null. -/
def optionText (options : Options) (parameter : QueryParameter) : Except ClientError (Option String) :=
  match options.get? parameter.option with
  | some value => Query.render parameter.option parameter.kind value
  | none => .ok none

/-- Run a statement, given the argument and the options of the method. -/
def Statement.run (argument : Value) (options : Options) (locals : Locals) :
    Statement → Except ClientError Locals
  | .coerceArgument _ shape => .ok { locals with value := shape.coerceRun argument }
  | .writeValue shape =>
    match shape.writeRun locals.value with
    | .ok body => .ok { locals with body := body }
    | .error error => .error (.codec error)
  | .newQuery => .ok { locals with query := [] }
  | .addQuery parameter =>
    match optionText options parameter with
    | .error error => .error error
    | .ok none => .ok locals
    | .ok (some text) => .ok { locals with query := locals.query.insert parameter.tag text }
  | .newEnvelope _ => .ok { locals with envelope := [] }
  | .setField field =>
    match options.get? field.option with
    | none => .ok locals
    | some value =>
      .ok { locals with envelope := locals.envelope.insert field.tag (coercedRun field.shape value) }
  | .writeEnvelope =>
    match Body.writeOne actionType (.struct actionType locals.envelope) with
    | .ok body => .ok { locals with body := body }
    | .error error => .error (.codec error)

/-- Run statements one after the other. -/
def runStatements (argument : Value) (options : Options) (locals : Locals)
    (statements : List Statement) : Except ClientError Locals :=
  statements.foldlM (Statement.run argument options) locals

namespace RequestCode

/-- The path that a request is sent to from a service at a path. -/
def pathRun (request : RequestCode) (path : String) : String :=
  match request.actionSegment with
  | none => path
  | some segment => joinPath path segment

/-- The request made of the local variables. -/
def run (request : RequestCode) (path : String) (options : Options) (locals : Locals) : Request :=
  let bare := Request.new request.verb (request.pathRun path)
  let queried := if request.takesQuery then bare.withQuery locals.query else bare
  let filled := if request.takesBody then queried.withBody locals.body else queried
  filled.withOptions options

end RequestCode

/-- What the code behind the statuses of success returns. -/
def SuccessCode.run (response : Response) : SuccessCode → Except ClientError Returned
  | .unit => .ok .unit
  | .null => .ok (.value .null)
  | .body shape =>
    if response.body.isEmpty then .ok (.value .null)
    else match shape.readRun response.body with
      | .ok value => .ok (.value value)
      | .error error => .error (.codec error)

/-- What the ending of a method makes of a response. -/
def Ending.run (response : Response) : Ending → Except ClientError Returned
  | .byStatus codes success =>
    if codes.contains response.status then success.run response
    else .error (.fault response.fault)
  | .byEnvelope =>
    match response.envelope with
    | .ok _ => .ok .unit
    | .error error => .error error
  | .byField tag shape =>
    match response.envelope with
    | .ok envelope => .ok (.value (coercedRun shape ((envelope.find? tag).getD .null)))
    | .error error => .error error

/-- What a method of a service at a path does. -/
def MethodCode.run (method : MethodCode) (path : String) (argument : Value) (options : Options) :
    Call Returned :=
  match runStatements argument options .unassigned method.statements with
  | .error error => .error error
  | .ok locals =>
    .ok ⟨method.request.run path options locals, fun response => method.ending.run response⟩

/-- An instance of an emitted service: its code and its path. -/
structure Handle where
  service : ServiceCode
  path : String
  deriving DecidableEq, Repr

namespace ServiceCode

/-- The method of a name. -/
def method? (service : ServiceCode) (name : String) : Option MethodCode :=
  service.methods.find? fun method => method.name.word = name

/-- The accessor of a name. -/
def accessor? (service : ServiceCode) (name : String) : Option AccessorCode :=
  service.accessors.find? fun accessor => accessor.name.word = name

end ServiceCode

namespace ClientCode

/-- The service whose type has a name. -/
def service? (client : ClientCode) (name : Identifier) : Option ServiceCode :=
  client.services.find? fun service => service.name = name

/-- The instance that an accessor makes. An accessor of a fixed segment takes no argument. -/
def follow? (client : ClientCode) (handle : Handle) (accessor : AccessorCode)
    (argument : Option String) : Option Handle :=
  match accessor.segment, argument with
  | .fixed segment, none =>
    (client.service? accessor.target).map fun service => ⟨service, joinPath handle.path segment⟩
  | .argument _, some segment =>
    (client.service? accessor.target).map fun service => ⟨service, joinPath handle.path segment⟩
  | _, _ => none

/-- The instance that a call of an accessor makes. -/
def access? (client : ClientCode) (handle : Handle) (accessor : Identifier)
    (argument : Option String) : Option Handle :=
  (handle.service.accessors.find? fun member => member.name = accessor).bind fun member =>
    client.follow? handle member argument

/-- The root instance. -/
def root? (client : ClientCode) : Option Handle :=
  (client.service? client.root).map fun service => ⟨service, ""⟩

end ClientCode

/-- What a resolver does with a path. -/
inductive Resolved where
  /-- It returns the instance that an accessor makes. -/
  | child (accessor : Identifier) (argument : Option String)
  /-- It lets the instance that an accessor makes resolve the rest. -/
  | descend (accessor : Identifier) (argument : Option String) (rest : List Char)
  /-- It finds no service. -/
  | missing
  deriving DecidableEq, Repr

/-- What a branch does with a path that it fits. -/
def LiteralBranch.run? (branch : LiteralBranch) (path : List Char) : Option Resolved :=
  if path = branch.segment.toList then some (.child branch.accessor none)
  else if (branch.segment.toList ++ ['/']).isPrefixOf path then
    some (.descend branch.accessor none (path.drop (branch.segment.toList ++ ['/']).length))
  else none

/-- What the code behind all branches does with a path. -/
def wildcardRun (wildcard : Option Identifier) (path : List Char) : Resolved :=
  match wildcard with
  | none => .missing
  | some accessor =>
    if path.contains '/' then
      .descend accessor (some (String.ofList (path.takeWhile (· ≠ '/'))))
        ((path.dropWhile (· ≠ '/')).drop 1)
    else .child accessor (some (String.ofList path))

/-- What a resolver does with a path that is not empty. -/
def ResolverCode.run (resolver : ResolverCode) (path : List Char) : Resolved :=
  match resolver.literals.findSome? fun branch => branch.run? path with
  | some resolved => resolved
  | none => wildcardRun resolver.wildcard path

/-- What is left to resolve is shorter than the path. -/
theorem ResolverCode.run_length_lt {resolver : ResolverCode} {path rest : List Char}
    {accessor : Identifier} {argument : Option String}
    (h : resolver.run path = .descend accessor argument rest) : rest.length < path.length := by
  unfold ResolverCode.run at h
  split at h
  case h_1 resolved hfound =>
    subst h
    obtain ⟨branch, _, hbranch⟩ := List.exists_of_findSome?_eq_some hfound
    unfold LiteralBranch.run? at hbranch
    split at hbranch
    · cases hbranch
    · split at hbranch
      case isTrue hfront =>
        cases hbranch
        have hle := (List.isPrefixOf_iff_prefix.1 hfront).length_le
        simp only [List.length_append, List.length_cons, List.length_nil, List.length_drop] at hle ⊢
        omega
      case isFalse => cases hbranch
  case h_2 =>
    unfold wildcardRun at h
    split at h
    case h_1 => cases h
    case h_2 =>
      split at h
      case isTrue hslash =>
        cases h
        have hne : path ≠ [] := fun hnil => by simp [hnil] at hslash
        have hpos : 0 < path.length := List.length_pos_iff.2 hne
        have hdrop : (path.dropWhile (· ≠ '/')).length ≤ path.length :=
          (List.dropWhile_suffix _).length_le
        rw [List.length_drop]
        omega
      case isFalse => cases h

namespace ClientCode

/-- Resolve a path from an instance. Nothing results where the code has no meaning. -/
def resolveFrom (client : ClientCode) (handle : Handle) (path : List Char) :
    Option (Except ClientError Handle) :=
  if path = [] then some (.ok handle)
  else
    match _hrun : handle.service.resolver.run path with
    | .missing => some (.error (.noSuchService (String.ofList path)))
    | .child accessor argument => (client.access? handle accessor argument).map .ok
    | .descend accessor argument rest =>
      match client.access? handle accessor argument with
      | some child => client.resolveFrom child rest
      | none => none
  termination_by path.length
  decreasing_by exact ResolverCode.run_length_lt _hrun

/-- Resolve a path from an instance. -/
def resolve (client : ClientCode) (handle : Handle) (path : String) :
    Option (Except ClientError Handle) :=
  client.resolveFrom handle path.toList

end ClientCode

namespace Handle

/-- The instance as it is shown to users. -/
def display (handle : Handle) : String := handle.service.typeName ++ "(" ++ handle.path ++ ")"

/-- The instance as it is shown to developers, inside its variant. -/
def inspect (handle : Handle) : String :=
  handle.service.resolver.variant.word ++ "(" ++ handle.service.typeName ++ " \x7b path: " ++
    Text.quoted handle.path ++ ", .. \x7d)"

end Handle

end ServiceTree
