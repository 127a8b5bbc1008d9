import ServiceTree.Emit.Documentation
import ServiceTree.Emit.Identifier

/-!
# Emitted methods

The method of an operation is code of a small form: some statements that prepare the query, the body or
the envelope in local variables, one request made of them, and an ending that tells what the response
means. This module composes that code from a plan and writes it out.
-/

namespace ServiceTree

/-- A statement in front of the request. -/
inductive Statement where
  /-- Give the argument its type and keep it as the value. -/
  | coerceArgument (argument : Identifier) (shape : BodyShape)
  /-- Write the value as the body. -/
  | writeValue (shape : BodyShape)
  /-- Begin an empty query. -/
  | newQuery
  /-- Add an option to the query, if it is given and not null. -/
  | addQuery (parameter : QueryParameter)
  /-- Begin an empty envelope, which may be changed later or not. -/
  | newEnvelope (mutable : Bool)
  /-- Copy an option into the envelope, if it is given. -/
  | setField (field : EnvelopeField)
  /-- Write the envelope as the body. -/
  | writeEnvelope
  deriving DecidableEq, Repr

/-- The request of a method: what it is addressed to and which variables it takes. -/
structure RequestCode where
  verb : Verb
  /-- What an action appends to the path of the service. -/
  actionSegment : Option String
  takesQuery : Bool
  takesBody : Bool
  deriving DecidableEq, Repr

/-- What a method returns for a response of success. -/
inductive SuccessCode where
  /-- Nothing at all. -/
  | unit
  /-- The null value. -/
  | null
  /-- The body, or null where it is empty. -/
  | body (shape : BodyShape)
  deriving DecidableEq, Repr

/-- What a method makes of the response. -/
inductive Ending where
  /-- Success on some statuses and a fault on all others. -/
  | byStatus (codes : List UInt16) (success : SuccessCode)
  /-- Success if the envelope says so, with nothing to return. -/
  | byEnvelope
  /-- Success if the envelope says so, with one of its fields to return. -/
  | byField (tag : String) (shape : Option BodyShape)
  deriving DecidableEq, Repr

/-- The code of a method. -/
structure MethodCode where
  doc : String
  name : Identifier
  argument : Option Identifier
  statements : List Statement
  request : RequestCode
  ending : Ending
  deriving DecidableEq, Repr

namespace MethodCode

/-- The name of the parameter that holds the options. -/
def optionsName : String := "opts"

/-- The identifier of the argument, which must differ from that of the options. -/
def argumentIdentifier (text : String) : Except GenerationError Identifier :=
  Identifier.escaped (if text = optionsName then text ++ "_arg" else text)

/-- The statements that turn the argument into the body. -/
def bodyStatements (argument : Identifier) (shape : BodyShape) : List Statement :=
  [.coerceArgument argument shape, .writeValue shape]

/-- The statements that build the query, if there is any parameter to send. -/
def queryStatements (parameters : List QueryParameter) : List Statement :=
  if parameters.isEmpty then [] else .newQuery :: parameters.map .addQuery

/-- The statements that build the envelope and write it. -/
def envelopeStatements (fields : List EnvelopeField) : List Statement :=
  .newEnvelope (!fields.isEmpty) :: (fields.map .setField ++ [.writeEnvelope])

/-- What the method of an operation on a resource returns on success. -/
def successCode (operation : OperationPlan) : SuccessCode :=
  match operation.strategy, operation.response with
  | .remove, _ => .unit
  | _, .body shape => .body shape
  | _, _ => .null

/-- The method of an operation on a resource. The body is written before the query is built. -/
def ofResource (operation : OperationPlan) : Except GenerationError MethodCode := do
  let name ← Identifier.escaped operation.identifier
  let request : RequestCode :=
    ⟨operation.verb, none, !operation.query.isEmpty, operation.primary.isSome⟩
  let ending := Ending.byStatus operation.successCodes (successCode operation)
  match operation.primary with
  | none =>
    return ⟨operation.fullDoc, name, none, queryStatements operation.query, request, ending⟩
  | some primary =>
    let argument ← argumentIdentifier primary.identifier
    return ⟨operation.fullDoc, name, some argument,
      bodyStatements argument primary.shape ++ queryStatements operation.query, request, ending⟩

/-- What the method of an action makes of the response. -/
def actionEnding : ResponsePlan → Ending
  | .actionField tag shape => .byField tag shape
  | _ => .byEnvelope

/-- The method of an action. -/
def ofAction (operation : OperationPlan) : Except GenerationError MethodCode := do
  let name ← Identifier.escaped operation.identifier
  return ⟨operation.fullDoc, name, none, envelopeStatements operation.envelope,
    ⟨operation.verb, some (operation.actionSegment.getD ""), false, true⟩,
    actionEnding operation.response⟩

/-- The method of an operation. -/
def ofPlan (operation : OperationPlan) : Except GenerationError MethodCode :=
  match operation.strategy with
  | .action => ofAction operation
  | _ => ofResource operation

end MethodCode

open Emit

namespace BodyShape

/-- The code that gives a value the type of a shape. -/
def coerceTokens (shape : BodyShape) (value : Tokens) : Tokens :=
  match shape with
  | .one name => code "arbor::coerce_struct" ++ parens (value ++ [","] ++ literal name)
  | .many name => code "arbor::coerce_list" ++ parens (value ++ [","] ++ literal name)

/-- The code that writes the value as a body. -/
def writeTokens : BodyShape → Tokens
  | .one name =>
    code "self.connection.codec().write_one" ++ parens (literal name ++ code ", &value") ++ ["?"]
  | .many name =>
    braces
      (code "let items = value.items().ok_or_else" ++
        parens (code "|| arbor::CodecError::UnexpectedShape" ++
          braces (code "type_name:" ++ literal name ++ code ".to_string(), expected:" ++
            literal "a list" ++ code ".to_string(), found: value.kind_name().to_string(),")) ++
        code "?; self.connection.codec().write_many" ++ parens (literal name ++ code ", items") ++
        ["?"])

/-- The code that reads the body of the response. -/
def readTokens : BodyShape → Tokens
  | .one name =>
    code "self.connection.codec().read_one" ++ parens (literal name ++ code ", &response.body") ++ ["?"]
  | .many name =>
    code "arbor::Value::List" ++
      parens (code "arbor::ListValue::new" ++
        parens (literal name ++ code ", self.connection.codec().read_many" ++
          parens (literal name ++ code ", &response.body") ++ code "?,"))

end BodyShape

/-- The code that names a kind, or says that there is none. -/
def kindTokens : Option PrimitiveKind → Tokens
  | none => code "None"
  | some kind => code ("Some(arbor::PrimitiveKind::" ++ Name.capitalizeWord kind.word ++ ")")

/-- The code that gives a value the type of a shape, if there is one. -/
def coercedTokens (shape : Option BodyShape) (value : Tokens) : Tokens :=
  match shape with
  | some shape => shape.coerceTokens value
  | none => value

/-- The code that names a verb. -/
def Verb.tokens : Verb → Tokens
  | .get => code "arbor::Verb::Get"
  | .post => code "arbor::Verb::Post"
  | .put => code "arbor::Verb::Put"
  | .delete => code "arbor::Verb::Delete"

/-- The code of a statement. -/
def Statement.tokens : Statement → Tokens
  | .coerceArgument argument shape =>
    code "let value =" ++ shape.coerceTokens ([argument.token] ++ code ".into()") ++ [";"]
  | .writeValue shape => code "let body =" ++ shape.writeTokens ++ [";"]
  | .newQuery => code "let mut query = std::collections::BTreeMap::new();"
  | .addQuery parameter =>
    code "if let Some(text) = opts.get" ++ parens (literal parameter.option) ++ code ".map" ++
      parens (code "|option| arbor::render_query_value" ++
        parens (literal parameter.option ++ [","] ++ kindTokens parameter.kind ++ code ", option")) ++
      code ".transpose()?.flatten()" ++
      braces (code "query.insert" ++ parens (literal parameter.tag ++ code ".to_string(), text") ++ [";"])
  | .newEnvelope mutable =>
    code (if mutable then "let mut envelope" else "let envelope") ++
      code "= arbor::StructValue::new(arbor::ACTION_TYPE);"
  | .setField field =>
    code "if let Some(option) = opts.get" ++ parens (literal field.option) ++
      braces (code "envelope = envelope.field" ++
        parens (literal field.tag ++ [","] ++ coercedTokens field.shape (code "option.clone()")) ++ [";"])
  | .writeEnvelope =>
    code "let body = self.connection.codec().write_one(arbor::ACTION_TYPE," ++
      code "&arbor::Value::Struct(envelope))?;"

/-- The code of the path that a request is sent to. -/
def RequestCode.pathTokens (request : RequestCode) : Tokens :=
  match request.actionSegment with
  | none => code "self.path.clone()"
  | some segment => code "arbor::join_path" ++ parens (code "&self.path," ++ literal segment)

/-- The code that makes and sends the request. -/
def RequestCode.tokens (request : RequestCode) : Tokens :=
  code "let request = arbor::HttpRequest::new" ++
    parens (request.verb.tokens ++ [","] ++ request.pathTokens) ++
    (if request.takesQuery then code ".with_query(query)" else []) ++
    (if request.takesBody then code ".with_body(body)" else []) ++
    code ".with_options(opts); let response = self.connection.send(request)?;"

/-- The code behind the statuses of success. -/
def SuccessCode.tokens : SuccessCode → Tokens
  | .unit => code "Ok(())"
  | .null => code "Ok(arbor::Value::Null)"
  | .body shape =>
    code "if response.body.is_empty()" ++ braces (code "return Ok(arbor::Value::Null);") ++
      ["Ok"] ++ parens shape.readTokens

/-- The statuses of success as a pattern. -/
def codesPattern (codes : List UInt16) : Tokens :=
  List.intercalate ["|"] (codes.map fun status => [toString status.toNat])

/-- The code that ends a method. -/
def Ending.tokens : Ending → Tokens
  | .byStatus codes success =>
    code "match response.status" ++
      braces (codesPattern codes ++ code "=>" ++ braces success.tokens ++
        code "_ => Err(self.connection.check_fault(&response)),")
  | .byEnvelope => code "self.connection.check_action(&response)?; Ok(())"
  | .byField tag shape =>
    code "let mut envelope = self.connection.check_action(&response)?;" ++
      code "let value = envelope.fields.remove" ++ parens (literal tag) ++
      code ".unwrap_or_default(); Ok" ++ parens (coercedTokens shape (code "value"))

/-- Whether a method returns a value. -/
def Ending.returnsValue : Ending → Bool
  | .byStatus _ .unit => false
  | .byStatus _ _ => true
  | .byEnvelope => false
  | .byField _ _ => true

/-- The type that a method returns on success. -/
def Ending.typeTokens (ending : Ending) : Tokens :=
  code (if ending.returnsValue then "arbor::Value" else "()")

/-- The code of the argument, if there is one. -/
def argumentTokens : Option Identifier → Tokens
  | some argument => [argument.token] ++ code ": impl Into<arbor::Value>,"
  | none => []

/-- The code of a method. -/
def MethodCode.tokens (method : MethodCode) : Tokens :=
  docAttributes method.doc ++ code "pub fn" ++ [method.name.token] ++
    parens (code "&self," ++ argumentTokens method.argument ++ code "opts: &arbor::Options") ++
    code "-> Result<" ++ method.ending.typeTokens ++ code ", arbor::ArborError>" ++
    braces (method.statements.flatMap Statement.tokens ++ method.request.tokens ++
      method.ending.tokens)

end ServiceTree
