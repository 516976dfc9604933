import ApiBridge.Description.Basic

/-!
# Tools

Each operation of an API is offered as a tool: with the parameters of the operation and its body, a
schema for its input, and the route that a call takes.
-/

namespace ApiBridge

/-- A parameter of a tool. -/
structure ToolParameter where
  name : String
  type : String
  description : String
  required : Bool
  location : ParameterLocation
  deriving DecidableEq, Repr, Inhabited

/-- The body that a tool takes. -/
structure ToolBody where
  description : String
  required : Bool
  deriving DecidableEq, Repr, Inhabited

/-- A tool of the generated server. -/
structure Tool where
  name : String
  description : String
  method : String
  path : String
  parameters : List ToolParameter
  body : Option ToolBody
  deriving DecidableEq, Repr, Inhabited

/-- The type of a parameter in an input schema: one of a few words, `string` if nothing fits. -/
def Schema.simpleType {α : Type} [Layered α] (schema : Schema α) : String :=
  match schema.declaredType? with
  | some "integer" => "number"
  | some "number" => "number"
  | some "boolean" => "boolean"
  | some "array" => "array"
  | some "object" => "object"
  | _ => "string"

namespace Tool

/-! ### From operations -/

section

variable {α : Type} [Layered α]

/-- The first of the texts that is there and not empty. -/
def firstText (texts : List (Option String)) (default : String) : String :=
  (texts.filterMap id |>.find? (· ≠ "")).getD default

/-- What stands for a body that is not described. -/
def bodyDescription : String := "Request body"

def ofParameter (p : Parameter α) : ToolParameter where
  name := p.name
  type := Schema.simpleType ((p.schema.map Layer.ofFields).getD default)
  description := firstText [p.description] s!"{p.name} parameter"
  required := p.required
  location := p.location

/-- The tool of an operation. -/
def ofOperation (o : Operation α) : Tool where
  name := o.operationId
  description := firstText [o.description, o.summary] s!"{o.method.word} {o.path}"
  method := o.method.word
  path := o.path
  parameters := o.parameters.map ofParameter
  body := o.requestBody.map fun b => ⟨firstText [b.description] bodyDescription, b.required⟩

end

/-! ### Input schema -/

/-- The property that takes the body. -/
def bodyProperty : String := "requestBody"

/-- A property with its type and description. -/
def property (type description : String) : Value :=
  .ofFields [("type", .text type), ("description", .text description)]

/-- The properties of the input: parameters by name, and the body. -/
def inputProperties (t : Tool) : List (String × Value) :=
  let parameters := t.parameters.foldl
    (fun done p => insertName p.name (property p.type p.description) done) []
  t.body.toList.foldl
    (fun done b => insertName bodyProperty (property "object" b.description) done) parameters

/-- The names of the input that must be given: each parameter once, and the body. -/
def requiredInput (t : Tool) : List String :=
  let parameters := (t.parameters.filter (·.required)).foldl
    (fun done p => if done.contains p.name then done else done ++ [p.name]) []
  parameters ++ (t.body.toList.filter (·.required)).map fun _ => bodyProperty

/-- The schema of the input. -/
def inputSchema (t : Tool) : Value :=
  let required := t.requiredInput
  .ofFields ([("type", .text "object"), ("properties", .ofFields t.inputProperties)]
    ++ if required.isEmpty then [] else [("required", .list (required.map .text))])

/-! ### Route -/

/-- The names of the parameters that are sent in one place. -/
def namesAt (t : Tool) (location : ParameterLocation) : List String :=
  (t.parameters.filter (·.location = location)).map (·.name)

/-- How the arguments of a call become a request. -/
def route (t : Tool) : Value :=
  let names (location : ParameterLocation) : Value := .list ((t.namesAt location).map .text)
  .ofFields [
    ("method", .text t.method),
    ("path", .text t.path),
    ("pathParams", names .path),
    ("queryParams", names .query),
    ("headerParams", names .header),
    ("cookieParams", names .cookie),
    ("hasBody", .bool t.body.isSome)]

/-! ### Checks -/

def checkParameter : Value → Check ToolParameter :=
  Value.checkRecord fun es =>
    ToolParameter.mk
      <$> checkField ["name"] Value.checkText es
      <*> checkFieldOr ["type"] Value.checkText "string" es
      <*> checkField ["description"] Value.checkText es
      <*> checkFieldOr ["required"] Value.checkTruth false es
      <*> checkField ["location"] (Value.checkChoice ParameterLocation.choices) es

def checkBody : Value → Check ToolBody :=
  Value.checkRecord fun es =>
    ToolBody.mk
      <$> checkFieldOr ["description"] Value.checkText bodyDescription es
      <*> checkFieldOr ["required"] Value.checkTruth false es

/-- A tool in a value. -/
def check : Value → Check Tool :=
  Value.checkRecord fun es =>
    Tool.mk
      <$> checkField ["name"] Value.checkText es
      <*> checkField ["description"] Value.checkText es
      <*> checkField ["method"] Value.checkText es
      <*> checkField ["path"] Value.checkText es
      <*> checkFieldOr ["parameters"] (Value.checkList checkParameter) [] es
      <*> checkFieldOr ["request_body"] (Value.checkOptional checkBody) none es

end Tool

/-- One tool for each operation, in order. -/
def Api.tools {α : Type} [Layered α] (api : Api α) : List Tool :=
  api.operations.map Tool.ofOperation

end ApiBridge
