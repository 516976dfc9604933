import ApiBridge.Document.Resolve
import ApiBridge.Schema
import ApiBridge.Validation

/-!
# Descriptions of APIs

An `Api` is what a document says about an API, in a fixed shape: general information, servers, the
operations in the order of the document, and the reusable schemas. The type parameter stands for
the values inside schemas.
-/

namespace ApiBridge

/-- Where a parameter is sent. -/
inductive ParameterLocation
  | query
  | path
  | header
  | cookie
  deriving DecidableEq, Repr, Inhabited

namespace ParameterLocation

def word : ParameterLocation → String
  | .query => "query"
  | .path => "path"
  | .header => "header"
  | .cookie => "cookie"

/-- The locations by their words. -/
def choices : List (String × ParameterLocation) :=
  [("query", .query), ("path", .path), ("header", .header), ("cookie", .cookie)]

end ParameterLocation

/-- The word for a method in a request. -/
def Method.word (m : Method) : String :=
  String.ofList (m.key.toList.map Char.toUpper)

/-- General information about an API. -/
structure ApiInfo where
  title : String
  version : String
  description : Option String
  deriving DecidableEq, Repr, Inhabited

/-- A server of an API. -/
structure Server where
  url : String
  description : Option String
  deriving DecidableEq, Repr, Inhabited

/-- The entries of a schema, or of the reusable schemas, by name. -/
abbrev Fields (α : Type) := List (String × α)

/-- The schemas of a body, by media type. -/
abbrev Content (α : Type) := List (String × Option (Fields α))

/-- A parameter of an operation. -/
structure Parameter (α : Type) where
  name : String
  location : ParameterLocation
  required : Bool
  schema : Option (Fields α)
  description : Option String
  deriving Repr, Inhabited

/-- The body that an operation is sent. -/
structure RequestBody (α : Type) where
  description : Option String
  required : Bool
  content : Content α
  deriving Repr, Inhabited

/-- A response of an operation; it may have no content at all. -/
structure Response (α : Type) where
  description : String
  content : Option (Content α)
  deriving Repr, Inhabited

/-- A method of a path. -/
structure Operation (α : Type) where
  path : String
  method : Method
  operationId : String
  summary : Option String
  description : Option String
  parameters : List (Parameter α)
  requestBody : Option (RequestBody α)
  responses : List (String × Response α)
  deriving Repr, Inhabited

/-- A description of an API. -/
structure Api (α : Type) where
  info : ApiInfo
  servers : List Server
  operations : List (Operation α)
  schemas : Fields α
  openapiVersion : String
  deriving Repr, Inhabited

/-! ### Schemas of bodies -/

/-- The media type whose schemas are compiled. -/
def jsonMediaType : String := "application/json"

/-- The JSON schema of a content. -/
def Content.json? {α : Type} (c : Content α) : Option (Fields α) :=
  (c.lookup jsonMediaType).join

def RequestBody.json? {α : Type} (b : RequestBody α) : Option (Fields α) :=
  Content.json? b.content

def Response.json? {α : Type} (r : Response α) : Option (Fields α) :=
  r.content.bind Content.json?

/-! ### Mapping -/

/-- The same entries with other values. -/
def Fields.map {α β : Type} (f : α → β) (es : Fields α) : Fields β :=
  List.map (fun e => (e.1, f e.2)) es

def Content.map {α β : Type} (f : α → β) (c : Content α) : Content β :=
  List.map (fun e => (e.1, Option.map (Fields.map f) e.2)) c

def Parameter.map {α β : Type} (f : α → β) (p : Parameter α) : Parameter β :=
  { p with schema := Option.map (Fields.map f) p.schema }

def RequestBody.map {α β : Type} (f : α → β) (b : RequestBody α) : RequestBody β :=
  { b with content := Content.map f b.content }

def Response.map {α β : Type} (f : α → β) (r : Response α) : Response β :=
  { r with content := Option.map (Content.map f) r.content }

def Operation.map {α β : Type} (f : α → β) (o : Operation α) : Operation β :=
  { o with
    parameters := List.map (Parameter.map f) o.parameters
    requestBody := Option.map (RequestBody.map f) o.requestBody
    responses := List.map (fun e => (e.1, Response.map f e.2)) o.responses }

/-- The values of entries. -/
def Fields.values {α : Type} (es : Fields α) : List α :=
  List.map (·.2) es

def Content.values {α : Type} (c : Content α) : List α :=
  List.flatMap (fun e => Fields.values (Option.getD e.2 [])) c

def Operation.values {α : Type} (o : Operation α) : List α :=
  o.parameters.flatMap (fun p => Fields.values (p.schema.getD []))
    ++ o.requestBody.toList.flatMap (fun b => Content.values b.content)
    ++ o.responses.flatMap fun r => r.2.content.toList.flatMap Content.values

/-- The values inside the schemas of a description. -/
def Api.values {α : Type} (a : Api α) : List α :=
  a.operations.flatMap Operation.values ++ Fields.values a.schemas

/-- The same description with other values inside schemas. -/
def Api.map {α β : Type} (f : α → β) (a : Api α) : Api β :=
  { a with
    operations := List.map (Operation.map f) a.operations
    schemas := Fields.map f a.schemas }

/-! ### Errors -/

/-- Why a document is no description of an API. -/
inductive DescriptionError
  | notMap (kind : String)
  | infoMissing
  | fieldMissing (key : String)
  | otherDialect (version : String)
  | versionMissing
  | versionUnsupported (version : String)
  | pathsNotMap (kind : String)
  | serversNotList
  /-- A part of the description cannot be built. -/
  | flawed (flaws : List Flaw)
  /-- A part that is to be a text has none. -/
  | unwritable (e : TextError)
  deriving DecidableEq, Repr

/-- Is the error reported as one of descriptions? -/
def DescriptionError.isReported : DescriptionError → Bool
  | .flawed _ | .unwritable _ => false
  | _ => true

/-- Is a part that must be there missing or malformed, in a document that may be a description? -/
def DescriptionError.isMalformed : DescriptionError → Bool
  | .infoMissing | .fieldMissing _ | .serversNotList => true
  | _ => false

/-- The report of a document that is no description. -/
def DescriptionError.message : DescriptionError → String
  | .notMap kind => s!"Description document must be a mapping (got {kind})"
  | .infoMissing => "Missing required 'info' object"
  | .fieldMissing key => s!"Missing required field 'info.{key}'"
  | .otherDialect version =>
    s!"Swagger {version} is not supported. Only OpenAPI 3.x documents are supported. "
      ++ "Consider converting with https://converter.swagger.io"
  | .versionMissing => "Missing 'openapi' field. Is this an OpenAPI 3.x document?"
  | .versionUnsupported version =>
    s!"Unsupported OpenAPI version: {version}. Only OpenAPI 3.x documents are supported."
  | .pathsNotMap kind => s!"'paths' must be a mapping (got {kind})"
  | .serversNotList => "'servers' must be a list"
  | .flawed _ => ""
  | .unwritable e => e.message

end ApiBridge
