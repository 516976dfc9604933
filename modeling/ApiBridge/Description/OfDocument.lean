import ApiBridge.Description.Basic
import ApiBridge.Notice
import ApiBridge.TypeScript.Declaration

/-!
# Descriptions from documents

`Document.describe` reads the description of an API out of a document. Its first fault stops it, but
parts of operations that make no sense are passed over with a notice.
-/

namespace ApiBridge

namespace Graph

/-- Is the node counted as true? -/
def isTruthy (g : Graph) (i : NodeId) : Bool :=
  (g.node i).isTruthy

/-- The text of the value at a node. -/
def written (g : Graph) (i : NodeId) : Except TextError String :=
  (g.unfold i).written

/-- The text of the value at a node, as part of a larger text. -/
def writtenQuoted (g : Graph) (i : Option NodeId) : Except TextError String :=
  ((i.map g.unfold).getD .null).writtenQuoted

/-- The entries of a map with texts as keys. -/
def checkFields (g : Graph) (i : NodeId) : Check (Option (Fields NodeId)) :=
  match g.entries? i with
  | some entries => some <$> checkTextKeys entries
  | none => .ok none

end Graph

namespace Document

open DescriptionError

/-- A computation on a document that reports what it passes over. -/
abbrev Describing (α : Type) := Attempt DescriptionError α

/-- The result of a check. -/
def passed {α : Type} : Check α → Describing α
  | .ok a => pure a
  | .flawed fs => throw (.flawed fs)

/-- A text that has to be there. -/
def needed {α : Type} : Except TextError α → Except DescriptionError α :=
  Except.mapError .unwritable

/-! ### General information -/

/-- A text that must be there and not be empty; a number is taken as its text. -/
def requiredText (g : Graph) (info : NodeId) (key : String) : Except DescriptionError String :=
  match (g.field? info key).map g.node with
  | some (.scalar (.text s)) => if s = "" then .error (fieldMissing key) else .ok s
  | some (.scalar (.int n)) => needed (Scalar.int n).written
  | some (.scalar (.float x)) => needed (Scalar.float x).written
  | _ => .error (fieldMissing key)

def describeInfo (d : Document) : Except DescriptionError ApiInfo :=
  match d.field? "info" with
  | some info =>
    if (d.graph.entries? info).isSome then do
      let title ← requiredText d.graph info "title"
      let version ← requiredText d.graph info "version"
      return ⟨title, version, d.graph.fieldText? info "description"⟩
    else .error infoMissing
  | none => .error infoMissing

/-- The version of the dialect, which must be the third. -/
def describeVersion (d : Document) : Except DescriptionError String := do
  if let some other := d.field? "swagger" then
    throw (otherDialect (← needed (d.graph.written other)))
  match d.field? "openapi" with
  | none => throw versionMissing
  | some i =>
    if d.graph.node i = .scalar .null then throw versionMissing
    let version ← needed (d.graph.written i)
    if version.startsWith "3." then return version else throw (versionUnsupported version)

/-- The paths, which may be missing. -/
def describePaths (d : Document) : Except DescriptionError (List (Scalar × NodeId)) :=
  match (d.field? "paths").map d.graph.node with
  | none => .ok []
  | some (.scalar .null) => .ok []
  | some (.map entries) => .ok entries
  | some n => .error (pathsNotMap n.kindName)

/-- A server; what is no map is none. -/
def describeServer (g : Graph) (i : NodeId) : Except TextError (Option Server) :=
  match g.entries? i with
  | none => .ok none
  | some _ => do
    let url ← match g.field? i "url" with
      | some url => g.written url
      | none => pure "/"
    return some ⟨url, g.fieldText? i "description"⟩

/-- The servers, which may be missing. -/
def describeServers (d : Document) : Except DescriptionError (List Server) :=
  match (d.field? "servers").map d.graph.node with
  | none => .ok []
  | some (.scalar .null) => .ok []
  | some (.list items) => (·.filterMap id) <$> needed (items.mapM (describeServer d.graph))
  | some _ => .error serversNotList

/-! ### Operations -/

/-- The schema of each media type; what is no map has none. -/
def mediaSchemas (g : Graph) (content : Option NodeId) :
    Except TextError (List (String × Option NodeId)) :=
  let entries := (content.bind g.entries?).getD []
  entries.foldlM (fun done e => do
    return insertName (← e.1.written) (g.field? e.2 "schema") done) []

/-- The schema of a media type, if it is a map. -/
def checkMedia (g : Graph) (media : String) (schema : Option NodeId) :
    Check (String × Option (Fields NodeId)) :=
  (media, ·) <$> match schema with
    | some i => .under (.name media) (g.checkFields i)
    | none => .ok none

/-- The content of a body, by media type. -/
def describeContent (g : Graph) (content : Option NodeId) : Describing (Content NodeId) := do
  let schemas ← needed (mediaSchemas g content)
  passed (.under (.name "content") (Check.all (schemas.map fun e => checkMedia g e.1 e.2)))

/-- A parameter, unless it is passed over. -/
def describeParameter (g : Graph) (path : String) (i : NodeId) :
    Describing (Option (Parameter NodeId)) := do
  if (g.entries? i).isNone then return none
  if let some target := reference? g i then
    Attempt.note (.parameterUnresolved (g.written target).toOption path)
    return none
  let some name := (g.fieldText? i "name").filter (· ≠ "")
    | Attempt.note (.parameterUnnamed path)
      return none
  let some location := (g.fieldText? i "in").bind (ParameterLocation.choices.lookup ·)
    | Attempt.note (.parameterMisplaced (Text.quoted name) path
        (g.writtenQuoted (g.field? i "in")).toOption)
      return none
  let schema ← passed (.under (.name "schema") (((g.field? i "schema").map g.checkFields).getD
    (.ok none)))
  let required := ((g.field? i "required").map g.isTruthy).getD false
  return some ⟨name, location, required, schema, g.fieldText? i "description"⟩

def describeParameters (g : Graph) (path : String) (operation : NodeId) :
    Describing (List (Parameter NodeId)) := do
  let items := ((g.field? operation "parameters").bind g.items?).getD []
  return (← items.mapM (describeParameter g path)).filterMap id

/-- The body of an operation; a reference counts as none. -/
def describeBody (g : Graph) (operation : NodeId) : Describing (Option (RequestBody NodeId)) :=
  match g.field? operation "requestBody" with
  | some body =>
    if (g.entries? body).isNone || (reference? g body).isSome then pure none
    else do
      let content ← describeContent g (g.field? body "content")
      let required := ((g.field? body "required").map g.isTruthy).getD false
      return some ⟨g.fieldText? body "description", required, content⟩
  | none => pure none

/-- A response, unless it is passed over. -/
def describeResponse (g : Graph) (path : String) (status : Scalar) (i : NodeId) :
    Describing (Option (String × Response NodeId)) := do
  if (g.entries? i).isNone then return none
  if let some target := reference? g i then
    Attempt.note (.responseUnresolved status.written.toOption (g.written target).toOption path)
    return none
  let content ← match g.field? i "content" with
    | some c => some <$> describeContent g (some c)
    | none => pure none
  let status ← needed status.written
  return some (status, ⟨(g.fieldText? i "description").getD "", content⟩)

/-- The responses by status; of two with the same text the first place and the last value count. -/
def describeResponses (g : Graph) (path : String) (operation : NodeId) :
    Describing (List (String × Response NodeId)) := do
  let entries := ((g.field? operation "responses").bind g.entries?).getD []
  let found ← entries.mapM fun (status, i) => describeResponse g path status i
  return (found.filterMap id).foldl (fun done e => insertName e.1 e.2 done) []

/-- The operation under a key of a path item, if the key is a method and responses are declared. -/
def describeOperation (g : Graph) (path key : Scalar) (i : NodeId) :
    Describing (Option (Operation NodeId)) := do
  let some method := Method.ofKey? (Text.lower (← needed key.written)) | return none
  if (g.field? i "responses").isNone then
    Attempt.note (.operationSkipped method.key path.written.toOption)
    return none
  let path ← needed path.written
  let operationId := ((g.fieldText? i "operationId").filter (· ≠ "")).getD
    (Name.ofRoute method.key path)
  let parameters ← describeParameters g path i
  let requestBody ← describeBody g i
  let responses ← describeResponses g path i
  return some ⟨path, method, operationId, g.fieldText? i "summary",
    g.fieldText? i "description", parameters, requestBody, responses⟩

/-- The operations of a path item, in the order of its keys. -/
def describePathItem (g : Graph) (path : Scalar) (item : NodeId) :
    Describing (List (Operation NodeId)) := do
  let entries := (g.entries? item).getD []
  return (← entries.mapM fun (key, i) => describeOperation g path key i).filterMap id

/-- The operations of all paths, in the order of the document. -/
def describeOperations (g : Graph) (paths : List (Scalar × NodeId)) :
    Describing (List (Operation NodeId)) := do
  return (← paths.mapM fun (path, item) => describePathItem g path item).flatten

/-! ### Schemas -/

/-- The reusable schemas of the document. -/
def schemaEntries (d : Document) : List (Scalar × NodeId) :=
  ((((d.field? "components").bind (d.graph.field? · "schemas")).bind d.graph.entries?)).getD []

/-- The description of an API that a document gives. -/
def describe (d : Document) : Describing (Api NodeId) := do
  if (d.graph.entries? d.root).isNone then
    throw (notMap (d.graph.node d.root).kindName)
  let info ← d.describeInfo
  let version ← d.describeVersion
  let paths ← d.describePaths
  let servers ← d.describeServers
  let operations ← describeOperations d.graph paths
  let schemas ← passed (.under (.name "schemas") (checkTextKeys d.schemaEntries))
  return ⟨info, servers, operations, schemas, version⟩

end Document

/-- The ids that several operations share, in the order of their first use. -/
def Api.sharedIds {α : Type} (a : Api α) : List String :=
  repeated (a.operations.map (·.operationId))

/-- The description that a document gives, with the parts of the document in its schemas. -/
def Document.describeParts (d : Document) : Attempt DescriptionError (Api Document) := do
  return (← d.describe).map (Document.mk d.graph)

end ApiBridge
