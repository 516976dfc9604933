import ApiBridge.Failure
import ApiBridge.Project.Generate

/-!
# Views

What a run shows of a description, of declarations and of a project, as tables and as values.
-/

namespace ApiBridge

/-- A table: its headers, and rows with a cell for each of them. -/
structure Table where
  headers : List String
  rows : List (List String)
  deriving DecidableEq, Repr

/-- Print a table. -/
def Table.print (t : Table) (c : Console) : Console.DataResult :=
  c.printTable (.list (t.headers.map .text)) (.list (t.rows.map fun row => .list (row.map .text)))

/-- What stands for a text that is missing or empty. -/
def orDash (s : Option String) : String :=
  (s.filter (· ≠ "")).getD "-"

namespace Api

variable {α : Type}

/-- The operations in order. -/
def operationTable (a : Api α) : Table where
  headers := ["Method", "Path", "Operation ID", "Summary"]
  rows := a.operations.map fun o => [o.method.word, o.path, o.operationId, orDash o.summary]

/-- The title of the operations. -/
def operationTitle (a : Api α) : String :=
  s!"{a.info.title} -- Operations ({a.operations.length})"

/-- The title of the schemas. -/
def schemaTitle (a : Api α) : String :=
  s!"Schemas ({List.length a.schemas})"

/-- The reusable schemas with their types and first properties, if all property names are texts. -/
def schemaTable [Layered α] (a : Api α) : Except TextError Table := do
  let rows ← a.schemas.mapM fun (name, schema) => do
    let (kind, properties) ← Schema.describe (layer schema)
    return [name, kind, properties]
  return ⟨["Schema", "Type", "Properties"], rows⟩

/-- General information, with the numbers of operations and schemas. -/
def record (a : Api α) : Value :=
  .ofFields [
    ("title", .text a.info.title),
    ("version", .text a.info.version),
    ("openapi_version", .text a.openapiVersion),
    ("description", .text (orDash a.info.description)),
    ("servers", .list (a.servers.map fun s => .text s.url)),
    ("operations", .int a.operations.length),
    ("schemas", .int a.schemas.length)]

/-- The warnings about ids that several operations share. -/
def idWarnings (a : Api α) : List String :=
  a.sharedIds.map fun id => s!"operationId '{id}' is shared by more than one operation"

end Api

/-- A declaration with its source text. -/
def Declaration.record (d : Declaration) : Value :=
  .ofFields [("name", .text d.name), ("kind", .text d.kind.word), ("origin", .text d.origin.word),
    ("source", .text d.source)]

namespace Tool

def parameterRecord (p : ToolParameter) : Value :=
  .ofFields [("name", .text p.name), ("type", .text p.type),
    ("description", .text p.description), ("required", .bool p.required),
    ("location", .text p.location.word)]

def bodyRecord (b : ToolBody) : Value :=
  .ofFields [("description", .text b.description), ("required", .bool b.required)]

/-- A tool with all its parts. -/
def record (t : Tool) : Value :=
  .ofFields [("name", .text t.name), ("description", .text t.description),
    ("method", .text t.method), ("path", .text t.path),
    ("parameters", .list (t.parameters.map parameterRecord)),
    ("request_body", (t.body.map bodyRecord).getD .null)]

end Tool

namespace Project

/-- The tools of a project. -/
def toolTable (p : Project) : Table where
  headers := ["Tool", "Method", "Path", "Description"]
  rows := p.blueprint.tools.map fun t => [t.name, t.method, t.path, t.description]

/-- The title of the tools. -/
def toolTitle (p : Project) : String :=
  s!"Generated MCP server with {p.blueprint.tools.length} tools"

/-- A project with its tools, declarations and files. -/
def record (p : Project) : Value :=
  .ofFields [
    ("output_dir", .text p.directory.text),
    ("package_name", .text p.blueprint.packageName),
    ("base_url", .text p.blueprint.baseUrl),
    ("tools", .list (p.blueprint.tools.map Tool.record)),
    ("declarations", .list (p.declarations.map fun d => .text d.name)),
    ("files", .list (p.files.map fun f => .text f.1.text))]

end Project

end ApiBridge
