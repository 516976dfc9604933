import ApiBridge.Host
import ApiBridge.Project.Templates
import ApiBridge.TypeScript.OfApi

/-!
# Generating a project

A project is a server for an API: its files are made from the description, and written one after
another below a directory.
-/

namespace ApiBridge

/-- A generated project. -/
structure Project where
  directory : Path
  blueprint : Blueprint
  declarations : List Declaration
  deriving Repr, Inhabited

/-- Why a project is not written. -/
inductive WriteError
  | noFile (e : FileError)
  /-- The text of a file is not there. -/
  | noText (e : TextError)
  deriving DecidableEq, Repr

namespace Project

/-- What the base address is when no server is described. -/
def defaultBaseUrl : String := "http://localhost"

/-- The address of the first server. -/
def baseUrl {α : Type} (api : Api α) : String :=
  (api.servers.head?.map (·.url)).getD defaultBaseUrl

/-- What a project for an API is made from. -/
def blueprintOf {α : Type} [Layered α] (api : Api α) (settings : Settings) : Blueprint where
  title := api.info.title
  version := api.info.version
  baseUrl := baseUrl api
  tools := api.tools
  settings := settings

/-- The project for an API. -/
def ofApi {α : Type} [Layered α] (directory : Path) (api : Api α) (settings : Settings) :
    Attempt TextError Project := do
  let declarations ← api.declarations settings.types
  return ⟨directory, blueprintOf api settings, declarations⟩

/-- The files with their texts, in the order in which they are written. -/
def files (p : Project) : List (Path × Except TextError String) :=
  let source := p.directory.child "src"
  [(source.child "index.ts", .ok p.blueprint.serverText),
    (p.directory.child "package.json", p.blueprint.writtenManifest),
    (p.directory.child "tsconfig.json", .ok p.blueprint.compilerOptionsText),
    (p.directory.child "README.md", .ok p.blueprint.guideText),
    (source.child "types.ts", Declaration.writtenFile Declaration.fileHeader p.declarations)]

/-- The tree after files are written in order, and why the first that is not written is not. -/
def writeAll (base : Place) (t : FileTree) :
    List (Path × Except TextError String) → FileTree × Option WriteError
  | [] => (t, none)
  | (_, .error e) :: _ => (t, some (.noText e))
  | (path, .ok text) :: files =>
    match t.write base path text false with
    | (t, some e) => (t, some (.noFile e))
    | (t, none) => writeAll base t files

/-- Write a project below the working directory. Nothing is written where the manifest has no
text. -/
def write (p : Project) (h : Host) : FileTree × Option WriteError :=
  match p.blueprint.writtenManifest with
  | .error e => (h.tree, some (.noText e))
  | .ok _ => writeAll h.directory.names h.tree p.files

/-- The notice of a written project. -/
def writtenNotice (p : Project) : Notice :=
  .projectWritten p.files.length p.directory.text

/-- The warnings about names of types: those declared more than once, and those never declared. -/
def typeWarnings (p : Project) : List String :=
  (Declaration.duplicates p.declarations).map
      (fun name => s!"Type '{name}' is declared more than once (use --dedupe-names)")
    ++ (Declaration.dangling p.declarations).map
      fun name => s!"Type '{name}' is referenced but never declared"

end Project

end ApiBridge
