import ApiBridge.TypeScript.Check

/-!
# Settings

The settings of a generated project: versions of packages, constants, scripts and the options of
types. Every setting has a default, and a file of settings names only those it changes, in either of
two spellings.
-/

namespace ApiBridge

/-- The packages that the project needs when it runs; further ones are named as they are. -/
structure Packages where
  sdk : String := "^1.13.2"
  axios : String := "^1.6.0"
  further : List (String × Value) := []
  deriving Repr, Inhabited

/-- The packages that the project needs when it is built. -/
structure ToolPackages where
  nodeTypes : String := "^20.10.0"
  tsx : String := "^4.6.0"
  typescript : String := "^5.3.0"
  further : List (String × Value) := []
  deriving Repr, Inhabited

/-- The constants of generated files. -/
structure Constants where
  nodeTarget : String := "ES2020"
  moduleSystem : String := "ESNext"
  moduleResolution : String := "node"
  contentType : String := "application/json"
  httpMethods : List String := ["GET", "POST", "PUT", "DELETE", "PATCH", "HEAD", "OPTIONS"]
  parameterTypes : List String := ["query", "path", "header", "formData", "body"]
  deriving DecidableEq, Repr, Inhabited

/-- The scripts of the manifest. -/
structure Scripts where
  build : String := "tsc"
  start : String := "node dist/index.js"
  dev : String := "tsx src/index.ts"
  deriving DecidableEq, Repr, Inhabited

/-- All settings. -/
structure Settings where
  packages : Packages := {}
  toolPackages : ToolPackages := {}
  constants : Constants := {}
  scripts : Scripts := {}
  types : TypeOptions := {}
  deriving Repr, Inhabited

/-! ### Checks -/

/-- The entries whose keys are none of `used`; every key has to be a text, and bytes are none. -/
def checkFurther (used : List String) (es : List (Scalar × Value)) :
    Check (List (String × Value)) :=
  (fun named => named.filter fun e => !used.contains e.1) <$>
    Check.all (es.map fun (k, v) =>
      match k with
      | .text s => .ok (s, v)
      | k => .under (.ofKey k) (.complain .name))

/-- The names under which fields were found. -/
def usedNames (fields : List (List String)) (es : List (Scalar × Value)) : List String :=
  fields.filterMap fun names => (findField names es).map (·.1)

/-- Packages with their versions, and further ones; a further package replaces one of the same
name. -/
def withFurther (further : List (String × Value)) (versions : List (String × String)) :
    List (String × String) :=
  further.foldl (fun done e => insertName e.1 e.2.display done) versions

namespace Packages

def check : Value → Check Packages :=
  Value.checkRecord fun es =>
    Packages.mk
      <$> checkFieldOr ["mcpSdk", "mcp_sdk"] Value.checkText "^1.13.2" es
      <*> checkFieldOr ["axios"] Value.checkText "^1.6.0" es
      <*> checkFurther (usedNames [["mcpSdk", "mcp_sdk"], ["axios"]] es) es

/-- The packages with their versions. -/
def versions (p : Packages) : List (String × String) :=
  withFurther p.further [("@modelcontextprotocol/sdk", p.sdk), ("axios", p.axios)]

/-- Have the versions of all packages texts? -/
def isWritable (p : Packages) : Bool :=
  p.further.all fun e => e.2.isWritable

end Packages

namespace ToolPackages

def check : Value → Check ToolPackages :=
  Value.checkRecord fun es =>
    ToolPackages.mk
      <$> checkFieldOr ["typesNode", "types_node"] Value.checkText "^20.10.0" es
      <*> checkFieldOr ["tsx"] Value.checkText "^4.6.0" es
      <*> checkFieldOr ["typescript"] Value.checkText "^5.3.0" es
      <*> checkFurther (usedNames [["typesNode", "types_node"], ["tsx"], ["typescript"]] es) es

/-- The packages with their versions. -/
def versions (p : ToolPackages) : List (String × String) :=
  withFurther p.further
    [("@types/node", p.nodeTypes), ("tsx", p.tsx), ("typescript", p.typescript)]

/-- Have the versions of all packages texts? -/
def isWritable (p : ToolPackages) : Bool :=
  p.further.all fun e => e.2.isWritable

end ToolPackages

def Constants.check : Value → Check Constants :=
  Value.checkRecord fun es =>
    Constants.mk
      <$> checkFieldOr ["defaultNodeTarget", "default_node_target"] Value.checkText "ES2020" es
      <*> checkFieldOr ["defaultModuleSystem", "default_module_system"] Value.checkText "ESNext" es
      <*> checkFieldOr ["defaultModuleResolution", "default_module_resolution"] Value.checkText
        "node" es
      <*> checkFieldOr ["contentType", "content_type"] Value.checkText "application/json" es
      <*> checkFieldOr ["httpMethods", "http_methods"] (Value.checkList Value.checkText)
        ({} : Constants).httpMethods es
      <*> checkFieldOr ["parameterTypes", "parameter_types"] (Value.checkList Value.checkText)
        ({} : Constants).parameterTypes es

def Scripts.check : Value → Check Scripts :=
  Value.checkRecord fun es =>
    Scripts.mk
      <$> checkFieldOr ["build"] Value.checkText "tsc" es
      <*> checkFieldOr ["start"] Value.checkText "node dist/index.js" es
      <*> checkFieldOr ["dev"] Value.checkText "tsx src/index.ts" es

def Settings.check : Value → Check Settings :=
  Value.checkRecord fun es =>
    Settings.mk
      <$> checkFieldOr ["dependencies"] Packages.check {} es
      <*> checkFieldOr ["devDependencies", "dev_dependencies"] ToolPackages.check {} es
      <*> checkFieldOr ["constants"] Constants.check {} es
      <*> checkFieldOr ["scripts"] Scripts.check {} es
      <*> checkFieldOr ["types"] TypeOptions.check {} es

end ApiBridge
