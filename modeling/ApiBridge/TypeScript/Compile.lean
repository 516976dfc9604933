import ApiBridge.Notice
import ApiBridge.Schema
import ApiBridge.TypeScript.Name
import ApiBridge.TypeScript.TypeExpr

/-!
# Compiling schemas

`compile` turns a schema into a type expression. What it does not know, what is nested too deep and
what refers to an unknown schema becomes `any`; it fails only where the name of a property is an
integer with too many digits.
-/

namespace ApiBridge

/-- What a reference to a schema becomes. -/
inductive ReferenceMode
  /-- The name it refers to, registered or not. -/
  | name
  /-- The name it refers to, if that is registered. -/
  | verify
  /-- The schema it refers to, unless that is being expanded already. -/
  | inline
  deriving DecidableEq, Repr, Inhabited

def ReferenceMode.all : List (String × ReferenceMode) :=
  [("name", .name), ("verify", .verify), ("inline", .inline)]

/-- The word for a mode. -/
def ReferenceMode.word : ReferenceMode → String
  | .name => "name"
  | .verify => "verify"
  | .inline => "inline"

/-- The options of types. -/
structure TypeOptions where
  referenceMode : ReferenceMode := .name
  /-- The nesting from which on a schema is not looked at. -/
  maxDepth : Nat := 64
  dedupeNames : Bool := false
  deriving DecidableEq, Repr, Inhabited

namespace TypeExpr

variable {α : Type} [Layered α]

/-- A compilation. It reports what it gives up on, and fails only where a name has no text. -/
abbrev Compiling := Attempt TextError TypeExpr

/-- The expression of a reference, where `expand` compiles a registered schema. -/
def ofReference (registry : Registry α) (mode : ReferenceMode) (opened : List String)
    (expand : Schema α → String → List String → Compiling) (target : String) : Compiling :=
  let name := Name.ofReference target
  if name = "" then pure .any
  else
    match mode, registry.lookup name with
    | .name, _ => pure (.reference name)
    | _, none => do
      Attempt.note (.schemaUnknown target)
      return .any
    | .verify, some _ => pure (.reference name)
    | .inline, some schema =>
      if opened.contains name then pure (.reference name)
      else expand (layer schema) name (name :: opened)

/-- The record of properties, where `expand` compiles the schema of a property. -/
def ofProperties (expand : Schema α → String → Compiling) (required : List String)
    (properties : List (Scalar × α)) : Compiling :=
  .record <$> properties.mapM fun (key, value) => do
    let name ← Attempt.ofExcept id key.written
    let type ← expand (layer value) name
    return ⟨name, !required.contains name, type⟩

/-- The expression of a schema, with `fuel` levels left. `context` names the schema in notices, and
`opened` holds the registered schemas being expanded. Any number of levels may be left: that a machine
has a stack with an end is left aside. -/
def compileWithin (registry : Registry α) (options : TypeOptions) :
    Nat → Schema α → (context : String) → (opened : List String) → Compiling
  | 0, _, context, _ => do
    Attempt.note (.schemaTooDeep context options.maxDepth)
    return .any
  | fuel + 1, schema, context, opened =>
    match schema.declaredType? with
    | some "string" =>
      match schema.keyword? "enum" with
      | some (.list values) => pure (.literals (values.map Layered.value))
      | _ => pure .string
    | some "integer" => pure .number
    | some "number" => pure .number
    | some "boolean" => pure .boolean
    | some "array" =>
      match schema.keyword? "items" with
      | some (.map entries) =>
        .sequence <$> compileWithin registry options fuel (.map entries) (context ++ "Item") opened
      | _ => pure .anySequence
    | some "object" =>
      match schema.properties? with
      | some properties => do
        let required ← Attempt.ofExcept id schema.requiredNames
        ofProperties (fun schema name => compileWithin registry options fuel schema name opened)
          required properties
      | none => pure .mapping
    | _ =>
      match schema.keyword? "$ref" with
      | some (.scalar (.text target)) =>
        ofReference registry options.referenceMode opened (compileWithin registry options fuel)
          target
      | _ => pure .any

/-- The expression of a schema. `identity` is its name where it is a registered schema. -/
def compile (registry : Registry α) (options : TypeOptions) (schema : Schema α) (context : String)
    (identity : Option String) : Compiling :=
  let opened := identity.toList.filter (· ≠ "")
  compileWithin registry options (options.maxDepth + 1) schema context opened

end TypeExpr

end ApiBridge
