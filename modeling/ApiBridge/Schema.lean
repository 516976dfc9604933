import ApiBridge.Value.Layer
import ApiBridge.Value.Text

/-!
# Schemas

A schema is a value of the description, looked at one layer at a time. The keywords that matter for
types are `type`, `enum`, `items`, `properties`, `required` and `$ref`; all else is passed over.
-/

namespace ApiBridge

/-- One layer of a schema: any value of a description. -/
abbrev Schema (α : Type) := Layer α

/-- The reusable schemas of a description, by name and in order. -/
abbrev Registry (α : Type) := List (String × α)

namespace Schema

variable {α : Type} [Layered α]

/-- One layer of what stands under a keyword. -/
def keyword? (name : String) (schema : Schema α) : Option (Layer α) :=
  (schema.field? name).map layer

/-- The type that a schema declares: a single text, or the first text of a list other than
`null`. -/
def declaredType? (schema : Schema α) : Option String :=
  match keyword? "type" schema with
  | some (.list entries) =>
    (entries.filterMap fun v => (layer v).text?).find? (· ≠ "null")
  | some l => l.text?
  | none => none

/-- The text of an entry of `required`: of a text, a whole number or a truth value. -/
def requiredName? : Layer α → Except TextError (Option String)
  | .scalar (.text s) => .ok (some s)
  | .scalar (.int n) => some <$> (Scalar.int n).written
  | .scalar (.bool b) => some <$> (Scalar.bool b).written
  | _ => .ok none

/-- The names that `required` lists. -/
def requiredNames (schema : Schema α) : Except TextError (List String) :=
  match keyword? "required" schema with
  | some (.list names) => (·.filterMap id) <$> names.mapM fun v => requiredName? (layer v)
  | _ => .ok []

/-- The declared properties, where there are any. -/
def properties? (schema : Schema α) : Option (List (Scalar × α)) :=
  match keyword? "properties" schema with
  | some (.map (e :: es)) => some (e :: es)
  | _ => none

/-! ### Short descriptions -/

/-- How many property names a short description shows. -/
def listedProperties : Nat := 5

/-- The type of a schema as it is shown: what it refers to, where it only refers. -/
def shownType (schema : Schema α) : Except TextError String :=
  match schema.field? "type", schema.field? "$ref" with
  | some kind, _ => (Layered.value kind).written
  | none, some target => ("-> " ++ ·) <$> (Layered.value target).written
  | none, none => .ok "-"

/-- The type and the first property names of a schema, as texts. -/
def describe : Schema α → Except TextError (String × String)
  | .map entries => do
    let schema : Schema α := .map entries
    let kind ← shownType schema
    let keys : List Value := match keyword? "properties" schema with
      | some (.map entries) => entries.map fun e => .scalar e.1
      | _ => []
    let names ← Value.allTexts 0 (keys.take listedProperties)
    let more := if listedProperties < keys.length then "..." else ""
    return (kind, ", ".intercalate names ++ more)
  | _ => .ok ("unknown", "")

end Schema

end ApiBridge
