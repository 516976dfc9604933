import ApiBridge.TypeScript.Compile
import ApiBridge.TypeScript.Declaration
import ApiBridge.Validation

/-!
# Checked types

Type options, type expressions and declarations read from values.
-/

namespace ApiBridge

/-- A depth: a whole number from one on. -/
def TypeOptions.checkDepth (v : Value) : Check Nat :=
  match v.checkInteger with
  | .ok n => if n < 1 then .complain .tooSmall else .ok n.toNat
  | .flawed fs => .flawed fs

/-- The options of types, each with its default. -/
def TypeOptions.check : Value → Check TypeOptions :=
  Value.checkRecord fun es =>
    TypeOptions.mk
      <$> checkFieldOr ["referenceMode", "reference_mode"] (Value.checkChoice ReferenceMode.all)
        .name es
      <*> checkFieldOr ["maxDepth", "max_depth"] checkDepth 64 es
      <*> checkFieldOr ["dedupeNames", "dedupe_names"] Value.checkTruth false es

/-- The kinds by their names. -/
def TypeKind.choices : List (String × TypeKind) :=
  TypeKind.all.map fun k => (k.name, k)

namespace TypeForm

/-- The form of a type in a value, where `fuel` bounds the nesting. -/
def checkWithin : Nat → Value → Check TypeForm
  | 0, _ => .complain .record
  | fuel + 1, v => v.checkRecord fun es =>
    TypeForm.node
      <$> checkField ["kind"] (Value.checkChoice TypeKind.choices) es
      <*> checkFieldOr ["name"] (Value.checkOptional Value.checkText) none es
      <*> checkFieldOr ["literals"] (Value.checkList fun v => .ok v) [] es
      <*> checkFieldOr ["item"] (Value.checkOptional (checkWithin fuel)) none es
      <*> checkFieldOr ["properties"] (Value.checkList (checkProperty fuel)) [] es
where
  checkProperty (fuel : Nat) (v : Value) : Check (Property TypeForm) :=
    v.checkRecord fun es =>
      Property.mk
        <$> checkField ["name"] Value.checkText es
        <*> checkFieldOr ["optional"] Value.checkTruth true es
        <*> checkField ["type"] (checkWithin fuel) es

end TypeForm

namespace Value

mutual

/-- The number of containers on the longest way into a value. -/
def depth : Value → Nat
  | .list items => depthOfItems items + 1
  | .map entries => depthOfEntries entries + 1
  | .pair a b => max a.depth b.depth + 1
  | _ => 0

def depthOfItems : List Value → Nat
  | [] => 0
  | v :: vs => max v.depth (depthOfItems vs)

def depthOfEntries : List (Scalar × Value) → Nat
  | [] => 0
  | (_, v) :: es => max v.depth (depthOfEntries es)

end

end Value

/-- The form of a type in a value. -/
def TypeForm.check (v : Value) : Check TypeForm :=
  checkWithin (v.depth + 1) v

/-- A named form of a type, with the kind and origin of its declaration. -/
structure DeclarationForm where
  name : String
  kind : DeclarationKind
  form : TypeForm
  origin : DeclarationOrigin

namespace DeclarationForm

/-- The declaration of a form. -/
def toDeclaration (d : DeclarationForm) : Declaration :=
  ⟨d.name, d.kind, d.form.toExpr, d.origin⟩

/-- A declaration in a value. -/
def check : Value → Check DeclarationForm :=
  Value.checkRecord fun es =>
    DeclarationForm.mk
      <$> checkField ["name"] Value.checkText es
      <*> checkField ["kind"]
        (Value.checkChoice [("record", .record), ("alias", .alias)]) es
      <*> checkField ["expression"] TypeForm.check es
      <*> checkFieldOr ["origin"]
        (Value.checkChoice [("schema", .schema), ("parameters", .parameters),
          ("request_body", .requestBody), ("response", .response)]) .schema es

end DeclarationForm

end ApiBridge
