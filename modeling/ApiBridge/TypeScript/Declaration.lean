import ApiBridge.TypeScript.Source

/-!
# Declarations

A declaration gives a name to a type expression. A file of declarations is checked for names that
are used and never declared, and for names that are declared more than once.
-/

namespace ApiBridge

/-- How a declaration is written: as an interface or as another name for a type. -/
inductive DeclarationKind
  | record
  | alias
  deriving DecidableEq, Repr, Inhabited

def DeclarationKind.word : DeclarationKind → String
  | .record => "record"
  | .alias => "alias"

/-- The part of a description that a declaration comes from. -/
inductive DeclarationOrigin
  | schema
  | parameters
  | requestBody
  | response
  deriving DecidableEq, Repr, Inhabited

def DeclarationOrigin.word : DeclarationOrigin → String
  | .schema => "schema"
  | .parameters => "parameters"
  | .requestBody => "request_body"
  | .response => "response"

/-- A named type. -/
structure Declaration where
  name : String
  kind : DeclarationKind
  expression : TypeExpr
  origin : DeclarationOrigin
  deriving Repr, Inhabited

/-- Records are written as interfaces. -/
def TypeExpr.declarationKind (e : TypeExpr) : DeclarationKind :=
  if e.isRecord then .record else .alias

namespace Declaration

/-! ### Source text -/

/-- The statement of a declaration. -/
def source (d : Declaration) : String :=
  let body := d.expression.source 0
  match d.kind with
  | .record => s!"export interface {d.name} {body}"
  | .alias => s!"export type {d.name} = {body};"

/-- The comment at the top of a file of declarations. -/
def fileHeader : String :=
  "// Type definitions generated by lightning-mcp from the API description.\n"
    ++ "// Do not edit by hand; regenerate instead.\n"

/-- The file of a list of declarations: the header and the statements, with a blank line between
any two of them. -/
def fileText (header : String) (ds : List Declaration) : String :=
  let body := "\n\n".intercalate (ds.map source)
  if header = "" ∧ body = "" then ""
  else
    let text := if header = "" then body else if body = "" then header else header ++ "\n" ++ body
    if text.endsWith "\n" then text else text ++ "\n"

/-- Has a declaration a source text? -/
def isWritable (d : Declaration) : Bool :=
  d.expression.isWritable

/-- The file of a list of declarations, if all of them are writable. -/
def writtenFile (header : String) (ds : List Declaration) : Except TextError String :=
  if ds.all isWritable then .ok (fileText header ds) else .error .integerTooLong

end Declaration

/-! ### References -/

namespace TypeForm

/-- The names that a node itself refers to. -/
def ownReference (f : TypeForm) : List String :=
  if f.kind = .reference then f.name.toList.filter (· ≠ "") else []

/-- The parts of a node: its properties in order, and then its item. -/
def parts (f : TypeForm) : List TypeForm :=
  f.properties.map (·.type) ++ f.item.toList

/-- The nodes of several forms. -/
def totalSize : List TypeForm → Nat
  | [] => 0
  | f :: fs => f.size + totalSize fs

theorem sizes_eq (ps : List (Property TypeForm)) :
    sizes ps = totalSize (ps.map (·.type)) := by
  induction ps with
  | nil => rfl
  | cons p ps ih =>
    obtain ⟨name, optional, type⟩ := p
    simp only [sizes, ih, totalSize, List.map_cons]

theorem totalSize_append (fs gs : List TypeForm) :
    totalSize (fs ++ gs) = totalSize fs + totalSize gs := by
  induction fs with
  | nil => simp [totalSize]
  | cons f fs ih => simp only [List.cons_append, totalSize, ih, Nat.add_assoc]

theorem totalSize_parts (f : TypeForm) : totalSize f.parts + 1 = f.size := by
  obtain ⟨kind, name, literals, item, properties⟩ := f
  cases item with
  | none => simp [parts, TypeForm.item, TypeForm.properties, size, sizes_eq]
  | some item =>
    simp [parts, TypeForm.item, TypeForm.properties, size, sizes_eq, totalSize_append, totalSize]
    omega

/-- The names that the pending forms refer to: the parts of a form come before the forms after
it. -/
def pendingReferences : List TypeForm → List String
  | [] => []
  | f :: fs => f.ownReference ++ pendingReferences (f.parts ++ fs)
termination_by fs => totalSize fs
decreasing_by
  have h := totalSize_parts f
  rw [totalSize_append]
  simp only [totalSize]
  omega

/-- The names that a form refers to, in order. -/
def references (f : TypeForm) : List String :=
  pendingReferences [f]

end TypeForm

/-- The elements of a list, each at its first place only. -/
def firstOccurrences {α : Type} [DecidableEq α] (xs : List α) : List α :=
  xs.foldl (fun seen x => if seen.contains x then seen else seen ++ [x]) []

/-- The elements that occur more than once, each at its first place only. -/
def repeated {α : Type} [DecidableEq α] (xs : List α) : List α :=
  firstOccurrences (xs.filter fun x => 1 < xs.count x)

/-- The names that named forms refer to and that none of them has. -/
def danglingReferences (ds : List (String × TypeForm)) : List String :=
  firstOccurrences
    ((ds.flatMap fun d => d.2.references).filter fun name => !(ds.map (·.1)).contains name)

namespace Declaration

/-- The names that are used and never declared, in the order of their first use. -/
def dangling (ds : List Declaration) : List String :=
  danglingReferences (ds.map fun d => (d.name, d.expression.toForm))

/-- The names that are declared more than once, in the order of their first declaration. -/
def duplicates (ds : List Declaration) : List String :=
  repeated (ds.map (·.name))

end Declaration

end ApiBridge
