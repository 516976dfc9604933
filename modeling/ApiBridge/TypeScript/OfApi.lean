import ApiBridge.Description.Basic
import ApiBridge.TypeScript.Compile
import ApiBridge.TypeScript.Declaration

/-!
# Declarations of a description

Every reusable schema is declared under its own name, in order. After them come the declarations of
each operation: its parameters as a record, its request body and its responses.
-/

namespace ApiBridge

/-- A declaration that is to be made, once its name is settled. -/
structure Draft where
  name : String
  expression : TypeExpr.Compiling
  origin : DeclarationOrigin

namespace Draft

variable {α : Type} [Layered α]

/-- The schema of a parameter or a body; none is as good as one that says nothing. -/
def schemaOf (schema : Option (Fields α)) : Schema α :=
  (schema.map Layer.ofFields).getD default

/-- The record of parameters. Of two with the same name, the first place and the last one count. -/
def parametersRecord (registry : Registry α) (options : TypeOptions)
    (parameters : List (Parameter α)) : TypeExpr.Compiling := do
  let members ← parameters.mapM fun p => do
    let type ← TypeExpr.compile registry options (schemaOf p.schema) p.name none
    return (⟨p.name, !p.required, type⟩ : Property TypeExpr)
  return .record ((members.foldl (fun done m => insertName m.name m done) []).map (·.2))

/-- The draft of a body that has a JSON schema. -/
def ofBody (registry : Registry α) (options : TypeOptions) (name : String)
    (schema : Fields α) (origin : DeclarationOrigin) : Draft :=
  ⟨name, TypeExpr.compile registry options (.ofFields schema) name none, origin⟩

/-- The drafts of an operation. -/
def ofOperation (registry : Registry α) (options : TypeOptions) (o : Operation α) :
    List Draft :=
  let parameters :=
    if o.parameters.isEmpty then []
    else [⟨Name.ofParameters o.operationId, parametersRecord registry options o.parameters,
      .parameters⟩]
  let body := (o.requestBody.bind (·.json?)).toList.map fun schema =>
    ofBody registry options (Name.ofRequestBody o.operationId) schema .requestBody
  let responses := o.responses.filterMap fun (status, response) =>
    response.json?.map fun schema =>
      ofBody registry options (Name.ofResponse o.operationId status) schema .response
  parameters ++ body ++ responses

/-- The draft of a reusable schema. -/
def ofSchema (registry : Registry α) (options : TypeOptions) (name : String) (schema : α) :
    Draft :=
  ⟨name, TypeExpr.compile registry options (layer schema) name (some name), .schema⟩

/-- All drafts of a description, in the order of the declarations. -/
def ofApi (options : TypeOptions) (api : Api α) : List Draft :=
  List.map (fun e => ofSchema api.schemas options e.1 e.2) api.schemas
    ++ api.operations.flatMap (ofOperation api.schemas options)

/-! ### Names -/

/-- Settle the name of a draft, given the names that are taken. -/
def settle (options : TypeOptions) (taken : Name.Taken) (d : Draft) :
    Attempt TextError (Declaration × Name.Taken) := do
  let expression ← d.expression
  let (name, taken) := if options.dedupeNames then Name.dedupe d.name taken else (d.name, taken)
  if name ≠ d.name then Attempt.note (.declarationRenamed d.name name)
  return (⟨name, expression.declarationKind, expression, d.origin⟩, taken)

/-- Settle the names of drafts in order. -/
def settleAll (options : TypeOptions) :
    Name.Taken → List Draft → Attempt TextError (List Declaration)
  | _, [] => return []
  | taken, d :: ds => do
    let (declaration, taken) ← settle options taken d
    return declaration :: (← settleAll options taken ds)

end Draft

/-- The declarations of a description. -/
def Api.declarations {α : Type} [Layered α] (options : TypeOptions) (api : Api α) :
    Attempt TextError (List Declaration) :=
  Draft.settleAll options [] (Draft.ofApi options api)

end ApiBridge
