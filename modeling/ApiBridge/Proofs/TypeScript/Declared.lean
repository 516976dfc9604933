import ApiBridge.Proofs.TypeScript.Compilation
import ApiBridge.Proofs.Value.Keys
import ApiBridge.TypeScript.OfApi

/-!
# What a description declares

The declarations of a description are its drafts, in order, each with its expression compiled and
its name settled. The drafts of the reusable schemas come first, and with the keys of a map as
names, all different, they keep their names whether names are made unique or not.
-/

namespace ApiBridge

/-! ### Names given out -/

namespace Name

/-- The names that are given out for names asked for one after another. -/
def dedupeAll : Taken → List String → List String
  | _, [] => []
  | taken, name :: names => (dedupe name taken).1 :: dedupeAll (dedupe name taken).2 names

lemma dedupe_of_free {name : String} {taken : Taken} (h : name ∉ taken.map (·.1)) :
    dedupe name taken = (name, taken ++ [(name, 1)]) := by
  have hl : taken.lookup name = none := by
    rw [List.lookup_eq_none_iff]
    intro p hp
    simpa using fun heq : name = p.1 => h (heq ▸ List.mem_map_of_mem hp)
  simp [dedupe, hl]

/-- Names that are all different and free are given out as they are. -/
lemma dedupeAll_append {names : List String} (rest : List String) {taken : Taken}
    (h : (taken.map (·.1) ++ names).Nodup) :
    ∃ taken', dedupeAll taken (names ++ rest) = names ++ dedupeAll taken' rest := by
  induction names generalizing taken with
  | nil => exact ⟨taken, rfl⟩
  | cons n ns ih =>
    have hn : n ∉ taken.map (·.1) := fun hn => by
      simpa using (List.nodup_append.1 h).2.2 n hn n (by simp)
    have free : ((taken ++ [(n, 1)] : Taken).map (·.1) ++ ns).Nodup := by simpa using h
    obtain ⟨taken', hrest⟩ := ih free
    exact ⟨taken', by simp [dedupeAll, dedupe_of_free hn, hrest]⟩

end Name

namespace Draft

/-- The names that drafts get for the names they ask for. -/
def givenNames (options : TypeOptions) (taken : Name.Taken) (names : List String) : List String :=
  if options.dedupeNames then Name.dedupeAll taken names else names

lemma givenNames_append {names : List String} (options : TypeOptions) (rest : List String)
    (h : names.Nodup) :
    ∃ rest', givenNames options [] (names ++ rest) = names ++ rest' := by
  unfold givenNames
  split
  · have free : (([] : Name.Taken).map (·.1) ++ names).Nodup := by simpa using h
    obtain ⟨taken, h⟩ := Name.dedupeAll_append rest free
    exact ⟨_, h⟩
  · exact ⟨rest, rfl⟩

/-! ### Settled drafts -/

/-- A declaration is what becomes of a draft, its name aside. -/
structure Settles (d : Draft) (decl : Declaration) : Prop where
  expression : d.expression.outcome = .ok decl.expression
  kind : decl.kind = decl.expression.declarationKind
  origin : decl.origin = d.origin

lemma settle_eq_ok {options : TypeOptions} {taken : Name.Taken} {d : Draft}
    {p : Declaration × Name.Taken} :
    (settle options taken d).outcome = .ok p ↔ d.Settles p.1 ∧ (p.1.name, p.2)
      = if options.dedupeNames then Name.dedupe d.name taken else (d.name, taken) := by
  obtain ⟨⟨name, kind, expression, origin⟩, taken'⟩ := p
  simp only [settle, Attempt.outcome_bind, bind_eq_ok_iff]
  generalize (if options.dedupeNames then Name.dedupe d.name taken else (d.name, taken)) = q
  obtain ⟨unique, after⟩ := q
  constructor
  · rintro ⟨e, he, h⟩
    split at h
    all_goals
      simp at h
      grind [Settles]
  · rintro ⟨⟨he, hk, ho⟩, hn⟩
    refine ⟨expression, he, ?_⟩
    split
    all_goals
      simp
      grind

theorem settleAll_eq_ok {options : TypeOptions} {taken : Name.Taken} {drafts : List Draft}
    {ds : List Declaration} :
    (settleAll options taken drafts).outcome = .ok ds ↔
      List.Forall₂ Settles drafts ds ∧
        ds.map (·.name) = givenNames options taken (drafts.map (·.name)) := by
  induction drafts generalizing taken ds with
  | nil =>
    cases ds with
    | nil => simp [settleAll, givenNames, Name.dedupeAll]
    | cons d ds => simp [settleAll]
  | cons d drafts ih =>
    simp only [settleAll, Attempt.outcome_bind, bind_eq_ok_iff, settle_eq_ok, ih,
      Attempt.outcome_pure, Except.ok.injEq, List.forall₂_cons_left_iff, List.map_cons]
    have names : givenNames options taken (d.name :: drafts.map (·.name)) =
        (if options.dedupeNames then Name.dedupe d.name taken else (d.name, taken)).1 ::
          givenNames options (if options.dedupeNames then Name.dedupe d.name taken
            else (d.name, taken)).2 (drafts.map (·.name)) := by
      by_cases h : options.dedupeNames = true
      · simp [givenNames, Name.dedupeAll, h]
      · simp [givenNames, h]
    rw [names]
    constructor
    · rintro ⟨p, ⟨hp, hq⟩, ds', ⟨hds, hn⟩, rfl⟩
      rw [← hq]
      exact ⟨⟨p.1, ds', hp, hds, rfl⟩, by simp [hn]⟩
    · rintro ⟨⟨decl, ds', hd, hds, rfl⟩, hn⟩
      simp only [List.map_cons, List.cons.injEq] at hn
      exact ⟨(decl, _), ⟨hd, Prod.ext hn.1 rfl⟩, ds', ⟨hds, hn.2⟩, rfl⟩

lemma settleAll_returns (options : TypeOptions) (taken : Name.Taken) {drafts : List Draft}
    (h : ∀ d ∈ drafts, ∃ e, d.expression.outcome = .ok e) :
    ∃ ds, (settleAll options taken drafts).outcome = .ok ds := by
  induction drafts generalizing taken with
  | nil => exact ⟨[], rfl⟩
  | cons d drafts ih =>
    obtain ⟨e, he⟩ := h d (by simp)
    have hd : ∃ p, (settle options taken d).outcome = .ok p :=
      ⟨(⟨_, e.declarationKind, e, d.origin⟩, _), settle_eq_ok.2 ⟨⟨he, rfl, rfl⟩, rfl⟩⟩
    obtain ⟨p, hp⟩ := hd
    obtain ⟨ds, hds⟩ := ih p.2 fun d' hd' => h d' (by simp [hd'])
    refine ⟨p.1 :: ds, ?_⟩
    simp only [settleAll, Attempt.outcome_bind, bind_eq_ok_iff, Attempt.outcome_pure]
    exact ⟨p, hp, ds, hds, rfl⟩

/-! ### Parameters -/

variable {α : Type} [Layered α]

/-- A member of the record of parameters stands for a parameter. -/
structure ParameterMember (registry : Registry α) (options : TypeOptions) (p : Parameter α)
    (m : Property TypeExpr) : Prop where
  name : m.name = p.name
  optional : m.optional = !p.required
  type : (TypeExpr.compile registry options (schemaOf p.schema) p.name none).outcome = .ok m.type

/-- Members with one of the same name merged: the first place, the last member. -/
def mergeMembers (members : List (Property TypeExpr)) : List (Property TypeExpr) :=
  (members.foldl (fun done m => insertName m.name m done) []).map (·.2)

lemma mem_of_mem_mergeMembers {members : List (Property TypeExpr)} {m : Property TypeExpr}
    (h : m ∈ mergeMembers members) : m ∈ members := by
  obtain ⟨e, he, rfl⟩ := List.mem_map.1 h
  obtain ⟨before, m, after, rfl, rfl, -⟩ := mem_foldl_insertName.1 he
  simp

lemma parametersRecord_eq_ok {registry : Registry α} {options : TypeOptions}
    {parameters : List (Parameter α)} {e : TypeExpr} :
    (parametersRecord registry options parameters).outcome = .ok e ↔
      ∃ members, List.Forall₂ (ParameterMember registry options) parameters members ∧
        e = .record (mergeMembers members) := by
  have member (p : Parameter α) (m : Property TypeExpr) :
      (∃ type, (TypeExpr.compile registry options (schemaOf p.schema) p.name none).outcome
        = .ok type ∧ ⟨p.name, !p.required, type⟩ = m) ↔ ParameterMember registry options p m := by
    constructor
    · rintro ⟨_, htype, rfl⟩
      exact ⟨rfl, rfl, htype⟩
    · rintro ⟨hname, hoptional, htype⟩
      exact ⟨m.type, htype, by rw [← hname, ← hoptional]⟩
  simp only [parametersRecord, Attempt.outcome_bind, Attempt.outcome_mapM, bind_eq_ok_iff,
    mapM_eq_ok_iff, Attempt.outcome_pure, Except.ok.injEq, member, mergeMembers,
    eq_comm (a := e)]

end Draft

/-! ### Schemas that are compiled -/

variable {α : Type} [Layered α]

/-- The schemas of the body and the responses of an operation. -/
def Operation.payloadSchemas (o : Operation α) : List (Schema α) :=
  (o.requestBody.bind (·.json?)).toList.map Layer.ofFields
    ++ o.responses.filterMap fun r => r.2.json?.map Layer.ofFields

/-- The schemas that the declarations of an operation are compiled from. -/
def Operation.compiledSchemas (o : Operation α) : List (Schema α) :=
  o.parameters.map (fun p => Draft.schemaOf p.schema)
    ++ (o.requestBody.bind (·.json?)).toList.map Layer.ofFields
    ++ o.responses.filterMap fun r => r.2.json?.map Layer.ofFields

/-- The schemas that the declarations of a description are compiled from. -/
def Api.compiledSchemas (api : Api α) : List (Schema α) :=
  List.map (fun e => layer e.2) api.schemas ++ api.operations.flatMap Operation.compiledSchemas

lemma Draft.parametersRecord_returns {registry : Registry α} {options : TypeOptions}
    {parameters : List (Parameter α)}
    (h : ∀ p ∈ parameters, ∀ context, ∃ e,
      (TypeExpr.compile registry options (schemaOf p.schema) context none).outcome = .ok e) :
    ∃ e, (parametersRecord registry options parameters).outcome = .ok e := by
  have members : ∃ members, List.Forall₂ (ParameterMember registry options) parameters members := by
    induction parameters with
    | nil => exact ⟨[], .nil⟩
    | cons p ps ih =>
      obtain ⟨e, he⟩ := h p (by simp) p.name
      obtain ⟨members, hm⟩ := ih fun q hq => h q (by simp [hq])
      exact ⟨⟨p.name, !p.required, e⟩ :: members, .cons ⟨rfl, rfl, he⟩ hm⟩
  obtain ⟨members, hm⟩ := members
  exact ⟨_, parametersRecord_eq_ok.2 ⟨members, hm, rfl⟩⟩

omit [Layered α] in
lemma Operation.payloadSchemas_subset (o : Operation α) : o.payloadSchemas ⊆ o.compiledSchemas := by
  rw [compiledSchemas, List.append_assoc]
  exact List.subset_append_right _ _

/-- A draft of an operation is compiled from its body or a response, or is the record of its
parameters. -/
lemma Draft.payload_or_parameters_of_mem {registry : Registry α} {options : TypeOptions}
    {o : Operation α} {d : Draft} (h : d ∈ Draft.ofOperation registry options o) :
    (d.origin ≠ .parameters ∧ ∃ s ∈ o.payloadSchemas, ∃ context,
      d.expression = TypeExpr.compile registry options s context none) ∨
    d.expression = parametersRecord registry options o.parameters := by
  rw [ofOperation, List.append_assoc, List.mem_append, List.mem_append] at h
  rcases h with h | h | h
  · split at h
    case isTrue => cases h
    case isFalse =>
      obtain rfl := List.mem_singleton.1 h
      exact .inr rfl
  · obtain ⟨fields, hf, rfl⟩ := List.mem_map.1 h
    exact .inl ⟨nofun, _, List.mem_append_left _ (List.mem_map_of_mem hf), _, rfl⟩
  · obtain ⟨r, hr, h⟩ := List.mem_filterMap.1 h
    obtain ⟨fields, hf, rfl⟩ := Option.map_eq_some_iff.1 h
    exact .inl ⟨nofun, _,
      List.mem_append_right _ (List.mem_filterMap.2 ⟨r, hr, by simp [hf]⟩), _, rfl⟩

/-- What an operation needs is compiled from one schema, or is the record of parameters. -/
lemma Draft.mem_ofOperation {registry : Registry α} {options : TypeOptions} {o : Operation α}
    {d : Draft} (h : d ∈ Draft.ofOperation registry options o) :
    (∃ s ∈ o.compiledSchemas, ∃ context,
      d.expression = TypeExpr.compile registry options s context none) ∨
    d.expression = parametersRecord registry options o.parameters := by
  refine (payload_or_parameters_of_mem h).imp_left ?_
  rintro ⟨-, s, hs, compiled⟩
  exact ⟨s, o.payloadSchemas_subset hs, compiled⟩

/-- The expression of a draft is that of one schema, or the record of parameters. -/
lemma Draft.mem_ofApi {options : TypeOptions} {api : Api α} {d : Draft}
    (h : d ∈ Draft.ofApi options api) :
    (∃ s ∈ api.compiledSchemas, ∃ context identity,
      d.expression = TypeExpr.compile api.schemas options s context identity) ∨
    ∃ o ∈ api.operations, d.expression = parametersRecord api.schemas options o.parameters := by
  simp only [ofApi, List.mem_append, List.mem_map, List.mem_flatMap] at h
  rcases h with ⟨e, he, rfl⟩ | ⟨o, ho, h⟩
  · exact .inl ⟨layer e.2, List.mem_append_left _ (List.mem_map_of_mem he), e.1, some e.1, rfl⟩
  · rcases mem_ofOperation h with ⟨s, hs, context, hd⟩ | hd
    · refine .inl ⟨s, ?_, context, none, hd⟩
      exact List.mem_append_right _ (List.mem_flatMap.2 ⟨o, ho, hs⟩)
    · exact .inr ⟨o, ho, hd⟩

/-! ### Declarations -/

namespace Api

variable {api : Api α} {options : TypeOptions}

lemma compile_returns (h : ∀ s ∈ api.compiledSchemas, s.IsWritableWithin) {s : Schema α}
    (hs : s.IsWritableWithin) (context : String) (identity : Option String) :
    ∃ e, (TypeExpr.compile api.schemas options s context identity).outcome = .ok e :=
  TypeExpr.compileWithin_returns
    (fun _ he => h _ (List.mem_append_left _ (List.mem_map_of_mem he))) _ hs _ _

/-- Where all names have texts, a description has declarations. -/
theorem declarations_returns (options : TypeOptions)
    (h : ∀ s ∈ api.compiledSchemas, s.IsWritableWithin) :
    ∃ ds, (api.declarations options).outcome = .ok ds := by
  refine Draft.settleAll_returns options [] fun d hd => ?_
  rcases Draft.mem_ofApi hd with ⟨s, hs, context, identity, he⟩ | ⟨o, ho, he⟩
  · rw [he]
    exact compile_returns h (h s hs) context identity
  · rw [he]
    refine Draft.parametersRecord_returns fun p hp context =>
      compile_returns h (h _ ?_) context none
    refine List.mem_append_right _ (List.mem_flatMap.2 ⟨o, ho, ?_⟩)
    exact List.mem_append_left _ (List.mem_append_left _ (List.mem_map_of_mem hp))

/-- The declaration of a reusable schema: under its key, with what the schema compiles to. -/
structure Registers (api : Api α) (options : TypeOptions) (e : String × α) (d : Declaration) :
    Prop where
  name : d.name = e.1
  origin : d.origin = .schema
  expression : (TypeExpr.compile api.schemas options (layer e.2) e.1 (some e.1)).outcome
    = .ok d.expression

/-- The first declarations are those of the reusable schemas, in order and under their keys. -/
theorem declarations_registered (hk : (List.map (·.1) api.schemas).Nodup) {ds : List Declaration}
    (h : (api.declarations options).outcome = .ok ds) :
    ∃ registered rest, ds = registered ++ rest ∧
      List.Forall₂ (Registers api options) api.schemas registered := by
  obtain ⟨hs, hn⟩ := Draft.settleAll_eq_ok.1 h
  have names : (List.map (fun e => Draft.ofSchema api.schemas options e.1 e.2) api.schemas).map
      (·.name) = List.map (·.1) api.schemas := by
    rw [List.map_map]
    rfl
  obtain ⟨rest, hrest⟩ := Draft.givenNames_append options
    ((api.operations.flatMap (Draft.ofOperation api.schemas options)).map (·.name)) hk
  rw [Draft.ofApi, List.map_append, names, hrest] at hn
  let count := List.length api.schemas
  have settled : List.Forall₂ (fun e d => (Draft.ofSchema api.schemas options e.1 e.2).Settles d)
      api.schemas (ds.take count) := by
    rw [← List.forall₂_map_left_iff]
    simpa [Draft.ofApi, count] using List.forall₂_take count hs
  have named : (ds.take count).map (·.name) = List.map (·.1) api.schemas := by
    rw [List.map_take, hn, List.take_left' (by simp [count])]
  refine ⟨ds.take count, ds.drop count, (List.take_append_drop count ds).symm, ?_⟩
  exact (forall₂_and_of_map_eq settled named).imp fun e d ⟨hd, hname⟩ =>
    ⟨hname, hd.origin, hd.expression⟩

end Api

end ApiBridge
