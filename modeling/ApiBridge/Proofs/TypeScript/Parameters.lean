import ApiBridge.Proofs.Project.Arguments
import ApiBridge.Proofs.TypeScript.Declared

/-!
# Parameters as a record and as the input of a tool

The parameters of an operation are declared as a record, and they are properties of the input of its
tool. A name that several parameters have is taken once, at its first place. The record has the last
parameter of the name; the input requires the name as soon as one of its parameters is required.
-/

namespace ApiBridge

namespace Operation

variable {α : Type}

/-- The names of the parameters, each where it occurs first. -/
def parameterNames (o : Operation α) : List String :=
  firstOccurrences (o.parameters.map (·.name))

/-- A parameter without another one of its name after it. -/
def IsLastNamed (o : Operation α) (p : Parameter α) : Prop :=
  ∃ before after, o.parameters = before ++ p :: after ∧ ∀ q ∈ after, q.name ≠ p.name

lemma IsLastNamed.mem {o : Operation α} {p : Parameter α} (h : o.IsLastNamed p) :
    p ∈ o.parameters := by
  obtain ⟨before, after, hsplit, -⟩ := h
  simp [hsplit]

lemma IsLastNamed.unique {o : Operation α} {p q : Parameter α} (hp : o.IsLastNamed p)
    (hq : o.IsLastNamed q) (h : p.name = q.name) : p = q := by
  obtain ⟨before, after, hsplit, hlast⟩ := hp
  obtain ⟨before', after', hsplit', hlast'⟩ := hq
  have heq : before ++ p :: after = before' ++ q :: after' := hsplit ▸ hsplit'
  rcases List.append_eq_append_iff.1 heq with ⟨as, -, htail⟩ | ⟨as, -, htail⟩
  · cases as with
    | nil => exact (List.cons.inj htail).1
    | cons r as =>
      obtain ⟨-, rfl⟩ := List.cons.inj htail
      exact absurd h.symm (hlast q (by simp))
  · cases as with
    | nil => exact (List.cons.inj htail).1.symm
    | cons r as =>
      obtain ⟨-, rfl⟩ := List.cons.inj htail
      exact absurd h (hlast' p (by simp))

end Operation

/-! ### The input of a tool -/

namespace Tool

variable {α : Type} [Layered α]

/-- A tool has the parameters of its operation. -/
lemma parameterNames_ofOperation (o : Operation α) :
    (ofOperation o).parameterNames = o.parameterNames := by
  rw [parameterNames, Operation.parameterNames, ofOperation, List.map_map]
  rfl

/-- Parameters come first, each under its name, and then the body. -/
lemma map_fst_inputProperties (o : Operation α) :
    (ofOperation o).inputProperties.map (·.1) = o.parameterNames ++
      if o.requestBody.isSome ∧ bodyProperty ∉ o.parameterNames then [bodyProperty] else [] := by
  rw [names_inputProperties, parameterNames_ofOperation, ofOperation, Option.isSome_map]

/-- Required are the names that a required parameter has, and the body where it is required. -/
lemma mem_requiredInput {o : Operation α} {name : String} :
    name ∈ (ofOperation o).requiredInput ↔ (∃ p ∈ o.parameters, p.name = name ∧ p.required) ∨
      name = bodyProperty ∧ ∃ b, o.requestBody = some b ∧ b.required := by
  rw [mem_requiredInput_iff]
  simp [ofOperation, ofParameter, RequiresBody]

end Tool

/-! ### The record of parameters -/

namespace Draft

variable {α : Type} [Layered α]

/-- The members of a record have the names of the parameters, and each is as the last parameter of
its name says. -/
structure IsParametersRecord (registry : Registry α) (options : TypeOptions) (o : Operation α)
    (members : List (Property TypeExpr)) : Prop where
  names : members.map (·.name) = o.parameterNames
  last : ∀ m ∈ members, ∃ p, o.IsLastNamed p ∧ ParameterMember registry options p m

lemma map_name_mergeMembers (members : List (Property TypeExpr)) :
    (mergeMembers members).map (·.name) = firstOccurrences (members.map (·.name)) := by
  have keyed : ∀ e ∈ members.foldl (fun done m => insertName m.name m done) [], e.2.name = e.1 := by
    intro e he
    obtain ⟨_, m, _, -, rfl, -⟩ := mem_foldl_insertName.1 he
    rfl
  have names := map_fst_foldl_insertName (·.name) id members
  rw [← names, mergeMembers, List.map_map]
  exact List.map_congr_left keyed

lemma isParametersRecord_of_outcome {registry : Registry α} {options : TypeOptions}
    {o : Operation α} {e : TypeExpr}
    (h : (parametersRecord registry options o.parameters).outcome = .ok e) :
    ∃ members, e = .record members ∧ IsParametersRecord registry options o members := by
  obtain ⟨members, hm, rfl⟩ := parametersRecord_eq_ok.1 h
  refine ⟨_, rfl, ?_, fun m hmem => ?_⟩
  · have names : members.map (·.name) = o.parameters.map (·.name) :=
      map_eq_of_forall₂ (hm.imp fun _ _ h => h.name)
    rw [map_name_mergeMembers, names, Operation.parameterNames]
  · obtain ⟨entry, he, rfl⟩ := List.mem_map.1 hmem
    obtain ⟨before, m, after, rfl, rfl, hlast⟩ := mem_foldl_insertName.1 he
    have rest := List.forall₂_drop_append o.parameters before (m :: after) hm
    obtain ⟨p, ps, hp, hps, hdrop⟩ := List.forall₂_cons_right_iff.1 rest
    refine ⟨p, ⟨o.parameters.take before.length, ps, ?_, fun q hq => ?_⟩, hp⟩
    · rw [← hdrop, List.take_append_drop]
    · have names := map_eq_of_forall₂ (hps.imp fun _ _ h => h.name)
      have named : q.name ∈ after.map (·.name) := names ▸ List.mem_map_of_mem hq
      obtain ⟨m', hm', hname⟩ := List.mem_map.1 named
      rw [← hname, ← hp.name]
      exact hlast m' hm'

end Draft

/-! ### Declarations and tools -/

namespace Api

variable {α : Type} [Layered α] {api : Api α} {options : TypeOptions}

/-- The drafts of an operation come after those of the reusable schemas and of the operations before
it, the record of its parameters first. -/
lemma ofApi_eq_append (options : TypeOptions) {before after : List (Operation α)} {o : Operation α}
    (ho : api.operations = before ++ o :: after) (hp : o.parameters ≠ []) :
    ∃ rest, Draft.ofApi options api = Draft.ofApi options { api with operations := before } ++
      ⟨Name.ofParameters o.operationId, Draft.parametersRecord api.schemas options o.parameters,
        .parameters⟩ :: rest := by
  simp only [Draft.ofApi, ho, List.flatMap_append, List.flatMap_cons, Draft.ofOperation,
    List.isEmpty_iff, hp, ↓reduceIte, List.append_assoc, List.singleton_append]
  exact ⟨_, rfl⟩

/-- What is declared for the parameters of an operation. -/
lemma exists_parameters_declaration {ds : List Declaration}
    (h : (api.declarations options).outcome = .ok ds) {before after : List (Operation α)}
    {o : Operation α} (ho : api.operations = before ++ o :: after) (hp : o.parameters ≠ []) :
    ∃ d, ds[(Draft.ofApi options { api with operations := before }).length]? = some d ∧
      d.origin = .parameters ∧
      (options.dedupeNames = false → d.name = Name.ofParameters o.operationId) ∧
      (Draft.parametersRecord api.schemas options o.parameters).outcome = .ok d.expression := by
  obtain ⟨settled, names⟩ := Draft.settleAll_eq_ok.1 h
  obtain ⟨rest, split⟩ := ofApi_eq_append options ho hp
  rw [split] at settled names
  obtain ⟨d, ds', hd, -, hdrop⟩ :=
    List.forall₂_cons_right_iff.1 (List.forall₂_drop_append ds _ _ settled.flip)
  have found : ds[(Draft.ofApi options { api with operations := before }).length]? = some d := by
    rw [← List.head?_drop, hdrop, List.head?_cons]
  refine ⟨d, found, hd.origin, fun hoff => ?_, hd.expression⟩
  rw [Draft.givenNames, hoff, if_neg Bool.false_ne_true] at names
  have named := congrArg (·[(Draft.ofApi options { api with operations := before }).length]?) names
  simpa [found] using named

/-- The declared record of parameters and the input of the tool have the same names, in order. The
record has the last parameter of each name, and the input requires what any of them requires: both
agree exactly when the last one is required where one is. -/
theorem parameters_agree_iff (api : Api α) (options : TypeOptions) :
    ((∀ s ∈ api.compiledSchemas, s.IsWritableWithin) →
      ∃ ds, (api.declarations options).outcome = .ok ds) ∧
    ∀ ds, (api.declarations options).outcome = .ok ds →
      ∀ before o after, api.operations = before ++ o :: after → o.parameters ≠ [] →
      ∃ d members properties,
        ds[(Draft.ofApi options { api with operations := before }).length]? = some d ∧
        d.origin = .parameters ∧
        (options.dedupeNames = false → d.name = Name.ofParameters o.operationId) ∧
        d.expression = .record members ∧
        (Tool.ofOperation o).HasProperties properties ∧
        members.map (·.name) = o.parameterNames ∧
        properties.map (·.1) = members.map (·.name) ++
          (if o.requestBody.isSome ∧ Tool.bodyProperty ∉ members.map (·.name)
            then [Tool.bodyProperty] else []) ∧
        (∀ m ∈ members, ∃ p, o.IsLastNamed p ∧ p.name = m.name ∧
          (m.optional = false ↔ p.required = true)) ∧
        (∀ m ∈ members, m.name ≠ Tool.bodyProperty →
          ((Tool.ofOperation o).Requires m.name ↔
            ∃ p ∈ o.parameters, p.name = m.name ∧ p.required = true)) ∧
        ((∀ m ∈ members, m.name ≠ Tool.bodyProperty →
            (m.optional = false ↔ (Tool.ofOperation o).Requires m.name)) ↔
          ∀ p ∈ o.parameters, ∀ q, o.IsLastNamed q → q.name = p.name →
            p.name ≠ Tool.bodyProperty → p.required = true → q.required = true) := by
  refine ⟨declarations_returns options, fun ds hds before o after ho hp => ?_⟩
  obtain ⟨d, found, origin, name, record⟩ := exists_parameters_declaration hds ho hp
  obtain ⟨members, hmembers, hrecord⟩ := Draft.isParametersRecord_of_outcome record
  have last : ∀ m ∈ members, ∃ p, o.IsLastNamed p ∧ p.name = m.name ∧
      (m.optional = false ↔ p.required = true) := fun m hm => by
    obtain ⟨p, hp, hmember⟩ := hrecord.last m hm
    exact ⟨p, hp, hmember.name.symm, by rw [hmember.optional, Bool.not_eq_false']⟩
  have required : ∀ m ∈ members, m.name ≠ Tool.bodyProperty →
      ((Tool.ofOperation o).Requires m.name ↔
        ∃ p ∈ o.parameters, p.name = m.name ∧ p.required = true) := fun m _ hbody => by
    rw [Tool.requires_iff, Tool.mem_requiredInput, or_iff_left fun h => hbody h.1]
  refine ⟨d, members, _, found, origin, name, hmembers,
    Tool.hasProperties_inputProperties _, hrecord.names, ?_, last, required, ?_⟩
  · rw [Tool.map_fst_inputProperties, hrecord.names]
  constructor
  · intro agree p hp q hq hname hbody hreq
    have mem : p.name ∈ members.map (·.name) := by
      rw [hrecord.names, Operation.parameterNames, mem_firstOccurrences]
      exact List.mem_map_of_mem hp
    obtain ⟨m, hm, hmname⟩ := List.mem_map.1 mem
    obtain ⟨q', hq', hq'name, hoptional⟩ := last m hm
    obtain rfl := hq.unique hq' (by rw [hname, hq'name, hmname])
    rw [← hmname] at hbody
    rw [← hoptional, agree m hm hbody, required m hm hbody]
    exact ⟨p, hp, hmname.symm, hreq⟩
  · intro last_required m hm hbody
    obtain ⟨q, hq, hqname, hoptional⟩ := last m hm
    rw [hoptional, required m hm hbody]
    constructor
    · exact fun hreq => ⟨q, hq.mem, hqname, hreq⟩
    · rintro ⟨p, hp, hpname, hreq⟩
      exact last_required p hp q hq (hqname.trans hpname.symm) (hpname ▸ hbody) hreq

/-- A query with two parameters of one name: a required one first, and then one that is not. -/
def repeatedQuery : Operation Value :=
  ⟨"/pets", .get, "listPets", none, none,
    [⟨"id", .path, true, none, none⟩, ⟨"id", .query, false, none, none⟩], none, []⟩

/-- The record says that the name may be left out, and the input requires it. -/
theorem parameters_agree_iff_repeated : ∃ ds d members,
    (declarations {} ⟨default, [], [repeatedQuery], [], "3.0.0"⟩).outcome = .ok ds ∧
    ds[0]? = some d ∧ d.expression = .record members ∧ members.map (·.name) = ["id"] ∧
    ¬∀ m ∈ members, m.name ≠ Tool.bodyProperty →
      (m.optional = false ↔ (Tool.ofOperation repeatedQuery).Requires m.name) := by
  have declared : (declarations {} ⟨default, [], [repeatedQuery], [], "3.0.0"⟩).outcome =
      .ok [⟨"ListPetsParams", .record, .record [⟨"id", true, .any⟩], .parameters⟩] := rfl
  obtain ⟨d, members, _, found, -, -, record, -, names, -, -, -, agree⟩ :=
    (parameters_agree_iff ⟨default, [], [repeatedQuery], [], "3.0.0"⟩ {}).2 _ declared
      [] repeatedQuery [] rfl (by simp [repeatedQuery])
  refine ⟨_, d, members, declared, found, record, names, fun h => ?_⟩
  have last : repeatedQuery.IsLastNamed ⟨"id", .query, false, none, none⟩ :=
    ⟨[⟨"id", .path, true, none, none⟩], [], rfl, by simp⟩
  have required := agree.1 h ⟨"id", .path, true, none, none⟩ (by simp [repeatedQuery]) _ last rfl
    (by decide) rfl
  exact absurd required (by decide)

end Api

end ApiBridge
