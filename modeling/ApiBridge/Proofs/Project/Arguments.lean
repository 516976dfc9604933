import ApiBridge.Proofs.Occurrences
import ApiBridge.Tool

/-!
# The arguments of a tool

The schema of the input has one property for each name of a parameter, and one for the body. It
lists a name as required once for all parameters of the name, and once more for the body: a name is
listed twice exactly where a parameter that must be given has the name of the body, and the body
must be given too. The route hands every parameter on in the place that it is declared for, so that
input and route have the same arguments.
-/

namespace ApiBridge

namespace Tool

variable {t : Tool} {name : String}

/-! ### Properties of the input -/

/-- The schema of the input has these properties. -/
def HasProperties (t : Tool) (properties : List (String × Value)) : Prop :=
  t.inputSchema.field? "properties" = some (.ofFields properties)

lemma hasProperties_inputProperties (t : Tool) : t.HasProperties t.inputProperties := by
  rfl

/-- The names of the parameters, each where it occurs first. -/
def parameterNames (t : Tool) : List String :=
  firstOccurrences (t.parameters.map (·.name))

lemma mem_parameterNames : name ∈ t.parameterNames ↔ ∃ p ∈ t.parameters, p.name = name := by
  rw [parameterNames, mem_firstOccurrences, List.mem_map]

/-- Parameters come first, each under its name, and then the body. -/
lemma names_inputProperties (t : Tool) : t.inputProperties.map (·.1) =
    t.parameterNames ++
      if t.body.isSome ∧ bodyProperty ∉ t.parameterNames then [bodyProperty] else [] := by
  have parameters : (t.parameters.foldl
      (fun done p => insertName p.name (property p.type p.description) done) []).map (·.1) =
        t.parameterNames :=
    map_fst_foldl_insertName _ _ _
  rw [inputProperties]
  cases h : t.body with
  | none => simpa using parameters
  | some b =>
    simp only [Option.toList_some, List.foldl_cons, List.foldl_nil, map_fst_insertName, parameters,
      Option.isSome_some, true_and]
    by_cases hb : bodyProperty ∈ t.parameterNames
    · simp [hb]
    · simp [hb]

lemma mem_names_inputProperties : name ∈ t.inputProperties.map (·.1) ↔
    (∃ p ∈ t.parameters, p.name = name) ∨ name = bodyProperty ∧ t.body.isSome = true := by
  rw [names_inputProperties, List.mem_append, mem_parameterNames]
  by_cases hb : bodyProperty ∈ t.parameterNames
  · have taken : name = bodyProperty → ∃ p ∈ t.parameters, p.name = name := by
      rintro rfl
      exact mem_parameterNames.1 hb
    simpa [hb] using fun h _ => taken h
  · simp [hb, and_comm]

lemma nodup_names_inputProperties (t : Tool) : (t.inputProperties.map (·.1)).Nodup := by
  have names : t.parameterNames.Nodup := nodup_firstOccurrences _
  rw [names_inputProperties]
  split
  case isTrue h => simpa using names.concat h.2
  case isFalse => simpa using names

/-! ### Required names -/

/-- The schema of the input lists a name as one that must be given. -/
def Requires (t : Tool) (name : String) : Prop :=
  ∃ names, t.inputSchema.field? "required" = some (.list names) ∧ .text name ∈ names

/-- The body must be given. -/
def RequiresBody (t : Tool) : Prop :=
  ∃ b ∈ t.body, b.required = true

instance (t : Tool) : Decidable t.RequiresBody :=
  decidable_of_iff (t.body.any (·.required) = true) (by simp [RequiresBody, Option.any_eq_true])

/-- The names of the parameters that must be given, each where it occurs first. -/
def requiredParameters (t : Tool) : List String :=
  firstOccurrences ((t.parameters.filter (·.required)).map (·.name))

lemma mem_requiredParameters :
    name ∈ t.requiredParameters ↔ ∃ p ∈ t.parameters, p.name = name ∧ p.required = true := by
  rw [requiredParameters, mem_firstOccurrences, List.mem_map]
  constructor
  · rintro ⟨p, hp, rfl⟩
    obtain ⟨hp, hr⟩ := List.mem_filter.1 hp
    exact ⟨p, hp, rfl, hr⟩
  · rintro ⟨p, hp, rfl, hr⟩
    exact ⟨p, List.mem_filter.2 ⟨hp, hr⟩, rfl⟩

/-- Parameters come first, each name once, and then the body, whatever the parameters are called. -/
lemma requiredInput_eq (t : Tool) :
    t.requiredInput = t.requiredParameters ++ if t.RequiresBody then [bodyProperty] else [] := by
  have parameters : (t.parameters.filter (·.required)).foldl
      (fun done p => if done.contains p.name then done else done ++ [p.name]) [] =
        t.requiredParameters := by
    rw [requiredParameters, firstOccurrences, List.foldl_map]
  rw [requiredInput, parameters]
  congr 1
  cases h : t.body with
  | none => simp [RequiresBody, h]
  | some b => by_cases hb : b.required = true <;> simp [RequiresBody, h, hb]

lemma mem_requiredInput_iff : name ∈ t.requiredInput ↔
    (∃ p ∈ t.parameters, p.name = name ∧ p.required = true) ∨
      name = bodyProperty ∧ t.RequiresBody := by
  rw [requiredInput_eq, List.mem_append, mem_requiredParameters]
  by_cases hb : t.RequiresBody
  · simp [hb]
  · simp [hb]

lemma requiredInput_eq_nil_iff : t.requiredInput = [] ↔
    (∀ p ∈ t.parameters, p.required = false) ∧ ∀ b ∈ t.body, b.required = false := by
  rw [List.eq_nil_iff_forall_not_mem]
  constructor
  · intro none_required
    constructor
    · intro p hp
      rw [Bool.eq_false_iff]
      intro hr
      exact none_required p.name (mem_requiredInput_iff.2 (.inl ⟨p, hp, rfl, hr⟩))
    · intro b hb
      rw [Bool.eq_false_iff]
      intro hr
      exact none_required bodyProperty (mem_requiredInput_iff.2 (.inr ⟨rfl, b, hb, hr⟩))
  · rintro ⟨parameters, body⟩ n hn
    rcases mem_requiredInput_iff.1 hn with ⟨p, hp, -, hr⟩ | ⟨-, b, hb, hr⟩
    · simp [parameters p hp] at hr
    · simp [body b hb] at hr

lemma field?_required (t : Tool) : t.inputSchema.field? "required" =
    if t.requiredInput = [] then none else some (.list (t.requiredInput.map .text)) := by
  rw [inputSchema]
  by_cases h : t.requiredInput = []
  · simp only [h, List.isEmpty_nil, ↓reduceIte]
    rfl
  · simp only [List.isEmpty_iff, h, ↓reduceIte]
    rfl

lemma requires_iff : t.Requires name ↔ name ∈ t.requiredInput := by
  rw [Requires, field?_required]
  by_cases h : t.requiredInput = []
  · simp [h]
  · simp [h, Value.text]

/-- The list repeats a name exactly where a parameter and the body both claim the body's name. -/
lemma nodup_requiredInput_iff :
    t.requiredInput.Nodup ↔ ¬(bodyProperty ∈ t.requiredParameters ∧ t.RequiresBody) := by
  have once : t.requiredParameters.Nodup := nodup_firstOccurrences _
  rw [requiredInput_eq]
  by_cases hb : t.RequiresBody
  · rw [if_pos hb, List.nodup_append, and_iff_left hb]
    constructor
    · rintro ⟨-, -, apart⟩ hmem
      exact apart _ hmem _ (List.mem_singleton_self _) rfl
    · intro hmem
      refine ⟨once, List.nodup_singleton _, ?_⟩
      rintro n hn _ hbody rfl
      rw [List.mem_singleton.1 hbody] at hn
      exact hmem hn
  · simp [hb, once]

lemma nodup_filter_requiredInput (t : Tool) :
    (t.requiredInput.filter (· ≠ bodyProperty)).Nodup := by
  have once : t.requiredParameters.Nodup := nodup_firstOccurrences _
  rw [requiredInput_eq, List.filter_append]
  by_cases hb : t.RequiresBody
  · simpa [hb] using once.filter _
  · simpa [hb] using once.filter _

/-- The schema of the input has a list of required names exactly where something must be given. The
list names properties only, and all that must be given. It repeats no name but that of the body, and
that one exactly where a parameter of this name must be given and the body too. -/
theorem required_repeats_iff (t : Tool) :
    (t.inputSchema.field? "required" = none ↔
      (∀ p ∈ t.parameters, p.required = false) ∧ ∀ b ∈ t.body, b.required = false) ∧
    ∀ v, t.inputSchema.field? "required" = some v → ∃ names properties,
      v = .list (names.map .text) ∧ names ≠ [] ∧
      t.HasProperties properties ∧ (∀ n ∈ names, n ∈ properties.map (·.1)) ∧
      (∀ n, n ∈ names ↔ (∃ p ∈ t.parameters, p.name = n ∧ p.required = true) ∨
        n = bodyProperty ∧ ∃ b ∈ t.body, b.required = true) ∧
      (names.filter (· ≠ bodyProperty)).Nodup ∧
      (¬names.Nodup ↔ (∃ p ∈ t.parameters, p.name = bodyProperty ∧ p.required = true) ∧
        ∃ b ∈ t.body, b.required = true) := by
  rw [field?_required]
  constructor
  · rw [← requiredInput_eq_nil_iff]
    by_cases h : t.requiredInput = []
    · simp [h]
    · simp [h]
  · intro v hv
    by_cases h : t.requiredInput = []
    · rw [if_pos h] at hv
      cases hv
    · rw [if_neg h] at hv
      cases hv
      refine ⟨t.requiredInput, t.inputProperties, rfl, h, t.hasProperties_inputProperties, ?_,
        fun n => mem_requiredInput_iff, t.nodup_filter_requiredInput, ?_⟩
      · intro n hn
        rw [mem_names_inputProperties]
        rcases mem_requiredInput_iff.1 hn with ⟨p, hp, hname, -⟩ | ⟨hname, b, hb, -⟩
        · exact .inl ⟨p, hp, hname⟩
        · exact .inr ⟨hname, Option.isSome_iff_exists.2 ⟨b, hb⟩⟩
      · rw [nodup_requiredInput_iff, not_not, mem_requiredParameters]
        rfl

/-- A tool that takes its body twice, as a parameter and as the body. -/
def uploading : Tool where
  name := "upload"
  description := ""
  method := "POST"
  path := "/files"
  parameters := [⟨bodyProperty, "string", "", true, .query⟩]
  body := some ⟨"", true⟩

/-- Its input is required twice under one name. -/
theorem required_repeats_iff_uploading : ∃ names : List String,
    uploading.inputSchema.field? "required" = some (.list (names.map .text)) ∧ ¬names.Nodup := by
  have listed : uploading.inputSchema.field? "required" =
      some (.list [.text bodyProperty, .text bodyProperty]) := rfl
  obtain ⟨names, _, hv, -, -, -, -, -, repeated⟩ := (required_repeats_iff uploading).2 _ listed
  refine ⟨names, hv ▸ listed, repeated.2 ⟨?_, ?_⟩⟩
  · exact ⟨_, List.mem_singleton_self _, rfl, rfl⟩
  · exact ⟨_, rfl, rfl⟩

end Tool

/-! ### The route -/

/-- Elements sorted by a key, those of one key in order, are the same elements. -/
lemma perm_flatMap_filter {β γ : Type} [DecidableEq γ] (key : β → γ) {keys : List γ}
    (hk : keys.Nodup) {xs : List β} (hxs : ∀ x ∈ xs, key x ∈ keys) :
    (keys.flatMap fun k => xs.filter (key · = k)).Perm xs := by
  induction keys generalizing xs with
  | nil =>
    cases xs with
    | nil => exact .nil
    | cons x xs => exact absurd (hxs x (by simp)) List.not_mem_nil
  | cons k keys ih =>
    obtain ⟨hk, hkeys⟩ := List.nodup_cons.1 hk
    let others := xs.filter fun x => !decide (key x = k)
    have sorted : (keys.flatMap fun j => others.filter (key · = j)).Perm others := by
      refine ih hkeys ?_
      intro x hx
      obtain ⟨hx, hne⟩ := List.mem_filter.1 hx
      rcases List.mem_cons.1 (hxs x hx) with h | h
      · simp [h] at hne
      · exact h
    have same : ∀ j ∈ keys, others.filter (key · = j) = xs.filter (key · = j) := by
      intro j hj
      rw [List.filter_filter]
      apply List.filter_congr
      intro x _
      have hne : j ≠ k := fun h => hk (h ▸ hj)
      by_cases h : key x = j
      · simp [h, hne]
      · simp [h]
    rw [List.flatMap_cons, ← List.flatMap_congr same]
    exact (sorted.append_left _).trans (List.filter_append_perm _ xs)

namespace Operation

variable {α : Type}

/-- The names of the parameters that are declared for a location. -/
def namesAt (o : Operation α) (location : ParameterLocation) : List String :=
  (o.parameters.filter (·.location = location)).map (·.name)

/-- The four locations have all parameters between them. -/
lemma perm_namesAt (o : Operation α) :
    (o.namesAt .path ++ o.namesAt .query ++ o.namesAt .header ++ o.namesAt .cookie).Perm
      (o.parameters.map (·.name)) := by
  let locations : List ParameterLocation := [.path, .query, .header, .cookie]
  have sorted : (locations.flatMap fun l => o.parameters.filter (·.location = l)).Perm
      o.parameters := by
    apply perm_flatMap_filter Parameter.location (by decide)
    intro p _
    cases p.location with
    | _ => simp [locations]
  simpa [namesAt, locations] using sorted.map (·.name)

end Operation

namespace Tool

variable {α : Type} [Layered α]

lemma namesAt_ofOperation (o : Operation α) (location : ParameterLocation) :
    (ofOperation o).namesAt location = o.namesAt location := by
  rw [namesAt, Operation.namesAt, ofOperation, List.filter_map, List.map_map]
  rfl

/-- The route of an operation hands on each parameter once, in its own place and in order, and tells
whether there is a body. The properties of the input are the names of these parameters, and the name
of the body where there is one or where a parameter has that name. -/
theorem route_covers_input (o : Operation α) : ∃ path query header cookie hasBody properties,
    (ofOperation o).route.field? "pathParams" = some (.list (path.map .text)) ∧
    (ofOperation o).route.field? "queryParams" = some (.list (query.map .text)) ∧
    (ofOperation o).route.field? "headerParams" = some (.list (header.map .text)) ∧
    (ofOperation o).route.field? "cookieParams" = some (.list (cookie.map .text)) ∧
    (ofOperation o).route.field? "hasBody" = some (.bool hasBody) ∧
    path = o.namesAt .path ∧ query = o.namesAt .query ∧
    header = o.namesAt .header ∧ cookie = o.namesAt .cookie ∧
    hasBody = o.requestBody.isSome ∧
    (path ++ query ++ header ++ cookie).Perm (o.parameters.map (·.name)) ∧
    (ofOperation o).HasProperties properties ∧ (properties.map (·.1)).Nodup ∧
    (∀ n, n ≠ bodyProperty →
      (n ∈ properties.map (·.1) ↔ n ∈ path ++ query ++ header ++ cookie)) ∧
    (bodyProperty ∈ properties.map (·.1) ↔
      hasBody = true ∨ bodyProperty ∈ path ++ query ++ header ++ cookie) := by
  have body : (ofOperation o).body.isSome = o.requestBody.isSome := by
    rw [ofOperation, Option.isSome_map]
  have names (n : String) : (∃ p ∈ (ofOperation o).parameters, p.name = n) ↔
      n ∈ o.namesAt .path ++ o.namesAt .query ++ o.namesAt .header ++ o.namesAt .cookie := by
    rw [(o.perm_namesAt).mem_iff]
    simp [ofOperation, ofParameter]
  refine ⟨_, _, _, _, _, _, ?_, ?_, ?_, ?_, ?_, rfl, rfl, rfl, rfl, rfl, o.perm_namesAt,
    hasProperties_inputProperties _, nodup_names_inputProperties _, ?_, ?_⟩
  · rw [← namesAt_ofOperation]
    rfl
  · rw [← namesAt_ofOperation]
    rfl
  · rw [← namesAt_ofOperation]
    rfl
  · rw [← namesAt_ofOperation]
    rfl
  · rw [← body]
    rfl
  · intro n hn
    rw [mem_names_inputProperties, names, or_iff_left fun h => hn h.1]
  · rw [mem_names_inputProperties, names, body, or_comm, and_iff_right rfl]

end Tool

end ApiBridge
