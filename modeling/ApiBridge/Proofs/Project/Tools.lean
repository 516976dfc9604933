import ApiBridge.Proofs.Project.Server

/-!
# Whose data a tool is described by

A server lists a tool for each operation, with the name and the description of the operation. Its
input schema and its route are those of the last tool of that name, so that every operation is
described by its own data exactly when tools of one name agree.
-/

namespace ApiBridge

/-! ### Plain values -/

namespace Json

/-- Entries with different names and plain values. -/
structure PlainFields (fields : List (String × Value)) : Prop where
  names : (fields.map (·.1)).Nodup
  values : ∀ f ∈ fields, IsPlain f.2

lemma isPlain_texts (texts : List String) : IsPlain (.list (texts.map .text)) := by
  refine .list fun v hv => ?_
  obtain ⟨s, -, rfl⟩ := List.mem_map.1 hv
  exact .text s

lemma PlainFields.insertName {fields : List (String × Value)} (h : PlainFields fields)
    (name : String) {v : Value} (hv : IsPlain v) : PlainFields (insertName name v fields) := by
  refine ⟨nodup_insertName h.names, fun f hf => ?_⟩
  rcases (mem_insertName h.names).1 hf with rfl | ⟨-, hf⟩
  · exact hv
  · exact h.values f hf

lemma PlainFields.foldl_insertName {β : Type} (name : β → String) (value : β → Value)
    (hv : ∀ x, IsPlain (value x)) (xs : List β) {fields : List (String × Value)}
    (h : PlainFields fields) :
    PlainFields (xs.foldl (fun done x => ApiBridge.insertName (name x) (value x) done) fields) := by
  induction xs generalizing fields with
  | nil => exact h
  | cons x xs ih => exact ih (h.insertName (name x) (hv x))

end Json

namespace Tool

lemma isPlain_property (type description : String) : Json.IsPlain (property type description) := by
  refine .map (by simp) ?_
  simp only [List.forall_mem_cons, List.not_mem_nil, false_implies, implies_true, and_true]
  exact ⟨.text type, .text description⟩

lemma plainFields_inputProperties (t : Tool) : Json.PlainFields t.inputProperties := by
  have parameters := Json.PlainFields.foldl_insertName (·.name)
    (fun p => property p.type p.description) (fun p => isPlain_property p.type p.description)
    t.parameters (⟨List.nodup_nil, by simp⟩ : Json.PlainFields [])
  exact Json.PlainFields.foldl_insertName (fun _ => bodyProperty)
    (fun b => property "object" b.description) (fun b => isPlain_property "object" b.description)
    t.body.toList parameters

lemma isPlain_inputSchema (t : Tool) : Json.IsPlain t.inputSchema := by
  have properties : Json.IsPlain (.ofFields t.inputProperties) :=
    .map t.plainFields_inputProperties.names t.plainFields_inputProperties.values
  unfold inputSchema
  by_cases h : t.requiredInput.isEmpty = true
  · simp only [h, ↓reduceIte, List.append_nil]
    refine .map (by simp) ?_
    simp only [List.forall_mem_cons, List.not_mem_nil, false_implies, implies_true, and_true]
    exact ⟨.text "object", properties⟩
  · simp only [h, Bool.false_eq_true, ↓reduceIte]
    refine .map (by simp) ?_
    simp only [List.cons_append, List.nil_append, List.forall_mem_cons, List.not_mem_nil,
      false_implies, implies_true, and_true]
    exact ⟨.text "object", properties, Json.isPlain_texts t.requiredInput⟩

lemma isPlain_route (t : Tool) : Json.IsPlain t.route := by
  refine .map (by simp) ?_
  simp only [List.forall_mem_cons, List.not_mem_nil, false_implies, implies_true, and_true]
  exact ⟨.text _, .text _, Json.isPlain_texts _, Json.isPlain_texts _, Json.isPlain_texts _,
    Json.isPlain_texts _, .bool _⟩

/-! ### Tools of one name -/

/-- Among tools, the last one with the name of a tool. -/
def IsLastNamed (tools : List Tool) (t last : Tool) : Prop :=
  last.name = t.name ∧ ∃ before after, tools = before ++ last :: after ∧ ∀ u ∈ after, u.name ≠ t.name

lemma find?_reverse_eq {tools : List Tool} {t : Tool} (h : t ∈ tools) :
    tools.reverse.find? (·.name = t.name) = some (Blueprint.lastNamed tools t) := by
  have found : (tools.reverse.find? (·.name = t.name)).isSome := by
    rw [List.find?_isSome]
    exact ⟨t, List.mem_reverse.2 h, by simp⟩
  obtain ⟨last, hlast⟩ := Option.isSome_iff_exists.1 found
  rw [Blueprint.lastNamed, hlast, Option.getD_some]

lemma isLastNamed_lastNamed {tools : List Tool} {t : Tool} (h : t ∈ tools) :
    IsLastNamed tools t (Blueprint.lastNamed tools t) := by
  obtain ⟨hname, as, bs, htools, hbefore⟩ := List.find?_eq_some_iff_append.1 (find?_reverse_eq h)
  refine ⟨by simpa using hname, bs.reverse, as.reverse, ?_, fun u hu => ?_⟩
  · simpa using congrArg List.reverse htools
  · simpa using hbefore u (List.mem_reverse.1 hu)

lemma IsLastNamed.mem {tools : List Tool} {t last : Tool} (h : IsLastNamed tools t last) :
    last ∈ tools := by
  obtain ⟨-, before, after, rfl, -⟩ := h
  simp

/-- Tools of one name have the same last one. -/
lemma lastNamed_eq {tools : List Tool} {t u : Tool} (ht : t ∈ tools) (hu : u ∈ tools)
    (hn : t.name = u.name) : Blueprint.lastNamed tools t = Blueprint.lastNamed tools u := by
  have found := find?_reverse_eq ht
  rw [hn, find?_reverse_eq hu, Option.some.injEq] at found
  exact found.symm

end Tool

/-! ### Descriptions -/

/-- Each tool is offered under its name and with its description, and with the input schema and the
route of a tool that is chosen for it. -/
structure Offer.Describes (offer : Offer) (tools : List Tool) (chosen : Tool → Tool → Prop) :
    Prop where
  listed : List.Forall₂ (fun t l => l.name = t.name ∧ l.description = t.description ∧
    ∃ u, chosen t u ∧ l.inputSchema = u.inputSchema) tools offer.tools
  routed : List.Forall₂ (fun t r => r.1 = t.name ∧ ∃ u, chosen t u ∧ r.2 = u.route) tools
    offer.routes

lemma Offer.describes_ofTools_iff {tools : List Tool} {source : Tool → Tool}
    {chosen : Tool → Tool → Prop} : (ofTools tools source).Describes tools chosen ↔
      ∀ t ∈ tools, (∃ u, chosen t u ∧ (source t).inputSchema = u.inputSchema) ∧
        ∃ u, chosen t u ∧ (source t).route = u.route := by
  constructor
  · rintro ⟨hl, hr⟩ t ht
    simp only [ofTools, List.forall₂_map_right_iff, List.forall₂_same] at hl hr
    exact ⟨(hl t ht).2.2, (hr t ht).2⟩
  · intro h
    refine ⟨?_, ?_⟩
    · simp only [ofTools, List.forall₂_map_right_iff, List.forall₂_same]
      exact fun t ht => ⟨trivial, trivial, (h t ht).1⟩
    · simp only [ofTools, List.forall₂_map_right_iff, List.forall₂_same]
      exact fun t ht => ⟨trivial, (h t ht).2⟩

namespace Project

variable {α : Type} [Layered α]

lemma ofApi_eq_ok {directory : Path} {api : Api α} {settings : Settings} {p : Project}
    (h : (ofApi directory api settings).outcome = .ok p) :
    p.directory = directory ∧ p.blueprint = blueprintOf api settings := by
  simp only [ofApi, Attempt.outcome_bind, Attempt.outcome_pure, bind_eq_ok_iff,
    Except.ok.injEq] at h
  obtain ⟨_, -, rfl⟩ := h
  exact ⟨rfl, rfl⟩

/-- The server that is generated offers every operation as a tool, with the data of the last tool of
its name, and hence with its own data exactly where tools of one name agree. -/
theorem server_describes_own_iff (directory : Path) (api : Api α) (settings : Settings) :
    ((∀ s ∈ api.compiledSchemas, s.IsWritableWithin) →
      ∃ p, (ofApi directory api settings).outcome = .ok p) ∧
    ∀ p, (ofApi directory api settings).outcome = .ok p → ∃ text offer,
      p.files.head? = some ((directory.child "src").child "index.ts", .ok text) ∧
      Offer.read? text = some offer ∧ offer.Describes api.tools (Tool.IsLastNamed api.tools) ∧
      (offer.Describes api.tools Eq ↔ ∀ t ∈ api.tools, ∀ u ∈ api.tools, t.name = u.name →
        t.inputSchema = u.inputSchema ∧ t.route = u.route) := by
  constructor
  · intro h
    obtain ⟨ds, hds⟩ := Api.declarations_returns settings.types h
    exact ⟨_, by simp only [ofApi, Attempt.outcome_bind, hds]; rfl⟩
  intro p hp
  obtain ⟨hd, hb⟩ := ofApi_eq_ok hp
  refine ⟨p.blueprint.serverText, _, by rw [← hd]; rfl,
    Offer.read?_serverText p.blueprint (fun t => Tool.isPlain_route _)
      fun t => Tool.isPlain_inputSchema _, ?_⟩
  have tools : p.blueprint.tools = api.tools := by rw [hb]; rfl
  rw [tools]
  have last (t : Tool) (ht : t ∈ api.tools) := Tool.isLastNamed_lastNamed ht
  refine ⟨Offer.describes_ofTools_iff.2 fun t ht => ⟨⟨_, last t ht, rfl⟩, _, last t ht, rfl⟩, ?_⟩
  refine Offer.describes_ofTools_iff.trans ⟨fun h t ht u hu hn => ?_, fun h t ht => ?_⟩
  · obtain ⟨⟨_, rfl, schema⟩, _, rfl, route⟩ := h t ht
    obtain ⟨⟨_, rfl, schema'⟩, _, rfl, route'⟩ := h u hu
    rw [Tool.lastNamed_eq ht hu hn] at schema route
    exact ⟨schema.symm.trans schema', route.symm.trans route'⟩
  · obtain ⟨schema, route⟩ := h _ (last t ht).mem t ht (last t ht).1
    exact ⟨⟨t, rfl, schema⟩, t, rfl, route⟩

/-- Two queries whose derived operation ids are the same, since ids keep only letters and digits. -/
def twins : Api Value where
  info := default
  servers := []
  operations := [⟨"/a-b", .get, "getab", none, none, [⟨"x", .query, true, none, none⟩], none, []⟩,
    ⟨"/ab", .get, "getab", none, none, [], none, []⟩]
  schemas := []
  openapiVersion := "3.0.0"

/-- The first of the two is not offered with its own input schema and route. -/
theorem server_describes_own_iff_twins : ∃ p text offer,
    (ofApi ⟨"", ["out"]⟩ twins {}).outcome = .ok p ∧
    p.files.head? = some (⟨"", ["out", "src", "index.ts"]⟩, .ok text) ∧
    Offer.read? text = some offer ∧ offer.Describes twins.tools (Tool.IsLastNamed twins.tools) ∧
    ¬offer.Describes twins.tools Eq := by
  obtain ⟨p, hp⟩ : ∃ p, (ofApi ⟨"", ["out"]⟩ twins {}).outcome = .ok p := ⟨_, rfl⟩
  obtain ⟨text, offer, hfile, hread, hlast, hown⟩ := (server_describes_own_iff _ twins {}).2 p hp
  refine ⟨p, text, offer, hp, hfile, hread, hlast, fun h => ?_⟩
  obtain ⟨-, route⟩ := hown.1 h _ (.head _) _ (.tail _ (.head _)) rfl
  have paths := congrArg (fun v => (v.field? "path").bind Value.text?) route
  exact absurd paths (by decide)

end Project

end ApiBridge
