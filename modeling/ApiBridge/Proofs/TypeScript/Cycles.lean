import ApiBridge.Proofs.TypeScript.Descent

/-!
# References that are kept

Where references are expanded, a reference is kept only to a registered schema that is being expanded
already. Such a schema is reached from itself, and the reference stands inside what the schema was
expanded to, or in the declaration of the schema.
-/

namespace ApiBridge

open TypeExpr (Position)

variable {α : Type} [Layered α]

/-! ### References of an expression -/

namespace TypeExpr

variable {registry : Registry α} {options : TypeOptions} {fuel : Nat} {s : Schema α}
  {context : String} {opened : List String} {e : TypeExpr} {place : Position} {n : String}

/-- Every reference of an expression is reached from the schema that it is compiled from: by
induction on the levels left. -/
lemma reaches_of_reference
    (h : (compileWithin registry options fuel s context opened).outcome = .ok e)
    (hn : e.at? place = some (.reference n)) : s.Reaches registry n := by
  induction fuel generalizing s context opened e place with
  | zero =>
    rw [compileWithin_zero] at h
    cases h
    cases ((at?_eq_some_of_isLeaf rfl).1 hn).2
  | succ fuel ih =>
    have compiled := compileWithin_succ.1 h
    clear h
    cases compiled with
    | literals | string | number | boolean | anySequence | mapping | nameless | unknown | any =>
      cases ((at?_eq_some_of_isLeaf rfl).1 hn).2
    | sequence ht hi h =>
      cases place with
      | nil => simp at hn
      | cons b place => exact .part (.items ht hi) (ih h (at?_sequence_cons.1 hn).2)
    | record ht hp _ h =>
      cases place with
      | nil => simp at hn
      | cons b place =>
        obtain ⟨index, m, -, hm, hn⟩ := at?_record_cons.1 hn
        obtain ⟨p, hp', hpm⟩ := exists_getElem?_left h hm
        exact .part (.property ht hp hp') (ih hpm.type hn)
    | named ht hr hne | registered ht hr hne =>
      obtain ⟨-, hn⟩ := at?_reference_eq_some.1 hn
      cases hn
      exact .reference ⟨ht, ⟨_, hr, rfl⟩, hne⟩
    | expanded ht hr hne _ hl _ h => exact .entry ⟨ht, ⟨_, hr, rfl⟩, hne⟩ hl (ih h hn)

/-- A part of an expression is what a registered schema was expanded to, at a reference to its name:
the compiler has come from a site to the reference, which stands at the place of the part. -/
inductive Expands (registry : Registry α) (options : TypeOptions) (x : Site α) (n : String) :
    Position → TypeExpr → Prop
  | intro {place : Position} {f : TypeExpr} {depth fuel : Nat} {s : Schema α} {a : α}
      {opened : List String} (hv : x.Visits registry .inline depth place ⟨s, opened⟩)
      (hs : s.RefersTo n) (hl : registry.lookup n = some a) (ho : n ∉ opened)
      (hf : (compileWithin registry options fuel (layer a) n (n :: opened)).outcome = .ok f) :
      Expands registry options x n place f

lemma Expands.step {x y : Site α} {place rest : Position} {f : TypeExpr}
    (hs : Site.Step registry .inline x place y) (h : Expands registry options y n rest f) :
    Expands registry options x n (place ++ rest) f := by
  obtain ⟨hv, hr, hl, ho, hf⟩ := h
  exact ⟨.step hs hv, hr, hl, ho, hf⟩

/-- A reference that is kept is to a schema that was being expanded from the start, or stands inside
what the schema was expanded to: by induction on the levels left. -/
lemma exists_expands_of_reference (hm : options.referenceMode = .inline)
    (h : (compileWithin registry options fuel s context opened).outcome = .ok e)
    (hn : e.at? place = some (.reference n)) :
    n ∈ opened ∨ ∃ before after f, place = before ++ after ∧ e.at? before = some f ∧
      f.at? after = some (.reference n) ∧ Expands registry options ⟨s, opened⟩ n before f := by
  induction fuel generalizing s context opened e place with
  | zero =>
    rw [compileWithin_zero] at h
    cases h
    cases ((at?_eq_some_of_isLeaf rfl).1 hn).2
  | succ fuel ih =>
    have compiled := compileWithin_succ.1 h
    clear h
    cases compiled with
    | literals | string | number | boolean | anySequence | mapping | nameless | unknown | any =>
      cases ((at?_eq_some_of_isLeaf rfl).1 hn).2
    | sequence ht hi h =>
      cases place with
      | nil => simp at hn
      | cons b place =>
        obtain ⟨rfl, hn⟩ := at?_sequence_cons.1 hn
        refine (ih h hn).imp_right ?_
        rintro ⟨before, after, f, rfl, hbefore, hafter, hx⟩
        exact ⟨.item :: before, after, f, rfl, hbefore, hafter, hx.step (.part (.items ht hi))⟩
    | record ht hp _ h =>
      cases place with
      | nil => simp at hn
      | cons b place =>
        obtain ⟨index, m, rfl, hm, hn⟩ := at?_record_cons.1 hn
        obtain ⟨p, hp', hpm⟩ := exists_getElem?_left h hm
        refine (ih hpm.type hn).imp_right ?_
        rintro ⟨before, after, f, rfl, hbefore, hafter, hx⟩
        exact ⟨.member index :: before, after, f, rfl, at?_record_cons.2 ⟨index, m, rfl, hm, hbefore⟩,
          hafter, hx.step (.part (.property ht hp hp'))⟩
    | named _ _ _ hname => simp [hm] at hname
    | registered _ _ _ _ hr =>
      obtain ⟨-, hn⟩ := at?_reference_eq_some.1 hn
      cases hn
      rcases hr with hr | ⟨-, ho⟩
      · simp [hm] at hr
      · exact .inl ho
    | @expanded target a _ ht hr hne _ hl ho h =>
      -- The names being expanded grow by one: that one is expanded right here.
      have refers : s.RefersTo (Name.ofReference target) := ⟨ht, ⟨_, hr, rfl⟩, hne⟩
      rcases ih h hn with hopened | ⟨before, after, f, rfl, hbefore, hafter, hx⟩
      · rcases List.mem_cons.1 hopened with rfl | hopened
        · exact .inr ⟨[], place, e, rfl, at?_nil e, hn, .here _, refers, hl, ho, h⟩
        · exact .inl hopened
      · exact .inr ⟨before, after, f, rfl, hbefore, hafter, hx.step (.expansion rfl refers hl ho)⟩

end TypeExpr

/-! ### References of declarations -/

namespace Api

variable {api : Api α} {options : TypeOptions} {ds : List Declaration} {d : Declaration} {n : String}

/-- The part of a declaration at a place is compiled from a schema as a whole: from a reusable one
under its name, or from one that an operation needs. -/
inductive CompiledAt (api : Api α) (options : TypeOptions) (d : Declaration) :
    Position → Site α → TypeExpr → Prop
  | schema {n : String} {a : α} (hs : (n, a) ∈ api.schemas) (hd : Registers api options (n, a) d) :
      CompiledAt api options d [] (Site.start (layer a) (some n)) d.expression
  | payload {o : Operation α} {s : Schema α} {context : String} (ho : o ∈ api.operations)
      (hs : s ∈ o.compiledSchemas)
      (hd : (TypeExpr.compile api.schemas options s context none).outcome = .ok d.expression) :
      CompiledAt api options d [] (Site.start s none) d.expression
  | parameter {o : Operation α} {p : Parameter α} {members : List (Property TypeExpr)} {index : Nat}
      {m : Property TypeExpr} (ho : o ∈ api.operations) (hp : p ∈ o.parameters)
      (hd : d.expression = .record members) (hi : members[index]? = some m)
      (hm : Draft.ParameterMember api.schemas options p m) :
      CompiledAt api options d [.member index] (Site.start (Draft.schemaOf p.schema) none) m.type

/-- What a part that is compiled as a whole comes to. -/
lemma CompiledAt.outcome {place : Position} {x : Site α} {e : TypeExpr}
    (h : CompiledAt api options d place x e) : ∃ context,
      (TypeExpr.compileWithin api.schemas options (options.maxDepth + 1) x.schema context
        x.opened).outcome = .ok e := by
  cases h with
  | schema _ hd => exact ⟨_, hd.expression⟩
  | payload _ _ hd => exact ⟨_, hd⟩
  | parameter _ _ _ _ hm => exact ⟨_, hm.type⟩

/-- A reference of a declaration stands in a part that is compiled as a whole. -/
lemma exists_compiledAt (hk : (List.map (·.1) api.schemas).Nodup)
    (h : (api.declarations options).outcome = .ok ds) (hd : d ∈ ds) {place : Position}
    (hn : d.expression.at? place = some (.reference n)) : ∃ start rest x e, place = start ++ rest ∧
      CompiledAt api options d start x e ∧ e.at? rest = some (.reference n) := by
  obtain ⟨registered, rest, hds, hr⟩ := declarations_registered hk h
  rw [hds, List.mem_append] at hd
  rcases hd with hd | hd
  · obtain ⟨⟨m, a⟩, hs, hm⟩ := exists_of_mem_right hr hd
    exact ⟨[], place, _, _, rfl, .schema hs hm, hn⟩
  · have later : d ∈ ds.drop (List.length api.schemas) := by
      rwa [hds, List.drop_left' hr.length_eq.symm]
    obtain ⟨o, ho, draft, hdraft, hsettles⟩ := exists_settles_of_mem_drop h later
    have compiled := hsettles.expression
    rcases Draft.mem_ofOperation hdraft with ⟨s, hs, context, he⟩ | he
    · rw [he] at compiled
      exact ⟨[], place, _, _, rfl, .payload ho hs compiled, hn⟩
    · rw [he] at compiled
      obtain ⟨members, hmembers, heq⟩ := Draft.parametersRecord_eq_ok.1 compiled
      rw [heq] at hn
      cases place with
      | nil => simp at hn
      | cons b place =>
        obtain ⟨index, m, rfl, hi, hn⟩ := TypeExpr.at?_record_cons.1 hn
        have hm := Draft.mem_of_mem_mergeMembers (List.mem_of_getElem? hi)
        obtain ⟨p, hp, hpm⟩ := exists_of_mem_right hmembers hm
        exact ⟨[.member index], place, _, _, rfl, .parameter ho hp heq hi hpm, hn⟩

/-- A place of a declaration lies in a part that a registered schema was expanded to. -/
def LiesInExpansion (api : Api α) (options : TypeOptions) (d : Declaration) (n : String)
    (place : Position) : Prop :=
  ∃ start before after x e f, place = start ++ before ++ after ∧ CompiledAt api options d start x e ∧
    e.at? before = some f ∧ TypeExpr.Expands api.schemas options x n before f

/-- A reference at a place of a declaration is kept at a cycle: a registered schema has the name and
is reached from itself, and the place is in the declaration of that schema or in an expansion of
it. -/
structure IsKeptAtCycle (api : Api α) (options : TypeOptions) (d : Declaration) (n : String)
    (place : Position) (a : α) : Prop where
  registered : api.schemas.lookup n = some a
  cyclic : Schema.Reaches api.schemas (layer a) n
  inside : Registers api options (n, a) d ∨ LiesInExpansion api options d n place

lemma exists_isKeptAtCycle (hk : (List.map (·.1) api.schemas).Nodup)
    (hm : options.referenceMode = .inline) (h : (api.declarations options).outcome = .ok ds)
    (hd : d ∈ ds) {place : Position} (hn : d.expression.at? place = some (.reference n)) :
    ∃ a, IsKeptAtCycle api options d n place a := by
  obtain ⟨start, rest, x, e, rfl, compiled, hn⟩ := exists_compiledAt hk h hd hn
  obtain ⟨context, he⟩ := compiled.outcome
  rcases TypeExpr.exists_expands_of_reference hm he hn with ho |
    ⟨before, after, f, rfl, hbefore, hafter, hx⟩
  · cases compiled with
    | @schema m a hs hd =>
      obtain rfl : n = m := by simpa using (List.mem_filter.1 ho).1
      exact ⟨a, lookup_of_mem hk hs, TypeExpr.reaches_of_reference he hn, .inl hd⟩
    | payload | parameter => cases ho
  · obtain ⟨hv, hs, hl, hfree, hf⟩ := hx
    refine ⟨_, hl, TypeExpr.reaches_of_reference hf hafter, .inr ?_⟩
    exact ⟨start, before, after, x, e, f, (List.append_assoc ..).symm, compiled, hbefore,
      ⟨hv, hs, hl, hfree, hf⟩⟩

/-- Where references are expanded, one is kept only at a cycle, at whatever place of whatever
declaration. Where no registered schema is reached from itself, none is kept. -/
theorem expanded_references (api : Api α) (options : TypeOptions)
    (hk : (List.map (·.1) api.schemas).Nodup) (hm : options.referenceMode = .inline) :
    ((∀ s ∈ api.compiledSchemas, s.IsWritableWithin) →
      ∃ ds, (api.declarations options).outcome = .ok ds) ∧
    ∀ ds, (api.declarations options).outcome = .ok ds →
      (∀ d ∈ ds, ∀ n place, d.expression.at? place = some (.reference n) →
        ∃ a, IsKeptAtCycle api options d n place a) ∧
      ((∀ n a, api.schemas.lookup n = some a → ¬Schema.Reaches api.schemas (layer a) n) →
        ∀ d ∈ ds, ∀ n, ¬d.expression.Mentions n) := by
  refine ⟨declarations_returns options, fun ds h => ⟨fun d hd n place hn => ?_, ?_⟩⟩
  · exact exists_isKeptAtCycle hk hm h hd hn
  · intro acyclic d hd n hn
    obtain ⟨place, hn⟩ := TypeExpr.mentions_iff.1 hn
    obtain ⟨a, kept⟩ := exists_isKeptAtCycle hk hm h hd hn
    exact acyclic n a kept.registered kept.cyclic

/-- The forest, and an operation that answers with a grove. -/
def walkedForest : Api Value :=
  { forest with operations := [{
      path := "/grove"
      method := .get
      operationId := "walk"
      summary := none
      description := none
      parameters := []
      requestBody := none
      responses := [("200", ⟨"A grove", some [("application/json", some
        [("type", .text "object"), ("properties", .ofFields
          [("tree", .ofFields [("$ref", .text "#/components/schemas/Tree")])])])]⟩)] }] }

/-- In the answer of the operation a tree is expanded, and inside of it the name of trees is kept. -/
theorem expanded_references_walkedForest :
    (List.map (·.1) walkedForest.schemas).Nodup ∧
    ∃ ds d a, (walkedForest.declarations { referenceMode := .inline }).outcome = .ok ds ∧ d ∈ ds ∧
      d.name = "WalkResponse200" ∧
      d.expression = .record [⟨"tree", true, .record [⟨"label", true, .string⟩,
        ⟨"children", true, .sequence (.reference "Tree")⟩]⟩] ∧
      IsKeptAtCycle walkedForest { referenceMode := .inline } d "Tree"
        [.member 0, .member 1, .item] a := by
  have distinct : (List.map (·.1) walkedForest.schemas).Nodup := by decide
  obtain ⟨-, kept⟩ := expanded_references walkedForest { referenceMode := .inline } distinct rfl
  let d : Declaration := ⟨"WalkResponse200", .record, .record [⟨"tree", true, .record
    [⟨"label", true, .string⟩, ⟨"children", true, .sequence (.reference "Tree")⟩]⟩], .response⟩
  have answers : ∃ others, (walkedForest.declarations { referenceMode := .inline }).outcome =
      .ok (others ++ [d]) := ⟨[_, _, _], rfl⟩
  obtain ⟨others, hds⟩ := answers
  have mem : d ∈ others ++ [d] := by simp
  obtain ⟨a, ha⟩ := (kept _ hds).1 d mem "Tree" [.member 0, .member 1, .item] rfl
  exact ⟨distinct, _, d, a, hds, mem, rfl, rfl, ha⟩

end Api

end ApiBridge
