import ApiBridge.Proofs.TypeScript.Soundness
import ApiBridge.Proofs.TypeScript.Unfolding

/-!
# What expanding references preserves

A reference to a schema may be kept as a name or be expanded, here and there differently. Once all
references are followed this makes no difference: where nothing is cut off, the tree of a compiled
expression depends on the schema alone.
-/

namespace ApiBridge

variable {α : Type} [Layered α]

/-- Something is cut off because it is nested too deep. -/
def Notice.IsCutOff : Notice → Prop
  | .schemaTooDeep .. => True
  | _ => False

/-! ### Links between schemas -/

namespace Schema

/-- A schema without a known type refers to a registered schema. -/
structure LinksTo (registry : Registry α) (s : Schema α) (n : String) (a : α) : Prop where
  untyped : s.IsUntyped
  reference : ∃ target, s.keyword? "$ref" = some (.scalar (.text target)) ∧
    Name.ofReference target = n
  named : n ≠ ""
  registered : registry.lookup n = some a

/-- Links lead from a schema to one that is no link. -/
inductive Ends (registry : Registry α) : Schema α → Schema α → Prop
  | here {s : Schema α} (h : ∀ n a, ¬s.LinksTo registry n a) : Ends registry s s
  | link {s t : Schema α} {n : String} {a : α} (h : s.LinksTo registry n a)
      (ht : Ends registry (layer a) t) : Ends registry s t

variable {registry : Registry α} {s t : Schema α}

lemma Ends.not_linksTo (h : s.Ends registry t) (n : String) (a : α) :
    ¬t.LinksTo registry n a := by
  induction h with
  | here h => exact h n a
  | link _ _ ih => exact ih

/-- A schema without an end links to another one without an end. -/
lemma exists_linksTo_of_endless (h : ∀ t, ¬s.Ends registry t) :
    ∃ n a, s.LinksTo registry n a ∧ ∀ t, ¬Ends registry (layer a) t := by
  by_contra hn
  push Not at hn
  refine h s (.here fun n a hl => ?_)
  obtain ⟨t, ht⟩ := hn n a hl
  exact h t (.link hl ht)

end Schema

namespace TypeExpr

/-! ### Expressions without cuts -/

/-- The compiler makes an expression of a schema and cuts nothing off, with some limit. -/
def Yields (registry : Registry α) (options : TypeOptions) (s : Schema α) (e : TypeExpr) : Prop :=
  ∃ fuel context opened,
    (compileWithin registry options fuel s context opened).Quiet Notice.IsCutOff e

variable {registry : Registry α} {options options' : TypeOptions} {s t : Schema α}
  {e e' : TypeExpr} {n : String} {a : α}

/-- There is at least one level left. -/
lemma Yields.exists_succ (h : Yields registry options s e) : ∃ fuel context opened,
    (compileWithin registry options (fuel + 1) s context opened).Quiet Notice.IsCutOff e := by
  obtain ⟨fuel, context, opened, h⟩ := h
  cases fuel with
  | zero => simp [compileWithin, Notice.IsCutOff] at h
  | succ fuel => exact ⟨fuel, context, opened, h⟩

/-- A link is kept, or what it leads to is compiled in its place, with one level less. -/
lemma quiet_of_linksTo (hs : s.LinksTo registry n a) {fuel : Nat} {context : String}
    {opened : List String}
    (h : (compileWithin registry options (fuel + 1) s context opened).Quiet Notice.IsCutOff e) :
    e = .reference n ∨ ∃ context opened,
      (compileWithin registry options fuel (layer a) context opened).Quiet Notice.IsCutOff e := by
  obtain ⟨target, hr, rfl⟩ := hs.reference
  simp only [compileWithin_of_isUntyped hs.untyped, hr, ofReference, hs.named, ↓reduceIte,
    hs.registered] at h
  cases hm : options.referenceMode with
  | name | verify =>
    simp only [hm, Attempt.quiet_pure] at h
    exact .inl h.symm
  | inline =>
    simp only [hm] at h
    split at h
    case isTrue => exact .inl (Attempt.quiet_pure.1 h).symm
    case isFalse => exact .inr ⟨_, _, h⟩

lemma Yields.of_linksTo (h : Yields registry options s e) (hs : s.LinksTo registry n a) :
    e = .reference n ∨ Yields registry options (layer a) e := by
  obtain ⟨fuel, context, opened, h⟩ := h.exists_succ
  exact (quiet_of_linksTo hs h).imp_right fun ⟨context, opened, h⟩ => ⟨fuel, context, opened, h⟩

/-- Expanding comes to an end, by induction on the levels left: a schema without an end becomes a
reference to one of the same kind. -/
lemma Yields.of_endless (h : Yields registry options s e) (hs : ∀ t, ¬s.Ends registry t) :
    ∃ n a, e = .reference n ∧ registry.lookup n = some a ∧
      ∀ t, ¬Schema.Ends registry (layer a) t := by
  obtain ⟨fuel, context, opened, h⟩ := h
  induction fuel generalizing s context opened with
  | zero => simp [compileWithin, Notice.IsCutOff] at h
  | succ fuel ih =>
    obtain ⟨n, a, hl, ha⟩ := Schema.exists_linksTo_of_endless hs
    rcases quiet_of_linksTo hl h with rfl | ⟨context, opened, h⟩
    · exact ⟨n, a, rfl, hl.registered, ha⟩
    · exact ih ha _ _ h

/-! ### Shapes -/

/-- Two expressions come from one schema. -/
def Related (registry : Registry α) (options options' : TypeOptions) (e e' : TypeExpr) : Prop :=
  ∃ s, Yields registry options s e ∧ Yields registry options' s e'

lemma Yields.of_array (h : Yields registry options s e) (ht : s.declaredType? = some "array") :
    (∃ entries item, s.keyword? "items" = some (.map entries) ∧ e = .sequence item ∧
      Yields registry options (.map entries) item) ∨
    (∀ entries, s.keyword? "items" ≠ some (.map entries)) ∧ e = .anySequence := by
  obtain ⟨fuel, context, opened, h⟩ := h.exists_succ
  simp only [compileWithin, ht] at h
  split at h
  case h_1 entries hi =>
    obtain ⟨item, hitem, rfl⟩ := Attempt.quiet_map.1 h
    exact .inl ⟨entries, item, hi, rfl, fuel, _, _, hitem⟩
  case h_2 hi => exact .inr ⟨hi, (Attempt.quiet_pure.1 h).symm⟩

/-- A member of a record stands for an entry of `properties`. -/
structure Yields.MemberOf (registry : Registry α) (options : TypeOptions) (required : List String)
    (p : Scalar × α) (m : Property TypeExpr) : Prop where
  name : p.1.written = .ok m.name
  optional : m.optional = !required.contains m.name
  type : Yields registry options (layer p.2) m.type

lemma Yields.of_object (h : Yields registry options s e) (ht : s.declaredType? = some "object") :
    (∃ properties required members, s.properties? = some properties ∧
      s.requiredNames = .ok required ∧ e = .record members ∧
      List.Forall₂ (Yields.MemberOf registry options required) properties members) ∨
    s.properties? = none ∧ e = .mapping := by
  obtain ⟨fuel, context, opened, h⟩ := h.exists_succ
  simp only [compileWithin, ht] at h
  split at h
  case h_1 properties hp =>
    simp only [Attempt.quiet_bind, Attempt.quiet_ofExcept, ofProperties, Attempt.quiet_map,
      Attempt.quiet_mapM] at h
    obtain ⟨required, hr, members, hm, rfl⟩ := h
    refine .inl ⟨properties, required, members, hp, hr, rfl, hm.imp ?_⟩
    rintro p m ⟨name, hname, type, htype, hpm⟩
    cases Attempt.quiet_pure.1 hpm
    exact ⟨hname, rfl, fuel, _, _, htype⟩
  case h_2 hp => exact .inr ⟨hp, (Attempt.quiet_pure.1 h).symm⟩

lemma Yields.MemberOf.forall₂_related {required : List String} {properties : List (Scalar × α)}
    {members members' : List (Property TypeExpr)}
    (h : List.Forall₂ (MemberOf registry options required) properties members)
    (h' : List.Forall₂ (MemberOf registry options' required) properties members') :
    List.Forall₂ (fun m m' => m.name = m'.name ∧ m.optional = m'.optional ∧
      Related registry options options' m.type m'.type) members members' := by
  induction h generalizing members' with
  | nil =>
    cases h'
    exact .nil
  | @cons p m _ _ hm _ ih =>
    cases h' with
    | @cons _ m' _ _ hm' hs' =>
      have name : m.name = m'.name := Except.ok.inj (hm.name.symm.trans hm'.name)
      exact .cons ⟨name, by rw [hm.optional, hm'.optional, name], _, hm.type, hm'.type⟩ (ih hs')

/-- A schema of a type without parts has one expression, whatever the options. -/
lemma exists_leaf {w : String} (ht : s.declaredType? = some w)
    (hw : w ∈ ["string", "integer", "number", "boolean"]) :
    ∃ leaf : TypeExpr, leaf.isLeaf = true ∧
      ∀ options e, Yields registry options s e → e = leaf := by
  suffices ∃ leaf : TypeExpr, leaf.isLeaf = true ∧ ∀ options fuel context opened,
      compileWithin registry options (fuel + 1) s context opened = pure leaf by
    obtain ⟨leaf, hleaf, hc⟩ := this
    refine ⟨leaf, hleaf, fun options e h => ?_⟩
    obtain ⟨fuel, context, opened, h⟩ := h.exists_succ
    rw [hc, Attempt.quiet_pure] at h
    exact h.symm
  simp only [List.mem_cons, List.not_mem_nil, or_false] at hw
  rcases hw with rfl | rfl | rfl | rfl
  · by_cases hv : ∃ values, s.keyword? "enum" = some (.list values)
    · obtain ⟨values, hv⟩ := hv
      exact ⟨.literals (values.map Layered.value), rfl, fun _ _ _ _ => by
        simp only [compileWithin, ht, hv]⟩
    · refine ⟨.string, rfl, fun _ _ _ _ => ?_⟩
      simp only [compileWithin, ht]
      split
      case h_1 values h => exact absurd ⟨values, h⟩ hv
      case h_2 => rfl
  · exact ⟨.number, rfl, fun _ _ _ _ => by simp only [compileWithin, ht]⟩
  · exact ⟨.number, rfl, fun _ _ _ _ => by simp only [compileWithin, ht]⟩
  · exact ⟨.boolean, rfl, fun _ _ _ _ => by simp only [compileWithin, ht]⟩

lemma reference?_of_isLeaf (h : e.isLeaf = true) : e.reference? = none := by
  cases e with
  | reference n => simp [isLeaf] at h
  | _ => rfl

/-- A schema with a known type has expressions of one shape, which are no references. -/
lemma Yields.sameShape (h : Yields registry options s e) (h' : Yields registry options' s e')
    (hs : ¬s.IsUntyped) :
    e.reference? = none ∧ e'.reference? = none ∧
      SameShape (Related registry options options') e e' := by
  simp only [Schema.IsUntyped, Schema.knownTypes, not_forall, not_not] at hs
  obtain ⟨w, hw, ht⟩ := hs
  by_cases harray : w = "array"
  · subst harray
    rcases h.of_array ht with ⟨entries, item, hi, rfl, hitem⟩ | ⟨hi, rfl⟩
    · rcases h'.of_array ht with ⟨entries', item', hi', rfl, hitem'⟩ | ⟨hi', rfl⟩
      · obtain rfl : entries = entries' := by simpa [hi] using hi'
        exact ⟨rfl, rfl, .sequence ⟨_, hitem, hitem'⟩⟩
      · exact absurd hi (hi' _)
    · rcases h'.of_array ht with ⟨entries', item', hi', rfl, hitem'⟩ | ⟨hi', rfl⟩
      · exact absurd hi' (hi _)
      · exact ⟨rfl, rfl, .leaf rfl⟩
  by_cases hobject : w = "object"
  · subst hobject
    rcases h.of_object ht with ⟨properties, required, members, hp, hr, rfl, hm⟩ | ⟨hp, rfl⟩
    · rcases h'.of_object ht with
        ⟨properties', required', members', hp', hr', rfl, hm'⟩ | ⟨hp', rfl⟩
      · obtain rfl : properties = properties' := by simpa [hp] using hp'
        obtain rfl : required = required' := Except.ok.inj (hr.symm.trans hr')
        exact ⟨rfl, rfl, .record (MemberOf.forall₂_related hm hm')⟩
      · simp [hp] at hp'
    · rcases h'.of_object ht with
        ⟨properties', required', members', hp', hr', rfl, hm'⟩ | ⟨hp', rfl⟩
      · simp [hp] at hp'
      · exact ⟨rfl, rfl, .leaf rfl⟩
  have simple : w ∈ ["string", "integer", "number", "boolean"] := by
    simp only [List.mem_cons, List.not_mem_nil, or_false] at hw ⊢
    grind
  obtain ⟨leaf, hleaf, unique⟩ := exists_leaf ht simple
  obtain rfl := unique options e h
  obtain rfl := unique options' e' h'
  exact ⟨reference?_of_isLeaf hleaf, reference?_of_isLeaf hleaf, .leaf hleaf⟩

/-! ### Declared types -/

/-- The types declared are those of the registered schemas, each under its name. -/
structure Registered (registry : Registry α) (options : TypeOptions)
    (types : List (String × TypeExpr)) : Prop where
  declared : ∀ n a, registry.lookup n = some a →
    ∃ e, types.lookup n = some e ∧ Yields registry options (layer a) e
  only : ∀ n, registry.lookup n = none → types.lookup n = none

variable {types types' : List (String × TypeExpr)}

/-- Following links does not change the head. -/
lemma Yields.head_of_ends (hd : Registered registry options types)
    (h : Yields registry options s e) (hs : s.Ends registry t) :
    ∃ e', Yields registry options t e' ∧ head types e = head types e' := by
  induction hs generalizing e with
  | here => exact ⟨e, h, rfl⟩
  | link hl _ ih =>
    rcases h.of_linksTo hl with rfl | h
    · obtain ⟨e₁, hn, h₁⟩ := hd.declared _ _ hl.registered
      obtain ⟨e₂, h₂, he⟩ := ih h₁
      exact ⟨e₂, h₂, by rw [head_reference, hn]; exact he⟩
    · exact ih h

lemma Yields.chase_of_endless (hd : Registered registry options types)
    (h : Yields registry options s e) (hs : ∀ t, ¬s.Ends registry t) (fuel : Nat) :
    chase types fuel e = .any := by
  induction fuel generalizing s e with
  | zero =>
    obtain ⟨n, a, rfl, -, -⟩ := h.of_endless hs
    rfl
  | succ fuel ih =>
    obtain ⟨n, a, rfl, hl, ha⟩ := h.of_endless hs
    obtain ⟨e, hn, he⟩ := hd.declared n a hl
    rw [chase, hn]
    exact ih he ha

/-- What is no link and has no known type stands for any value. -/
lemma Yields.head_of_isUntyped (hd : Registered registry options types)
    (h : Yields registry options s e) (hs : s.IsUntyped)
    (hl : ∀ n a, ¬s.LinksTo registry n a) : head types e = .any := by
  obtain ⟨fuel, context, opened, h⟩ := h.exists_succ
  cases compileWithin_succ.1 h.1 with
  | nameless | unknown | any => exact head_self rfl
  | @named target _ hr hn =>
    have unknown : registry.lookup (Name.ofReference target) = none := by
      refine Option.eq_none_iff_forall_ne_some.2 fun a ha => ?_
      exact hl _ a ⟨hs, ⟨target, hr, rfl⟩, hn, ha⟩
    rw [head_reference, hd.only _ unknown]
    rfl
  | @registered target a _ hr hn ha => exact absurd ⟨hs, ⟨target, hr, rfl⟩, hn, ha⟩ (hl _ a)
  | @expanded target a _ _ hr hn _ ha => exact absurd ⟨hs, ⟨target, hr, rfl⟩, hn, ha⟩ (hl _ a)
  | literals ht | string ht | boolean ht | sequence ht | anySequence ht | record ht
  | mapping ht => exact absurd ht (hs _ (by decide))
  | number ht =>
    rcases ht with ht | ht
    · exact absurd ht (hs _ (by decide))
    · exact absurd ht (hs _ (by decide))

/-- By induction on the depth, and by where the links from the schema lead: to a schema that is no
link, whose expressions have one shape, or nowhere. -/
theorem Yields.tree_eq (hd : Registered registry options types)
    (hd' : Registered registry options' types') (h : Yields registry options s e)
    (h' : Yields registry options' s e') (depth : Nat) :
    tree types depth e = tree types' depth e' := by
  induction depth generalizing s e e' with
  | zero => rfl
  | succ depth ih =>
    have parts : ∀ a b, Related registry options options' a b →
        tree types depth a = tree types' depth b := fun a b ⟨_, ha, hb⟩ => ih ha hb
    refine tree_eq_of_sameShape ?_ parts
    by_cases hs : ∃ t, s.Ends registry t
    · obtain ⟨t, ht⟩ := hs
      obtain ⟨e₁, h₁, he₁⟩ := h.head_of_ends hd ht
      obtain ⟨e₁', h₁', he₁'⟩ := h'.head_of_ends hd' ht
      rw [he₁, he₁']
      by_cases untyped : t.IsUntyped
      · rw [h₁.head_of_isUntyped hd untyped ht.not_linksTo,
          h₁'.head_of_isUntyped hd' untyped ht.not_linksTo]
        exact .leaf rfl
      · obtain ⟨hr, hr', shape⟩ := h₁.sameShape h₁' untyped
        rwa [head_self hr, head_self hr']
    · rw [head, head, h.chase_of_endless hd (not_exists.1 hs),
        h'.chase_of_endless hd' (not_exists.1 hs)]
      exact .leaf rfl

end TypeExpr

/-! ### Types of declarations -/

/-- The types that are declared for reusable schemas. -/
def Declaration.schemaTypes (ds : List Declaration) : List (String × TypeExpr) :=
  (ds.filter fun d => d.origin = .schema).map fun d => (d.name, d.expression)

/-- What an operation needs is not declared as a schema. -/
lemma Draft.origin_of_mem_ofOperation {registry : Registry α} {options : TypeOptions}
    {o : Operation α} {d : Draft} (h : d ∈ Draft.ofOperation registry options o) :
    d.origin ≠ .schema := by
  simp only [ofOperation, List.mem_append] at h
  rcases h with (h | h) | h
  · split at h
    case isTrue => simp at h
    case isFalse =>
      obtain rfl := List.mem_singleton.1 h
      simp
  · obtain ⟨fields, -, rfl⟩ := List.mem_map.1 h
    simp [ofBody]
  · obtain ⟨r, -, h⟩ := List.mem_filterMap.1 h
    obtain ⟨fields, -, rfl⟩ := Option.map_eq_some_iff.1 h
    simp [ofBody]

namespace Api

variable {api : Api α} {options options' : TypeOptions} {ds ds' : List Declaration}

/-- After the reusable schemas come the drafts of the operations. -/
lemma exists_settles_of_mem_drop (h : (api.declarations options).outcome = .ok ds)
    {d : Declaration} (hd : d ∈ ds.drop (List.length api.schemas)) :
    ∃ o ∈ api.operations, ∃ draft ∈ Draft.ofOperation api.schemas options o, draft.Settles d := by
  have settled := List.forall₂_drop (List.length api.schemas) (Draft.settleAll_eq_ok.1 h).1
  rw [Draft.ofApi, List.drop_left' (by simp)] at settled
  obtain ⟨draft, hdraft, hs⟩ := exists_of_mem_right settled hd
  obtain ⟨o, ho, hdraft⟩ := List.mem_flatMap.1 hdraft
  exact ⟨o, ho, draft, hdraft, hs⟩

lemma origin_of_mem_drop (h : (api.declarations options).outcome = .ok ds) {d : Declaration}
    (hd : d ∈ ds.drop (List.length api.schemas)) : d.origin ≠ .schema := by
  obtain ⟨o, -, draft, hdraft, hs⟩ := exists_settles_of_mem_drop h hd
  rw [hs.origin]
  exact Draft.origin_of_mem_ofOperation hdraft

/-- The declared types of reusable schemas are those of the first declarations. -/
lemma exists_schemaTypes (hk : (List.map (·.1) api.schemas).Nodup)
    (h : (api.declarations options).outcome = .ok ds) :
    ∃ registered, List.Forall₂ (Registers api options) api.schemas registered ∧
      Declaration.schemaTypes ds = registered.map fun d => (d.name, d.expression) := by
  obtain ⟨registered, rest, rfl, hr⟩ := declarations_registered hk h
  have kept : ∀ d ∈ registered, decide (d.origin = .schema) = true := by
    intro d hd
    obtain ⟨e, -, he⟩ := exists_of_mem_right hr hd
    simp [he.origin]
  have dropped : ∀ d ∈ rest, ¬decide (d.origin = .schema) = true := by
    intro d hd
    have := origin_of_mem_drop h (d := d) (by simpa [hr.length_eq] using hd)
    simpa using this
  refine ⟨registered, hr, ?_⟩
  rw [Declaration.schemaTypes, List.filter_append, List.filter_eq_self.2 kept,
    List.filter_eq_nil_iff.2 dropped, List.append_nil]

/-- With these options nothing is cut off: not where the schema is compiled, and not where a
reusable schema is, for which a reference may stand. -/
structure IsUncut (api : Api α) (options : TypeOptions) (s : Schema α) (context : String)
    (identity : Option String) : Prop where
  schema : ¬(TypeExpr.compile api.schemas options s context identity).Reports Notice.IsCutOff
  registered : ∀ e ∈ api.schemas,
    ¬(TypeExpr.compile api.schemas options (layer e.2) e.1 (some e.1)).Reports Notice.IsCutOff

lemma registered_schemaTypes (hk : (List.map (·.1) api.schemas).Nodup)
    (h : (api.declarations options).outcome = .ok ds)
    (hu : ∀ e ∈ api.schemas,
      ¬(TypeExpr.compile api.schemas options (layer e.2) e.1 (some e.1)).Reports Notice.IsCutOff) :
    TypeExpr.Registered api.schemas options (Declaration.schemaTypes ds) := by
  obtain ⟨registered, hr, htypes⟩ := exists_schemaTypes hk h
  have types : List.Forall₂ (fun e f => f.1 = e.1 ∧
      TypeExpr.Yields api.schemas options (layer e.2) f.2) api.schemas
      (Declaration.schemaTypes ds) := by
    rw [htypes, List.forall₂_map_right_iff]
    refine ((List.forall₂_and_left _ _).2 ⟨fun _ he => he, hr⟩).imp ?_
    rintro e d ⟨he, hd⟩
    exact ⟨hd.name, _, _, _, hd.expression, hu e he⟩
  have found (n : String) := lookup_rel (R := fun a e =>
    TypeExpr.Yields api.schemas options (layer a) e) types n
  refine ⟨fun n a hn => ?_, fun n hn => ?_⟩
  · have hrel := found n
    rw [hn] at hrel
    generalize (Declaration.schemaTypes ds).lookup n = type at hrel
    cases hrel with
    | some he => exact ⟨_, rfl, he⟩
  · have hrel := found n
    rw [hn] at hrel
    generalize (Declaration.schemaTypes ds).lookup n = type at hrel
    cases hrel
    rfl

/-- References may be expanded or kept: where nothing is cut off, a schema comes to the same tree
with the types that are declared under the same options, at every depth. -/
theorem compile_tree_eq (hk : (List.map (·.1) api.schemas).Nodup) (options options' : TypeOptions)
    (s : Schema α) (context : String) (identity : Option String)
    (hu : api.IsUncut options s context identity)
    (hu' : api.IsUncut options' s context identity) :
    ((∀ t ∈ api.compiledSchemas, t.IsWritableWithin) → s.IsWritableWithin →
      ∀ o ∈ [options, options'], (∃ ds, (api.declarations o).outcome = .ok ds) ∧
        ∃ e, (TypeExpr.compile api.schemas o s context identity).outcome = .ok e) ∧
    ∀ ds ds' e e', (api.declarations options).outcome = .ok ds →
      (api.declarations options').outcome = .ok ds' →
      (TypeExpr.compile api.schemas options s context identity).outcome = .ok e →
      (TypeExpr.compile api.schemas options' s context identity).outcome = .ok e' →
      ∀ depth, TypeExpr.tree (Declaration.schemaTypes ds) depth e
        = TypeExpr.tree (Declaration.schemaTypes ds') depth e' := by
  refine ⟨fun hw hs o _ => ⟨declarations_returns o hw, compile_returns hw hs context identity⟩, ?_⟩
  intro ds ds' e e' hds hds' he he' depth
  have yields : TypeExpr.Yields api.schemas options s e := ⟨_, _, _, he, hu.schema⟩
  have yields' : TypeExpr.Yields api.schemas options' s e' := ⟨_, _, _, he', hu'.schema⟩
  exact yields.tree_eq (registered_schemaTypes hk hds hu.registered)
    (registered_schemaTypes hk hds' hu'.registered) yields' depth

/-- Trees and lists of trees, which refer to each other, and a name for itself. -/
def forest : Api Value where
  info := default
  servers := []
  operations := []
  schemas := [
    ("Tree", .ofFields [("type", .text "object"), ("properties", .ofFields
      [("label", .ofFields [("type", .text "string")]),
        ("children", .ofFields [("$ref", .text "#/components/schemas/Forest")])])]),
    ("Forest", .ofFields [("type", .text "array"),
      ("items", .ofFields [("$ref", .text "#/components/schemas/Tree")])]),
    ("Itself", .ofFields [("$ref", .text "#/components/schemas/Itself")])]
  openapiVersion := "3.0.0"

/-- A tree beside the name for itself. -/
def grove : Value :=
  .ofFields [("type", .text "object"), ("properties", .ofFields
    [("tree", .ofFields [("$ref", .text "#/components/schemas/Tree")]),
      ("itself", .ofFields [("$ref", .text "#/components/schemas/Itself")])])]

/-- Expanded once or kept as names, the trees in a grove are the same. -/
theorem compile_tree_eq_grove :
    (List.map (·.1) forest.schemas).Nodup ∧
    forest.IsUncut { referenceMode := .inline } (layer grove) "Grove" none ∧
    forest.IsUncut { referenceMode := .name } (layer grove) "Grove" none ∧
    ∃ ds ds', (forest.declarations { referenceMode := .inline }).outcome = .ok ds ∧
      (forest.declarations { referenceMode := .name }).outcome = .ok ds' ∧
      ∀ depth,
        TypeExpr.tree (Declaration.schemaTypes ds) depth (.record
          [⟨"tree", true, .record [⟨"label", true, .string⟩,
            ⟨"children", true, .sequence (.reference "Tree")⟩]⟩,
            ⟨"itself", true, .reference "Itself"⟩])
        = TypeExpr.tree (Declaration.schemaTypes ds') depth (.record
          [⟨"tree", true, .reference "Tree"⟩, ⟨"itself", true, .reference "Itself"⟩]) := by
  have uncut (mode : ReferenceMode) :
      forest.IsUncut { referenceMode := mode } (layer grove) "Grove" none := by
    constructor
    · rintro ⟨n, hn, -⟩
      cases mode with
      | name | verify | inline => exact List.not_mem_nil hn
    · rintro e he ⟨n, hn, -⟩
      simp only [forest, List.mem_cons, List.not_mem_nil, or_false] at he
      rcases he with rfl | rfl | rfl
      all_goals
        cases mode with
        | name | verify | inline => exact List.not_mem_nil hn
  have distinct : (List.map (·.1) forest.schemas).Nodup := by decide
  obtain ⟨-, same⟩ := compile_tree_eq distinct { referenceMode := .inline }
    { referenceMode := .name } (layer grove) "Grove" none (uncut .inline) (uncut .name)
  refine ⟨distinct, uncut .inline, uncut .name, _, _, rfl, rfl, ?_⟩
  exact same _ _ _ _ rfl rfl rfl rfl

end Api

end ApiBridge
