import ApiBridge.Proofs.TypeScript.Soundness

/-!
# References to declarations

With references verified or expanded, compilation refers to registered schemas only. As these keep
their keys as names whatever else is declared, no reference of a declaration is left dangling.
-/

namespace ApiBridge

/-! ### Names that are mentioned -/

/-- An expression refers to a name, at any nesting. -/
inductive TypeExpr.Mentions (n : String) : TypeExpr → Prop
  | reference : Mentions n (.reference n)
  | item {item : TypeExpr} (h : Mentions n item) : Mentions n (.sequence item)
  | property {properties : List (Property TypeExpr)} {p : Property TypeExpr}
      (hp : p ∈ properties) (h : Mentions n p.type) : Mentions n (.record properties)

/-- A form refers to a name, itself or in a part. -/
inductive TypeForm.Mentions (n : String) : TypeForm → Prop
  | own {f : TypeForm} (h : n ∈ f.ownReference) : Mentions n f
  | part {f g : TypeForm} (hg : g ∈ f.parts) (h : Mentions n g) : Mentions n f

namespace TypeForm

variable {n : String}

lemma mem_pendingReferences {fs : List TypeForm} :
    n ∈ pendingReferences fs ↔ ∃ f ∈ fs, f.Mentions n := by
  induction fs using pendingReferences.induct with
  | case1 => simp [pendingReferences]
  | case2 f fs ih =>
    rw [pendingReferences, List.mem_append, ih]
    constructor
    · rintro (h | ⟨g, hg, h⟩)
      · exact ⟨f, by simp, .own h⟩
      · rcases List.mem_append.1 hg with hg | hg
        · exact ⟨f, by simp, .part hg h⟩
        · exact ⟨g, by simp [hg], h⟩
    · rintro ⟨g, hg, h⟩
      rcases List.mem_cons.1 hg with rfl | hg
      · cases h with
        | own h => exact .inl h
        | part hg h => exact .inr ⟨_, by simp [hg], h⟩
      · exact .inr ⟨g, by simp [hg], h⟩

lemma mem_references {f : TypeForm} : n ∈ f.references ↔ f.Mentions n := by
  rw [references, mem_pendingReferences]
  simp

end TypeForm

namespace TypeExpr

variable {n : String}

lemma mem_toForms {g : Property TypeForm} {properties : List (Property TypeExpr)}
    (h : g ∈ toForms properties) : ∃ p ∈ properties, g.type = p.type.toForm := by
  induction properties with
  | nil => simp [toForms] at h
  | cons p ps ih =>
    obtain ⟨name, optional, type⟩ := p
    rw [toForms, List.mem_cons] at h
    rcases h with rfl | h
    · exact ⟨⟨name, optional, type⟩, by simp, rfl⟩
    · obtain ⟨q, hq, hg⟩ := ih h
      exact ⟨q, by simp [hq], hg⟩

/-- The form of an expression refers to what the expression refers to. -/
lemma mentions_of_toForm {e : TypeExpr} (h : e.toForm.Mentions n) : e.Mentions n := by
  generalize hf : e.toForm = f at h
  induction h generalizing e with
  | own h =>
    subst hf
    cases e with
    | reference name =>
      simp only [TypeForm.ownReference, toForm, TypeForm.kind, TypeForm.name, ↓reduceIte,
        Option.toList_some, List.mem_filter, List.mem_singleton] at h
      exact h.1 ▸ .reference
    | _ => simp [TypeForm.ownReference, toForm, TypeForm.kind, kind] at h
  | part hg _ ih =>
    subst hf
    cases e with
    | sequence item =>
      simp only [TypeForm.parts, toForm, TypeForm.properties, TypeForm.item, List.map_nil,
        List.nil_append, Option.toList_some, List.mem_singleton] at hg
      exact .item (ih hg.symm)
    | record properties =>
      simp only [TypeForm.parts, toForm, TypeForm.properties, TypeForm.item, Option.toList_none,
        List.append_nil, List.mem_map] at hg
      obtain ⟨g, hg, rfl⟩ := hg
      obtain ⟨p, hp, hpg⟩ := mem_toForms hg
      exact .property hp (ih hpg.symm)
    | _ => simp [TypeForm.parts, toForm, TypeForm.properties, TypeForm.item] at hg

/-! ### Names of registered schemas -/

variable {α : Type} [Layered α] {registry : Registry α} {options : TypeOptions}

/-- A name that is not merely copied is that of a registered schema. -/
theorem lookup_of_mentions (hm : options.referenceMode ≠ .name) {fuel : Nat} {schema : Schema α}
    {context : String} {opened : List String} {e : TypeExpr}
    (h : (compileWithin registry options fuel schema context opened).outcome = .ok e)
    (hn : e.Mentions n) : ∃ a, registry.lookup n = some a := by
  induction fuel generalizing schema context opened e with
  | zero =>
    rw [compileWithin_zero] at h
    cases h
    cases hn
  | succ fuel ih =>
    have compiled := compileWithin_succ.1 h
    clear h
    cases compiled with
    | literals | string | number | boolean | anySequence | mapping | nameless | unknown | any =>
      cases hn
    | sequence _ _ h =>
      cases hn with
      | item hn => exact ih h hn
    | record _ _ _ h =>
      cases hn with
      | property hp hn =>
        obtain ⟨p, -, hpm⟩ := exists_of_mem_right h hp
        exact ih hpm.type hn
    | named _ _ _ hname => exact absurd hname hm
    | registered _ _ _ hl =>
      cases hn
      exact ⟨_, hl⟩
    | expanded _ _ _ _ _ _ h => exact ih h hn

end TypeExpr

namespace Api

variable {α : Type} [Layered α] {api : Api α} {options : TypeOptions}

lemma lookup_of_mentions (hm : options.referenceMode ≠ .name) {ds : List Declaration}
    (h : (api.declarations options).outcome = .ok ds) {d : Declaration} (hd : d ∈ ds) {n : String}
    (hn : d.expression.Mentions n) : ∃ a, api.schemas.lookup n = some a := by
  obtain ⟨draft, hdraft, hs⟩ := exists_of_mem_right (Draft.settleAll_eq_ok.1 h).1 hd
  have compiled := hs.expression
  rcases Draft.mem_ofApi hdraft with ⟨s, -, context, identity, he⟩ | ⟨o, -, he⟩
  · rw [he] at compiled
    exact TypeExpr.lookup_of_mentions hm compiled hn
  · rw [he] at compiled
    obtain ⟨members, hmembers, heq⟩ := Draft.parametersRecord_eq_ok.1 compiled
    rw [heq] at hn
    cases hn with
    | property hp hn =>
      obtain ⟨p, -, hpm⟩ := exists_of_mem_right hmembers (Draft.mem_of_mem_mergeMembers hp)
      exact TypeExpr.lookup_of_mentions hm hpm.type hn

/-! ### No dangling references -/

lemma dangling_eq_nil {ds : List Declaration}
    (h : ∀ d ∈ ds, ∀ n, d.expression.Mentions n → ∃ r ∈ ds, r.name = n) :
    Declaration.dangling ds = [] := by
  have none : ((ds.map fun d => (d.name, d.expression.toForm)).flatMap
      fun d => d.2.references).filter (fun name =>
        !((ds.map fun d => (d.name, d.expression.toForm)).map (·.1)).contains name) = [] := by
    refine List.filter_eq_nil_iff.2 fun n hn => ?_
    rw [List.flatMap_map, List.mem_flatMap] at hn
    obtain ⟨d, hd, hn⟩ := hn
    obtain ⟨r, hr, rfl⟩ := h d hd n (TypeExpr.mentions_of_toForm (TypeForm.mem_references.1 hn))
    simpa using ⟨r, hr, rfl⟩
  rw [Declaration.dangling, danglingReferences, none]
  rfl

/-- Unless references are merely copied, none is left dangling: what a declaration mentions is the
key of a registered schema, and the declaration of that schema is the first one with the name. -/
theorem declarations_closed (api : Api α) (options : TypeOptions)
    (hk : (List.map (·.1) api.schemas).Nodup) (hm : options.referenceMode ≠ .name) :
    ((∀ s ∈ api.compiledSchemas, s.IsWritableWithin) →
      ∃ ds, (api.declarations options).outcome = .ok ds) ∧
    ∀ ds, (api.declarations options).outcome = .ok ds →
      Declaration.dangling ds = [] ∧
      ∀ d ∈ ds, ∀ n, d.expression.Mentions n → ∃ a r, api.schemas.lookup n = some a ∧
        ds.find? (fun d => d.name = n) = some r ∧ Registers api options (n, a) r := by
  refine ⟨declarations_returns options, fun ds h => ?_⟩
  have declared : ∀ d ∈ ds, ∀ n, d.expression.Mentions n → ∃ a r,
      api.schemas.lookup n = some a ∧ ds.find? (fun d => d.name = n) = some r ∧
      Registers api options (n, a) r := by
    intro d hd n hn
    obtain ⟨a, hl⟩ := lookup_of_mentions hm h hd hn
    obtain ⟨registered, rest, rfl, hr⟩ := declarations_registered hk h
    obtain ⟨r, hr, hreg⟩ := find?_registered rest hr hl
    exact ⟨a, r, hl, hr, hreg⟩
  refine ⟨dangling_eq_nil fun d hd n hn => ?_, declared⟩
  obtain ⟨a, r, -, hr, hreg⟩ := declared d hd n hn
  exact ⟨r, List.mem_of_find?_eq_some hr, hreg.name⟩

/-- The type of linked numbers, with references followed as far as they can be. -/
def linkedExpression : TypeExpr :=
  .record [⟨"number", false, .number⟩, ⟨"next", true, .reference "Linked"⟩]

/-- The type of linked numbers mentions its own name. -/
theorem declarations_closed_linked :
    (List.map (·.1) linked.schemas).Nodup ∧
    ({ referenceMode := .inline } : TypeOptions).referenceMode ≠ .name ∧
    (linked.declarations { referenceMode := .inline }).outcome
      = .ok [⟨"Linked", .record, linkedExpression, .schema⟩] ∧
    linkedExpression.Mentions "Linked" ∧
    Declaration.dangling [⟨"Linked", .record, linkedExpression, .schema⟩] = [] := by
  have compiled : (linked.declarations { referenceMode := .inline }).outcome
      = .ok [⟨"Linked", .record, linkedExpression, .schema⟩] := rfl
  have closed := declarations_closed linked { referenceMode := .inline } (by decide) (by decide)
  have mentions : linkedExpression.Mentions "Linked" :=
    .property (p := ⟨"next", true, .reference "Linked"⟩) (by simp) .reference
  exact ⟨by decide, by decide, compiled, mentions, (closed.2 _ compiled).1⟩

end Api

end ApiBridge
