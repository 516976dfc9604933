import ApiBridge.Proofs.TypeScript.Agreement

/-!
# What is read of the registry

The compiler looks up no names but those that references lead to, so that it does not matter what
else a registry holds, nor in which order. Where references are verified only, it does not matter
what is registered under a name, and where they are copied, the registry does not matter at all.
-/

namespace ApiBridge

variable {α : Type} [Layered α] {registry registry' : Registry α}

namespace Schema

variable {s : Schema α} {n : String}

/-- A schema refers to one name at most. -/
lemma RefersTo.eq_ofReference (h : s.RefersTo n) {target : String}
    (ht : s.keyword? "$ref" = some (.scalar (.text target))) : n = Name.ofReference target := by
  obtain ⟨target', ht', rfl⟩ := h.reference
  cases ht'.symm.trans ht
  rfl

/-- From a schema with a known type, names are reached through its parts. -/
lemma exists_holds_of_reaches {w : String} (ht : s.declaredType? = some w) (hw : w ∈ knownTypes)
    (h : s.Reaches registry n) : ∃ b t, s.Holds b t ∧ t.Reaches registry n := by
  cases h with
  | reference h | entry h => exact absurd ht (h.untyped w hw)
  | part h hn => exact ⟨_, _, h, hn⟩

end Schema

namespace TypeExpr

variable {options : TypeOptions} {schema : Schema α}

/-- The registry does not matter where look-ups go on alike on the whole way of the compiler. -/
lemma compileWithin_eq_of_closed {P : Schema α → Prop}
    (hp : ∀ s b t, P s → s.Holds b t → P t)
    (he : ∀ s n, P s → s.RefersTo n → EntriesAgree options.referenceMode (fun s t => s = t ∧ P s)
      (registry.lookup n) (registry'.lookup n))
    (h : P schema) (fuel : Nat) (context : String) (opened : List String) :
    compileWithin registry options fuel schema context opened =
      compileWithin registry' options fuel schema context opened := by
  refine compileWithin_congr (R := fun s t => s = t ∧ P s) ?_ ?_ fuel ⟨rfl, h⟩ context opened
  · rintro s _ ⟨rfl, hs⟩
    exact Schema.agree_of_keyword? (fun _ _ => rfl) fun b t ht => ⟨rfl, hp s b t hs ht⟩
  · rintro s _ ⟨rfl, hs⟩ n hn
    exact he s n hs hn

/-- A schema is compiled alike, with the same reports, in registries that agree on the names it
reaches. Where references are verified, registries may differ in what is registered; where they are
copied, registries may be any. -/
theorem compile_local (registry registry' : Registry α) (options : TypeOptions) (schema : Schema α)
    (context : String) (identity : Option String) :
    ((∀ n, schema.Reaches registry n → registry.lookup n = registry'.lookup n) →
      compile registry options schema context identity =
        compile registry' options schema context identity) ∧
    (options.referenceMode = .verify →
      (∀ n, schema.Reaches [] n → (registry.lookup n).isSome = (registry'.lookup n).isSome) →
      compile registry options schema context identity =
        compile registry' options schema context identity) ∧
    (options.referenceMode = .name →
      compile registry options schema context identity =
        compile registry' options schema context identity) := by
  refine ⟨fun h => ?_, fun hm h => ?_, fun hm => ?_⟩
  · refine compileWithin_eq_of_closed
      (P := fun s => ∀ n, s.Reaches registry n → registry.lookup n = registry'.lookup n)
      (fun s b t hs ht n hn => hs n (.part ht hn)) (fun s n hs hn => ?_) h _ _ _
    rw [← hs n (.reference hn)]
    cases options.referenceMode with
    | name => trivial
    | verify => rfl
    | inline =>
      cases hl : registry.lookup n with
      | none => exact .none
      | some a => exact .some ⟨rfl, fun m hm => hs m (.entry hn hl hm)⟩
  · refine compileWithin_eq_of_closed
      (P := fun s => ∀ n, s.Reaches [] n → (registry.lookup n).isSome = (registry'.lookup n).isSome)
      (fun s b t hs ht n hn => hs n (.part ht hn)) (fun s n hs hn => ?_) h _ _ _
    rw [hm]
    exact hs n (.reference hn)
  · refine compileWithin_eq_of_closed (P := fun _ => True) (fun _ _ _ _ _ => trivial)
      (fun s n _ _ => ?_) trivial _ _ _
    rw [hm]
    trivial

/-- A list of what is registered as a step. -/
def stepList : Value :=
  .ofFields [("type", .text "array"), ("items", .ofFields [("$ref", .text "#/components/schemas/Step")])]

/-- A registry with steps and stairs. -/
def stairs : Registry Value :=
  [("Step", .ofFields [("type", .text "integer")]), ("Stair", .ofFields [("type", .text "string")])]

/-- The stairs are other ones, there are doors, and the steps are still the same. -/
def stairsWithDoor : Registry Value :=
  [("Door", .ofFields [("type", .text "boolean")]), ("Stair", .ofFields [("type", .text "boolean")]),
    ("Step", .ofFields [("type", .text "integer")])]

lemma eq_of_reaches_stepList {n : String} (h : Schema.Reaches stairs stepList.layer n) :
    n = "Step" := by
  obtain ⟨b, t, ht, h⟩ := Schema.exists_holds_of_reaches (w := "array") rfl (by decide) h
  cases ht with
  | property ht => exact absurd ht (by decide)
  | items _ hi =>
    cases hi
    cases h with
    | reference h => exact h.eq_ofReference rfl
    | part ht => cases ht <;> contradiction
    | entry hm hl h =>
      cases hm.eq_ofReference rfl
      cases hl
      obtain ⟨b, t, ht, -⟩ := Schema.exists_holds_of_reaches (w := "integer") rfl (by decide) h
      cases ht <;> contradiction

/-- Steps are expanded alike, whatever becomes of the stairs. -/
theorem compile_local_stairs :
    (∀ n, Schema.Reaches stairs stepList.layer n → stairs.lookup n = stairsWithDoor.lookup n) ∧
    stairs ≠ stairsWithDoor ∧
    compile stairs { referenceMode := .inline } stepList.layer "" none =
      compile stairsWithDoor { referenceMode := .inline } stepList.layer "" none ∧
    (compile stairsWithDoor { referenceMode := .inline } stepList.layer "" none).outcome =
      .ok (.sequence .number) := by
  have agree (n : String) (h : Schema.Reaches stairs stepList.layer n) :
      stairs.lookup n = stairsWithDoor.lookup n := by
    rw [eq_of_reaches_stepList h]
    rfl
  obtain ⟨same, -, -⟩ := compile_local stairs stairsWithDoor { referenceMode := .inline }
    stepList.layer "" none
  have differ : stairs ≠ stairsWithDoor := fun h => absurd (congrArg List.length h) (by decide)
  exact ⟨agree, differ, same agree, rfl⟩

end TypeExpr

end ApiBridge
