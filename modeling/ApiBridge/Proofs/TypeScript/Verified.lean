import ApiBridge.Proofs.TypeScript.Compilation

/-!
# Verified references

A reference is verified by looking up the name that it refers to. With references verified, the
compiler does all that it does with names merely copied, and then erases the names that are not
registered: each of them stands for any value, and is reported once.
-/

namespace ApiBridge

/-- The reference that is said to lead to no registered schema. -/
def Notice.unknownReference? : Notice → Option String
  | .schemaUnknown reference => some reference
  | _ => none

namespace TypeExpr

/-! ### References of an expression -/

mutual

/-- The expression with any value in the place of each reference to a name that is not known. -/
def erased (known : String → Bool) : TypeExpr → TypeExpr
  | .sequence item => .sequence (item.erased known)
  | .record properties => .record (erasedAll known properties)
  | .reference name => if known name then .reference name else .any
  | e => e

def erasedAll (known : String → Bool) : List (Property TypeExpr) → List (Property TypeExpr)
  | [] => []
  | ⟨name, optional, type⟩ :: ps => ⟨name, optional, type.erased known⟩ :: erasedAll known ps

end

mutual

/-- The names of all references in an expression, in their order. -/
def references : TypeExpr → List String
  | .sequence item => item.references
  | .record properties => referencesOfAll properties
  | .reference name => [name]
  | _ => []

def referencesOfAll : List (Property TypeExpr) → List String
  | [] => []
  | ⟨_, _, type⟩ :: ps => type.references ++ referencesOfAll ps

end

/-! ### Computations that erase -/

/-- One computation comes to what another one comes to with the unknown names erased, and reports
the same and besides one unknown reference for each name that is erased. -/
structure Erases {τ : Type} (known : String → Bool) (erase : τ → τ) (names : τ → List String)
    (x y : Attempt TextError τ) : Prop where
  outcome : y.outcome = erase <$> x.outcome
  kept : y.run.notices.filter (fun n => n.unknownReference?.isNone) = x.run.notices
  reported : ∀ a, x.outcome = .ok a →
    (y.run.notices.filterMap Notice.unknownReference?).map Name.ofReference =
      (names a).filter (!known ·)

namespace Erases

variable {τ υ β : Type} {known : String → Bool} {erase : τ → τ} {names : τ → List String}
  {x y : Attempt TextError τ}

lemma pure {a b : τ} (he : erase a = b) (hn : (names a).filter (!known ·) = []) :
    Erases known erase names (pure a) (pure b) where
  outcome := by rw [Attempt.outcome_pure, Attempt.outcome_pure, ← he]; rfl
  kept := rfl
  reported a' ha := by
    obtain rfl : a = a' := Except.ok.inj ha
    rw [hn]
    rfl

/-- What is erased is reported. -/
lemma report {a b : τ} {reference : String} (he : erase a = b)
    (hn : (names a).filter (!known ·) = [Name.ofReference reference]) :
    Erases known erase names (Pure.pure a) (do
      Attempt.note (.schemaUnknown reference)
      return b) where
  outcome := by
    rw [Attempt.outcome_bind, Attempt.outcome_note, Attempt.outcome_pure, Attempt.outcome_pure,
      ← he]
    rfl
  kept := rfl
  reported a' ha := by
    obtain rfl : a = a' := Except.ok.inj ha
    rw [hn]
    rfl

/-- Of two parts, the second one goes on from what is erased in the first one. -/
lemma bind {erase' : υ → υ} {names' : υ → List String} {f g : τ → Attempt TextError υ}
    (h : Erases known erase names x y) (rest : τ → υ → List String)
    (hrest : ∀ a, x.outcome = .ok a → Erases known erase' (rest a) (f a) (g (erase a)))
    (hn : ∀ a b, (f a).outcome = .ok b → names' b = names a ++ rest a b) :
    Erases known erase' names' (x >>= f) (y >>= g) := by
  cases hx : x.outcome with
  | error e =>
    have hy : y.outcome = .error e := by rw [h.outcome, hx]; rfl
    refine ⟨?_, ?_, fun b hb => ?_⟩
    · rw [Attempt.outcome_bind, Attempt.outcome_bind, hx, hy]
      rfl
    · rw [Attempt.notices_bind_of_error hx, Attempt.notices_bind_of_error hy, h.kept]
    · rw [Attempt.outcome_bind, hx] at hb
      cases hb
  | ok a =>
    have hy : y.outcome = .ok (erase a) := by rw [h.outcome, hx]; rfl
    have second := hrest a hx
    refine ⟨?_, ?_, fun b hb => ?_⟩
    · rw [Attempt.outcome_bind, Attempt.outcome_bind, hx, hy]
      exact second.outcome
    · rw [Attempt.notices_bind_of_ok hx, Attempt.notices_bind_of_ok hy, List.filter_append, h.kept,
        second.kept]
    · have hb : (f a).outcome = .ok b := by rwa [Attempt.outcome_bind, hx] at hb
      rw [Attempt.notices_bind_of_ok hy, List.filterMap_append, List.map_append, h.reported a hx,
        second.reported b hb, hn a b hb, List.filter_append]

/-- What is built around a part has the references of the part. -/
lemma map {erase' : υ → υ} {names' : υ → List String} (h : Erases known erase names x y)
    (c : τ → υ) (he : ∀ a, erase' (c a) = c (erase a)) (hn : ∀ a, names' (c a) = names a) :
    Erases known erase' names' (c <$> x) (c <$> y) := by
  rw [← bind_pure_comp, ← bind_pure_comp]
  refine h.bind (fun _ _ => []) (fun a _ => .pure (he a) rfl) fun a b hb => ?_
  obtain rfl := Except.ok.inj hb
  rw [hn, List.append_nil]

/-- A text that is needed first is there for both or for none. -/
lemma ofExcept_bind {z : Except TextError β} {f g : β → Attempt TextError τ}
    (h : ∀ b, z = .ok b → Erases known erase names (f b) (g b)) :
    Erases known erase names (Attempt.ofExcept id z >>= f) (Attempt.ofExcept id z >>= g) := by
  cases z with
  | ok b => exact h b rfl
  | error e => exact ⟨rfl, rfl, fun a ha => by cases ha⟩

/-- The elements of a list are erased one after another. -/
lemma mapM {f g : β → Attempt TextError τ} {bs : List β}
    (h : ∀ b ∈ bs, Erases known erase names (f b) (g b)) :
    Erases known (List.map erase) (List.flatMap names) (bs.mapM f) (bs.mapM g) := by
  induction bs with
  | nil => exact .pure rfl rfl
  | cons b bs ih =>
    have rest := ih fun b' hb' => h b' (by simp [hb'])
    rw [List.mapM_cons, List.mapM_cons]
    refine (h b (by simp)).bind (fun _ as => as.tail.flatMap names) (fun a _ => ?_) ?_
    · exact rest.bind (fun _ _ => []) (fun as _ => .pure rfl rfl) fun as as' has => by
        obtain rfl := Except.ok.inj has
        exact (List.append_nil _).symm
    · intro a as has
      rw [Attempt.outcome_bind] at has
      obtain ⟨as, -, has⟩ := bind_eq_ok_iff.1 has
      obtain rfl := Except.ok.inj has
      rfl

end Erases

/-! ### Compiling -/

/-- The members of a record are erased in their types. -/
def erasedMember (known : String → Bool) (p : Property TypeExpr) : Property TypeExpr :=
  { p with type := p.type.erased known }

lemma erasedAll_eq (known : String → Bool) (ps : List (Property TypeExpr)) :
    erasedAll known ps = ps.map (erasedMember known) := by
  induction ps with
  | nil => rfl
  | cons p ps ih =>
    rw [erasedAll, ih, List.map_cons]
    rfl

lemma referencesOfAll_eq (ps : List (Property TypeExpr)) :
    referencesOfAll ps = ps.flatMap fun p => p.type.references := by
  induction ps with
  | nil => rfl
  | cons p ps ih => rw [referencesOfAll, ih, List.flatMap_cons]

lemma Erases.property {known : String → Bool} {x y : Compiling}
    (h : Erases known (erased known) references x y) (name : String) (optional : Bool) :
    Erases known (erasedMember known) (fun p => p.type.references)
      ((⟨name, optional, ·⟩) <$> x) ((⟨name, optional, ·⟩) <$> y) :=
  h.map _ (fun _ => rfl) fun _ => rfl

variable {α : Type} [Layered α] {registry : Registry α} {options : TypeOptions}

/-- Is there a registered schema of a name? -/
def isRegistered (registry : Registry α) (name : String) : Bool :=
  (registry.lookup name).isSome

/-- A computation with references copied, and one with references verified. -/
abbrev Verifies (registry : Registry α) (x y : Compiling) : Prop :=
  Erases (isRegistered registry) (erased (isRegistered registry)) references x y

lemma Verifies.ofReference {opened : List String}
    {expand expand' : Schema α → String → List String → Compiling} (target : String) :
    Verifies registry (ofReference registry .name opened expand target)
      (ofReference registry .verify opened expand' target) := by
  by_cases hn : Name.ofReference target = ""
  · simp only [TypeExpr.ofReference, hn, ↓reduceIte]
    exact .pure rfl rfl
  · simp only [TypeExpr.ofReference, hn, ↓reduceIte]
    cases hl : registry.lookup (Name.ofReference target) with
    | some a =>
      have hknown : isRegistered registry (Name.ofReference target) = true := by
        rw [isRegistered, hl, Option.isSome_some]
      refine .pure ?_ ?_
      · rw [erased, if_pos hknown]
      · simp [references, hknown]
    | none =>
      have hknown : isRegistered registry (Name.ofReference target) = false := by
        rw [isRegistered, hl, Option.isSome_none]
      refine .report ?_ ?_
      · rw [erased, hknown]
        rfl
      · simp [references, hknown]

lemma Verifies.ofProperties {expand expand' : Schema α → String → Compiling}
    (required : List String) {ps : List (Scalar × α)}
    (h : ∀ p ∈ ps, ∀ name, Verifies registry (expand (layer p.2) name)
      (expand' (layer p.2) name)) :
    Verifies registry (ofProperties expand required ps) (ofProperties expand' required ps) := by
  have members := Erases.mapM fun p hp =>
    Erases.ofExcept_bind (z := p.1.written) fun name _ =>
      (h p hp name).property name (!required.contains name)
  simp only [← bind_pure_comp] at members
  exact members.map TypeExpr.record (fun ps => by rw [erased, erasedAll_eq])
    fun ps => by rw [references, referencesOfAll_eq]

/-- At every nesting, the compiler erases what it does not find: by induction on the levels left,
one case for each kind of schema. -/
lemma compileWithin_verifies (fuel : Nat) (schema : Schema α) (context : String)
    (opened : List String) :
    Verifies registry
      (compileWithin registry { options with referenceMode := .name } fuel schema context opened)
      (compileWithin registry { options with referenceMode := .verify } fuel schema context
        opened) := by
  induction fuel generalizing schema context opened with
  | zero => exact ⟨rfl, rfl, fun e he => by cases he; rfl⟩
  | succ fuel ih =>
    by_cases ht : schema.IsUntyped
    · rw [compileWithin_of_isUntyped ht, compileWithin_of_isUntyped ht]
      split
      case h_1 target _ => exact Verifies.ofReference target
      case h_2 => exact .pure rfl rfl
    simp only [compileWithin]
    split
    case h_1 =>
      split
      case h_1 => exact .pure rfl rfl
      case h_2 => exact .pure rfl rfl
    case h_5 =>
      split
      case h_1 => exact (ih _ _ _).map TypeExpr.sequence (fun _ => rfl) fun _ => rfl
      case h_2 => exact .pure rfl rfl
    case h_6 =>
      split
      case h_1 =>
        exact Erases.ofExcept_bind fun required _ =>
          Verifies.ofProperties required fun p _ name => ih _ _ _
      case h_2 => exact .pure rfl rfl
    case h_7 h1 h2 h3 h4 h5 h6 => exact absurd (Schema.isUntyped_of_ne h1 h2 h3 h4 h5 h6) ht
    all_goals exact .pure rfl rfl

/-! ### Verified and copied -/

/-- Where references are verified, a schema is compiled to the expression that it has with
references copied, with any value in the place of each name that is not registered: at every
nesting, with every limit, and for every registry. Besides the notices of the other compilation,
one is reported for each reference that is erased, in their order, and no other. Unless the name of
a property or a required name has too many digits, there is an expression. -/
theorem compile_verified (registry : Registry α) (options : TypeOptions) (schema : Schema α)
    (context : String) (identity : Option String) :
    let copied := compile registry { options with referenceMode := .name } schema context identity
    let verified :=
      compile registry { options with referenceMode := .verify } schema context identity
    verified.outcome = erased (isRegistered registry) <$> copied.outcome ∧
    verified.run.notices.filter (fun n => n.unknownReference?.isNone) = copied.run.notices ∧
    (∀ e, copied.outcome = .ok e →
      (verified.run.notices.filterMap Notice.unknownReference?).map Name.ofReference =
        e.references.filter (!isRegistered registry ·)) ∧
    (schema.IsWritableWithin → ∃ e, copied.outcome = .ok e) := by
  intro copied verified
  have h : Verifies registry copied verified :=
    compileWithin_verifies (options.maxDepth + 1) schema context _
  refine ⟨h.outcome, h.kept, h.reported, fun hs => ?_⟩
  refine compileWithin_returns_of_expanded (fun hm => ?_) _ hs context _
  cases hm

/-- A registry of pets, and a schema that refers to them and twice to what is not registered. -/
def kennels : Registry Value × Value :=
  ([("Pet", .ofFields [("type", .text "string")])],
    .ofFields [("type", .text "object"), ("properties", .ofFields [
      ("pet", .ofFields [("$ref", .text "#/components/schemas/Pet")]),
      ("vets", .ofFields [("type", .text "array"),
        ("items", .ofFields [("$ref", .text "#/components/schemas/Vet")])]),
      ("owner", .ofFields [("$ref", .text "#/components/schemas/Owner")])])])

/-- Of three references, the one that is registered is kept and the other two are reported. -/
theorem compile_verified_kennels :
    let verified := compile kennels.1 { referenceMode := .verify } kennels.2.layer "Kennel" none
    verified.outcome = .ok (.record [⟨"pet", true, .reference "Pet"⟩,
      ⟨"vets", true, .sequence .any⟩, ⟨"owner", true, .any⟩]) ∧
    (verified.run.notices.filterMap Notice.unknownReference?).map Name.ofReference =
      ["Vet", "Owner"] := by
  obtain ⟨same, -, reported, -⟩ := compile_verified kennels.1 {} kennels.2.layer "Kennel" none
  have copied : (compile kennels.1 { referenceMode := .name } kennels.2.layer "Kennel" none).outcome
      = .ok (.record [⟨"pet", true, .reference "Pet"⟩,
        ⟨"vets", true, .sequence (.reference "Vet")⟩, ⟨"owner", true, .reference "Owner"⟩]) := rfl
  exact ⟨same.trans (congrArg _ copied), reported _ copied⟩

end TypeExpr

end ApiBridge
