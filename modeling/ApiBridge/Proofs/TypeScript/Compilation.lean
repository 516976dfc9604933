import ApiBridge.Proofs.Outcome
import ApiBridge.TypeScript.Compile

/-!
# What compiling one layer does

`Compiled` lists, one constructor for each rule, what the compiler makes of a schema when it has
`fuel + 1` levels left, in terms of what it makes of the schemas inside with `fuel` levels left.
`compileWithin_succ` says that these are all the rules. What is proved about compiled expressions
goes by induction on the levels and by cases on the rules.
-/

namespace ApiBridge

variable {α : Type} [Layered α]

/-! ### Types that are known -/

/-- The words of `type` that the compiler knows. -/
def Schema.knownTypes : List String :=
  ["string", "integer", "number", "boolean", "array", "object"]

/-- No type that the compiler knows is declared. -/
def Schema.IsUntyped (schema : Schema α) : Prop :=
  ∀ w ∈ Schema.knownTypes, schema.declaredType? ≠ some w

lemma Schema.isUntyped_of_ne {schema : Schema α} (string : schema.declaredType? ≠ some "string")
    (integer : schema.declaredType? ≠ some "integer")
    (number : schema.declaredType? ≠ some "number")
    (boolean : schema.declaredType? ≠ some "boolean")
    (array : schema.declaredType? ≠ some "array")
    (object : schema.declaredType? ≠ some "object") : schema.IsUntyped := by
  intro w hw
  simp only [Schema.knownTypes, List.mem_cons, List.not_mem_nil, or_false] at hw
  rcases hw with rfl | rfl | rfl | rfl | rfl | rfl
  all_goals assumption

namespace TypeExpr

/-! ### Rules -/

/-- A member of a record stands for an entry of `properties`, where `expand` compiles the schema of
a property. -/
structure MemberOf (expand : Schema α → String → Compiling) (required : List String)
    (p : Scalar × α) (m : Property TypeExpr) : Prop where
  name : p.1.written = .ok m.name
  optional : m.optional = !required.contains m.name
  type : (expand (layer p.2) m.name).outcome = .ok m.type

/-- What compiling a schema with `fuel + 1` levels left comes to. -/
inductive Compiled (registry : Registry α) (options : TypeOptions) (fuel : Nat)
    (schema : Schema α) (context : String) (opened : List String) : TypeExpr → Prop
  | literals {values : List α} (ht : schema.declaredType? = some "string")
      (hv : schema.keyword? "enum" = some (.list values)) :
      Compiled registry options fuel schema context opened (.literals (values.map Layered.value))
  | string (ht : schema.declaredType? = some "string")
      (hv : ∀ values, schema.keyword? "enum" ≠ some (.list values)) :
      Compiled registry options fuel schema context opened .string
  | number (ht : schema.declaredType? = some "integer" ∨ schema.declaredType? = some "number") :
      Compiled registry options fuel schema context opened .number
  | boolean (ht : schema.declaredType? = some "boolean") :
      Compiled registry options fuel schema context opened .boolean
  | sequence {entries : List (Scalar × α)} {item : TypeExpr}
      (ht : schema.declaredType? = some "array")
      (hi : schema.keyword? "items" = some (.map entries))
      (h : (compileWithin registry options fuel (.map entries) (context ++ "Item") opened).outcome
        = .ok item) :
      Compiled registry options fuel schema context opened (.sequence item)
  | anySequence (ht : schema.declaredType? = some "array")
      (hi : ∀ entries, schema.keyword? "items" ≠ some (.map entries)) :
      Compiled registry options fuel schema context opened .anySequence
  | record {properties : List (Scalar × α)} {required : List String}
      {members : List (Property TypeExpr)}
      (ht : schema.declaredType? = some "object")
      (hp : schema.properties? = some properties)
      (hr : schema.requiredNames = .ok required)
      (h : List.Forall₂ (MemberOf (fun schema name =>
        compileWithin registry options fuel schema name opened) required) properties members) :
      Compiled registry options fuel schema context opened (.record members)
  | mapping (ht : schema.declaredType? = some "object") (hp : schema.properties? = none) :
      Compiled registry options fuel schema context opened .mapping
  | nameless {target : String} (ht : schema.IsUntyped)
      (hr : schema.keyword? "$ref" = some (.scalar (.text target)))
      (hn : Name.ofReference target = "") :
      Compiled registry options fuel schema context opened .any
  | named {target : String} (ht : schema.IsUntyped)
      (hr : schema.keyword? "$ref" = some (.scalar (.text target)))
      (hn : Name.ofReference target ≠ "") (hm : options.referenceMode = .name) :
      Compiled registry options fuel schema context opened
        (.reference (Name.ofReference target))
  | unknown {target : String} (ht : schema.IsUntyped)
      (hr : schema.keyword? "$ref" = some (.scalar (.text target)))
      (hn : Name.ofReference target ≠ "") (hm : options.referenceMode ≠ .name)
      (hl : registry.lookup (Name.ofReference target) = none) :
      Compiled registry options fuel schema context opened .any
  | registered {target : String} {a : α} (ht : schema.IsUntyped)
      (hr : schema.keyword? "$ref" = some (.scalar (.text target)))
      (hn : Name.ofReference target ≠ "")
      (hl : registry.lookup (Name.ofReference target) = some a)
      (hm : options.referenceMode = .verify ∨
        options.referenceMode = .inline ∧ Name.ofReference target ∈ opened) :
      Compiled registry options fuel schema context opened
        (.reference (Name.ofReference target))
  | expanded {target : String} {a : α} {e : TypeExpr} (ht : schema.IsUntyped)
      (hr : schema.keyword? "$ref" = some (.scalar (.text target)))
      (hn : Name.ofReference target ≠ "") (hm : options.referenceMode = .inline)
      (hl : registry.lookup (Name.ofReference target) = some a)
      (ho : Name.ofReference target ∉ opened)
      (h : (compileWithin registry options fuel (layer a) (Name.ofReference target)
        (Name.ofReference target :: opened)).outcome = .ok e) :
      Compiled registry options fuel schema context opened e
  | any (ht : schema.IsUntyped)
      (hr : ∀ target, schema.keyword? "$ref" ≠ some (.scalar (.text target))) :
      Compiled registry options fuel schema context opened .any

variable {registry : Registry α} {options : TypeOptions} {fuel : Nat} {schema : Schema α}
  {context : String} {opened : List String} {e : TypeExpr}

lemma compileWithin_zero :
    (compileWithin registry options 0 schema context opened).outcome = .ok .any := by
  simp [compileWithin]

lemma ofProperties_eq_ok {expand : Schema α → String → Compiling} {required : List String}
    {properties : List (Scalar × α)} :
    (ofProperties expand required properties).outcome = .ok e ↔
      ∃ members, e = .record members ∧
        List.Forall₂ (MemberOf expand required) properties members := by
  have member (p : Scalar × α) (m : Property TypeExpr) :
      (Attempt.outcome (do
        let name ← Attempt.ofExcept id p.1.written
        let type ← expand (layer p.2) name
        return (⟨name, !required.contains name, type⟩ : Property TypeExpr)) = .ok m) ↔
      MemberOf expand required p m := by
    obtain ⟨name, optional, type⟩ := m
    simp only [Attempt.outcome_bind, Attempt.outcome_ofExcept, Attempt.outcome_pure,
      bind_eq_ok_iff, mapError_eq_ok_iff, Except.ok.injEq, Property.mk.injEq]
    constructor
    · rintro ⟨_, hname, _, htype, rfl, rfl, rfl⟩
      exact ⟨hname, rfl, htype⟩
    · rintro ⟨hname, hoptional, htype⟩
      exact ⟨_, hname, _, htype, rfl, hoptional.symm, rfl⟩
  simp only [ofProperties, Attempt.outcome_map, Attempt.outcome_mapM, map_eq_ok_iff,
    mapM_eq_ok_iff, member]
  grind

/-- The members of a record are there when the names have texts and the types are there. -/
lemma ofProperties_returns (expand : Schema α → String → Compiling) (required : List String)
    {properties : List (Scalar × α)} (hn : ∀ p ∈ properties, p.1.isWritable = true)
    (h : ∀ p ∈ properties, ∀ name, ∃ e, (expand (layer p.2) name).outcome = .ok e) :
    ∃ members, List.Forall₂ (MemberOf expand required) properties members := by
  induction properties with
  | nil => exact ⟨[], .nil⟩
  | cons p ps ih =>
    obtain ⟨e, he⟩ := h p (by simp) p.1.display
    obtain ⟨members, hm⟩ := ih (fun q hq => hn q (by simp [hq])) fun q hq => h q (by simp [hq])
    have hw : p.1.written = .ok p.1.display := by simp [Scalar.written, hn p (by simp)]
    exact ⟨⟨p.1.display, !required.contains p.1.display, e⟩ :: members, .cons ⟨hw, rfl, he⟩ hm⟩

/-- A schema without a known type is only a reference, if it is anything. -/
lemma compileWithin_of_isUntyped (ht : schema.IsUntyped) :
    compileWithin registry options (fuel + 1) schema context opened =
      match schema.keyword? "$ref" with
      | some (.scalar (.text target)) =>
        ofReference registry options.referenceMode opened (compileWithin registry options fuel)
          target
      | _ => pure .any := by
  have h (w : String) (hw : w ∈ Schema.knownTypes) : schema.declaredType? ≠ some w := ht w hw
  simp only [Schema.knownTypes, List.mem_cons, List.not_mem_nil, or_false] at h
  rw [compileWithin]
  split
  case h_7 => rfl
  all_goals grind

lemma compiled_of_ofReference {target : String} (ht : schema.IsUntyped)
    (hr : schema.keyword? "$ref" = some (.scalar (.text target)))
    (h : (ofReference registry options.referenceMode opened (compileWithin registry options fuel)
      target).outcome = .ok e) :
    Compiled registry options fuel schema context opened e := by
  by_cases hn : Name.ofReference target = ""
  · simp only [ofReference, hn, ↓reduceIte, Attempt.outcome_pure, Except.ok.injEq] at h
    exact h ▸ .nameless ht hr hn
  · simp only [ofReference, hn, ↓reduceIte] at h
    cases hm : options.referenceMode with
    | name =>
      simp only [hm, Attempt.outcome_pure, Except.ok.injEq] at h
      exact h ▸ .named ht hr hn hm
    | verify =>
      cases hl : registry.lookup (Name.ofReference target) with
      | none =>
        simp [hm, hl] at h
        exact h ▸ .unknown ht hr hn (by simp [hm]) hl
      | some a =>
        simp only [hm, hl, Attempt.outcome_pure, Except.ok.injEq] at h
        exact h ▸ .registered ht hr hn hl (.inl hm)
    | inline =>
      cases hl : registry.lookup (Name.ofReference target) with
      | none =>
        simp [hm, hl] at h
        exact h ▸ .unknown ht hr hn (by simp [hm]) hl
      | some a =>
        by_cases ho : Name.ofReference target ∈ opened
        · simp [hm, hl, ho] at h
          exact h ▸ .registered ht hr hn hl (.inr ⟨hm, ho⟩)
        · simp [hm, hl, ho] at h
          exact .expanded ht hr hn hm hl ho h

theorem compileWithin_succ :
    (compileWithin registry options (fuel + 1) schema context opened).outcome = .ok e ↔
      Compiled registry options fuel schema context opened e := by
  constructor
  · intro h
    by_cases ht : schema.IsUntyped
    · rw [compileWithin_of_isUntyped ht] at h
      split at h
      case h_1 hr => exact compiled_of_ofReference ht hr h
      case h_2 hr => cases h; exact .any ht hr
    · rw [compileWithin] at h
      split at h
      case h_1 ht =>
        split at h
        case h_1 hv => cases h; exact .literals ht hv
        case h_2 hv => cases h; exact .string ht hv
      case h_2 ht => cases h; exact .number (.inl ht)
      case h_3 ht => cases h; exact .number (.inr ht)
      case h_4 ht => cases h; exact .boolean ht
      case h_5 ht =>
        split at h
        case h_1 hi =>
          obtain ⟨item, hitem, rfl⟩ := map_eq_ok_iff.1 (by simpa using h)
          exact .sequence ht hi hitem
        case h_2 hi => cases h; exact .anySequence ht hi
      case h_6 ht =>
        split at h
        case h_1 hp =>
          simp only [Attempt.outcome_bind, Attempt.outcome_ofExcept, bind_eq_ok_iff,
            mapError_eq_ok_iff, ofProperties_eq_ok] at h
          obtain ⟨required, hr, members, rfl, hm⟩ := h
          exact .record ht hp hr hm
        case h_2 hp => cases h; exact .mapping ht hp
      case h_7 h1 h2 h3 h4 h5 h6 => exact absurd (Schema.isUntyped_of_ne h1 h2 h3 h4 h5 h6) ht
  · intro h
    cases h with
    | literals ht hv => simp [compileWithin, ht, hv]
    | string ht hv => simp [compileWithin, ht]
    | number ht => rcases ht with ht | ht <;> simp [compileWithin, ht]
    | boolean ht => simp [compileWithin, ht]
    | sequence ht hi h => simp [compileWithin, ht, hi, h]
    | anySequence ht hi => simp [compileWithin, ht]
    | record ht hp hr h =>
      simp only [compileWithin, ht, hp, Attempt.outcome_bind, Attempt.outcome_ofExcept,
        bind_eq_ok_iff, mapError_eq_ok_iff, ofProperties_eq_ok]
      exact ⟨_, hr, _, rfl, h⟩
    | mapping ht hp => simp [compileWithin, ht, hp]
    | nameless ht hr hn => simp [compileWithin_of_isUntyped ht, hr, ofReference, hn]
    | named ht hr hn hm => simp [compileWithin_of_isUntyped ht, hr, ofReference, hn, hm]
    | unknown ht hr hn hm hl =>
      simp [compileWithin_of_isUntyped ht, hr, ofReference, hn, hl]
    | registered ht hr hn hl hm =>
      rcases hm with hm | ⟨hm, ho⟩
      · simp [compileWithin_of_isUntyped ht, hr, ofReference, hn, hl, hm]
      · simp [compileWithin_of_isUntyped ht, hr, ofReference, hn, hl, hm, ho]
    | expanded ht hr hn hm hl ho h =>
      simp [compileWithin_of_isUntyped ht, hr, ofReference, hn, hl, hm, ho, h]
    | any ht hr => simp [compileWithin_of_isUntyped ht]

/-! ### Expressions of a type -/

lemma Compiled.of_string (h : Compiled registry options fuel schema context opened e)
    (ht : schema.declaredType? = some "string") :
    (∃ values, schema.keyword? "enum" = some (.list values) ∧
      e = .literals (values.map Layered.value)) ∨ e = .string := by
  cases h with
  | literals _ hv => exact .inl ⟨_, hv, rfl⟩
  | string => exact .inr rfl
  | _ => simp_all [Schema.IsUntyped, Schema.knownTypes]

lemma Compiled.of_number (h : Compiled registry options fuel schema context opened e)
    (ht : schema.declaredType? = some "integer" ∨ schema.declaredType? = some "number") :
    e = .number := by
  cases h with
  | number => rfl
  | _ => rcases ht with ht | ht <;> simp_all [Schema.IsUntyped, Schema.knownTypes]

lemma Compiled.of_boolean (h : Compiled registry options fuel schema context opened e)
    (ht : schema.declaredType? = some "boolean") : e = .boolean := by
  cases h with
  | boolean => rfl
  | _ => simp_all [Schema.IsUntyped, Schema.knownTypes]

lemma Compiled.of_array (h : Compiled registry options fuel schema context opened e)
    (ht : schema.declaredType? = some "array") :
    (∃ entries item, schema.keyword? "items" = some (.map entries) ∧ e = .sequence item ∧
      (compileWithin registry options fuel (.map entries) (context ++ "Item") opened).outcome
        = .ok item) ∨ e = .anySequence := by
  cases h with
  | sequence _ hi h => exact .inl ⟨_, _, hi, rfl, h⟩
  | anySequence => exact .inr rfl
  | _ => simp_all [Schema.IsUntyped, Schema.knownTypes]

lemma Compiled.of_object (h : Compiled registry options fuel schema context opened e)
    (ht : schema.declaredType? = some "object") :
    (∃ properties required members, schema.properties? = some properties ∧
      schema.requiredNames = .ok required ∧ e = .record members ∧
      List.Forall₂ (MemberOf (fun schema name =>
        compileWithin registry options fuel schema name opened) required) properties members) ∨
    schema.properties? = none ∧ e = .mapping := by
  cases h with
  | record _ hp hr h => exact .inl ⟨_, _, _, hp, hr, rfl, h⟩
  | mapping _ hp => exact .inr ⟨hp, rfl⟩
  | _ => simp_all [Schema.IsUntyped, Schema.knownTypes]

lemma Compiled.of_isUntyped (h : Compiled registry options fuel schema context opened e)
    (ht : schema.IsUntyped) :
    e = .any ∨ ∃ target, schema.keyword? "$ref" = some (.scalar (.text target)) ∧
      (e = .reference (Name.ofReference target) ∨
        ∃ a, registry.lookup (Name.ofReference target) = some a ∧
          (compileWithin registry options fuel (layer a) (Name.ofReference target)
            (Name.ofReference target :: opened)).outcome = .ok e) := by
  cases h with
  | nameless | unknown | any => exact .inl rfl
  | named _ hr => exact .inr ⟨_, hr, .inl rfl⟩
  | registered _ hr => exact .inr ⟨_, hr, .inl rfl⟩
  | expanded _ hr _ _ hl _ h => exact .inr ⟨_, hr, .inr ⟨_, hl, h⟩⟩
  | literals hd | string hd | boolean hd | sequence hd | anySequence hd | record hd
  | mapping hd => exact absurd hd (ht _ (by decide))
  | number hd =>
    rcases hd with hd | hd
    · exact absurd hd (ht _ (by decide))
    · exact absurd hd (ht _ (by decide))

end TypeExpr

/-! ### Schemas inside a schema -/

namespace Schema

/-- A schema stands inside another one: as itself, or inside its items or a property. -/
inductive Inside : Schema α → Schema α → Prop
  | self (s : Schema α) : Inside s s
  | items {s t u : Schema α} (h : s.keyword? "items" = some t) (hu : Inside u t) : Inside u s
  | property {s u : Schema α} {properties : List (Scalar × α)} {e : Scalar × α}
      (h : s.properties? = some properties) (he : e ∈ properties) (hu : Inside u (layer e.2)) :
      Inside u s

/-- The names that a schema gives its properties and requires have texts. -/
structure IsWritable (s : Schema α) : Prop where
  properties : ∀ ps, s.properties? = some ps → ∀ e ∈ ps, e.1.isWritable = true
  required : ∀ names, s.keyword? "required" = some (.list names) → ∀ a ∈ names, ∀ n,
    layer a = .scalar (.int n) → (Scalar.int n).isWritable = true

/-- So do the names in all schemas inside. -/
def IsWritableWithin (s : Schema α) : Prop :=
  ∀ t, Inside t s → t.IsWritable

lemma IsWritableWithin.items {s t : Schema α} (hs : s.IsWritableWithin)
    (h : s.keyword? "items" = some t) : t.IsWritableWithin :=
  fun u hu => hs u (.items h hu)

lemma IsWritableWithin.property {s : Schema α} (hs : s.IsWritableWithin)
    {properties : List (Scalar × α)} (h : s.properties? = some properties)
    {e : Scalar × α} (he : e ∈ properties) : IsWritableWithin (layer e.2) :=
  fun u hu => hs u (.property h he hu)

lemma IsWritable.requiredNames_returns {s : Schema α} (hs : s.IsWritable) :
    ∃ required, s.requiredNames = .ok required := by
  rw [requiredNames]
  split
  case h_1 names h =>
    have hnames : ∀ a ∈ names, ∃ name, requiredName? (layer a) = .ok name := by
      intro a ha
      have hn := hs.required names h a ha
      unfold requiredName?
      split
      case h_2 n hl => exact ⟨_, by simp [Scalar.written, hn n hl]; rfl⟩
      all_goals exact ⟨_, rfl⟩
    obtain ⟨found, hfound⟩ := mapM_returns hnames
    exact ⟨_, by rw [hfound]; rfl⟩
  case h_2 => exact ⟨_, rfl⟩

end Schema

namespace TypeExpr

variable {registry : Registry α} {options : TypeOptions}

/-- A schema has an expression where its names have texts and the schemas that it leads to have
expressions, with one level less: one case for each rule. -/
lemma exists_compiled {fuel : Nat} {schema : Schema α} {context : String} {opened : List String}
    (hi : schema.declaredType? = some "array" → ∀ entries,
      schema.keyword? "items" = some (.map entries) → ∃ e, (compileWithin registry options fuel
        (.map entries) (context ++ "Item") opened).outcome = .ok e)
    (hp : schema.declaredType? = some "object" → ∀ ps, schema.properties? = some ps →
      schema.IsWritable ∧ ∀ p ∈ ps, ∀ name, ∃ e, (compileWithin registry options fuel (layer p.2)
        name opened).outcome = .ok e)
    (hr : options.referenceMode = .inline → schema.IsUntyped → ∀ target a,
      schema.keyword? "$ref" = some (.scalar (.text target)) → Name.ofReference target ≠ "" →
      registry.lookup (Name.ofReference target) = some a → Name.ofReference target ∉ opened →
      ∃ e, (compileWithin registry options fuel (layer a) (Name.ofReference target)
        (Name.ofReference target :: opened)).outcome = .ok e) :
    ∃ e, Compiled registry options fuel schema context opened e := by
  by_cases ht : schema.IsUntyped
  · by_cases href : ∃ target, schema.keyword? "$ref" = some (.scalar (.text target))
    · obtain ⟨target, href⟩ := href
      by_cases hn : Name.ofReference target = ""
      · exact ⟨_, .nameless ht href hn⟩
      cases hm : options.referenceMode with
      | name => exact ⟨_, .named ht href hn hm⟩
      | verify =>
        cases hl : registry.lookup (Name.ofReference target) with
        | none => exact ⟨_, .unknown ht href hn (by simp [hm]) hl⟩
        | some a => exact ⟨_, .registered ht href hn hl (.inl hm)⟩
      | inline =>
        cases hl : registry.lookup (Name.ofReference target) with
        | none => exact ⟨_, .unknown ht href hn (by simp [hm]) hl⟩
        | some a =>
          by_cases ho : Name.ofReference target ∈ opened
          · exact ⟨_, .registered ht href hn hl (.inr ⟨hm, ho⟩)⟩
          · obtain ⟨e, he⟩ := hr hm ht target a href hn hl ho
            exact ⟨e, .expanded ht href hn hm hl ho he⟩
    · exact ⟨_, .any ht (not_exists.1 href)⟩
  · simp only [Schema.IsUntyped, Schema.knownTypes, not_forall, not_not] at ht
    obtain ⟨w, hw, ht⟩ := ht
    simp only [List.mem_cons, List.not_mem_nil, or_false] at hw
    rcases hw with rfl | rfl | rfl | rfl | rfl | rfl
    · by_cases hv : ∃ values, schema.keyword? "enum" = some (.list values)
      · obtain ⟨values, hv⟩ := hv
        exact ⟨_, .literals ht hv⟩
      · exact ⟨_, .string ht (not_exists.1 hv)⟩
    · exact ⟨_, .number (.inl ht)⟩
    · exact ⟨_, .number (.inr ht)⟩
    · exact ⟨_, .boolean ht⟩
    · by_cases hitems : ∃ entries, schema.keyword? "items" = some (.map entries)
      · obtain ⟨entries, hitems⟩ := hitems
        obtain ⟨item, hitem⟩ := hi ht entries hitems
        exact ⟨_, .sequence ht hitems hitem⟩
      · exact ⟨_, .anySequence ht (not_exists.1 hitems)⟩
    · cases hps : schema.properties? with
      | none => exact ⟨_, .mapping ht hps⟩
      | some properties =>
        obtain ⟨writable, each⟩ := hp ht properties hps
        obtain ⟨required, hreq⟩ := writable.requiredNames_returns
        obtain ⟨members, hm⟩ := ofProperties_returns
          (fun schema name => compileWithin registry options fuel schema name opened) required
          (writable.properties properties hps) each
        exact ⟨_, .record ht hps hreq hm⟩

/-- Where all names have texts, compilation returns an expression. Registered schemas matter only
where they are expanded. -/
theorem compileWithin_returns_of_expanded
    (hr : options.referenceMode = .inline → ∀ e ∈ registry, Schema.IsWritableWithin (layer e.2))
    (fuel : Nat) {schema : Schema α} (hs : schema.IsWritableWithin) (context : String)
    (opened : List String) :
    ∃ e, (compileWithin registry options fuel schema context opened).outcome = .ok e := by
  induction fuel generalizing schema context opened with
  | zero => exact ⟨.any, compileWithin_zero⟩
  | succ fuel ih =>
    simp only [compileWithin_succ]
    refine exists_compiled (fun _ entries hi => ih (hs.items hi) _ _) (fun _ ps hps => ?_) ?_
    · exact ⟨hs schema (.self schema), fun p hp name => ih (hs.property hps hp) name opened⟩
    · exact fun hm _ _ _ _ _ hl _ => ih (hr hm _ (mem_of_lookup hl)) _ _

theorem compileWithin_returns (hr : ∀ e ∈ registry, Schema.IsWritableWithin (layer e.2))
    (fuel : Nat) {schema : Schema α} (hs : schema.IsWritableWithin) (context : String)
    (opened : List String) :
    ∃ e, (compileWithin registry options fuel schema context opened).outcome = .ok e :=
  compileWithin_returns_of_expanded (fun _ => hr) fuel hs context opened

end TypeExpr

end ApiBridge
