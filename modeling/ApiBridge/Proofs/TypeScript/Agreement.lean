import ApiBridge.Proofs.TypeScript.Descent

/-!
# Schemas that are compiled alike

Two schemas agree when the compiler reads the same from both, and when what it goes on to read agrees
in turn. `compileWithin_congr` says that the compiler then does the same for both, reports included,
in registries that agree where they are looked into.
-/

namespace ApiBridge

variable {α : Type} [Layered α]

/-! ### What is read of a schema -/

namespace Schema

/-- The keywords that the compiler reads. -/
def keywords : List String :=
  ["type", "enum", "items", "properties", "required", "$ref"]

/-- The schema of the items, where it is a map. -/
def items? (s : Schema α) : Option (Schema α) :=
  match s.keyword? "items" with
  | some (.map entries) => some (.map entries)
  | _ => none

/-- What `required` lists, where it is a list. -/
def required? (s : Schema α) : Option (List α) :=
  (s.keyword? "required").bind Layer.items?

/-- The compiler reads the same from two schemas, but for parts that are related. Of `required` only
the entries count, in whatever order and however often they are listed. -/
structure Agree (R : Schema α → Schema α → Prop) (s t : Schema α) : Prop where
  type : s.declaredType? = t.declaredType?
  enum : s.declaredType? = some "string" → s.keyword? "enum" = t.keyword? "enum"
  items : s.declaredType? = some "array" → Option.Rel R s.items? t.items?
  properties : s.declaredType? = some "object" →
    Option.Rel (List.Forall₂ fun p q => p.1 = q.1 ∧ R (layer p.2) (layer q.2))
      s.properties? t.properties?
  required : s.declaredType? = some "object" →
    Option.Rel (fun xs ys => ∀ a, a ∈ xs ↔ a ∈ ys) s.required? t.required?
  reference : s.IsUntyped → s.keyword? "$ref" = t.keyword? "$ref"

variable {R : Schema α → Schema α → Prop} {s t : Schema α}

lemma Agree.isUntyped_iff (h : s.Agree R t) : s.IsUntyped ↔ t.IsUntyped := by
  rw [IsUntyped, IsUntyped, h.type]

/-- The schema of the items is what the compiler goes on to. -/
lemma holds_of_items? (ht : s.declaredType? = some "array") (h : s.items? = some t) :
    s.Holds .item t := by
  simp only [items?] at h
  split at h
  case h_1 entries hi =>
    cases h
    exact .items ht hi
  case h_2 => cases h

/-- A schema agrees with one in which the same stands under the keywords that are read, if each part
is related to itself. -/
lemma agree_of_keyword? (h : ∀ name ∈ keywords, s.keyword? name = t.keyword? name)
    (hp : ∀ b u, s.Holds b u → R u u) : s.Agree R t where
  type := by rw [declaredType?, declaredType?, h "type" (by decide)]
  enum _ := h "enum" (by decide)
  items ht := by
    have same : t.items? = s.items? := by rw [items?, items?, h "items" (by decide)]
    rw [same]
    cases hi : s.items? with
    | none => exact .none
    | some u => exact .some (hp .item u (holds_of_items? ht hi))
  properties ht := by
    have same : t.properties? = s.properties? := by
      rw [properties?, properties?, h "properties" (by decide)]
    rw [same]
    cases hps : s.properties? with
    | none => exact .none
    | some ps =>
      refine .some (List.forall₂_same.2 fun p hp' => ⟨rfl, ?_⟩)
      obtain ⟨index, hi⟩ := List.getElem?_of_mem hp'
      exact hp (.member index) _ (.property ht hps hi)
  required _ := by
    have same : t.required? = s.required? := by
      rw [required?, required?, h "required" (by decide)]
    rw [same]
    cases s.required? with
    | none => exact .none
    | some names => exact .some fun _ => Iff.rfl
  reference _ := h "$ref" (by decide)

/-! ### Required names -/

lemma requiredNames_of_some {names : List α} (h : s.required? = some names) :
    s.requiredNames = (·.filterMap id) <$> names.mapM fun a => requiredName? (layer a) := by
  obtain ⟨l, hl, hnames⟩ := Option.bind_eq_some_iff.1 h
  cases l with
  | list items =>
    obtain rfl := Option.some.inj hnames
    rw [requiredNames, hl]
  | _ => cases hnames

lemma requiredNames_of_none (h : s.required? = none) : s.requiredNames = .ok [] := by
  rw [requiredNames]
  split
  case h_1 names hnames => simp [required?, hnames, Layer.items?] at h
  case h_2 => rfl

omit [Layered α] in
/-- The only thing that an entry of `required` may lack is a text. -/
lemma requiredName?_eq_error {l : Layer α} {err : TextError} (h : requiredName? l = .error err) :
    err = .integerTooLong := by
  have written {k : Scalar} (h : some <$> k.written = .error err) : err = .integerTooLong := by
    cases hk : k.isWritable with
    | true => simp [Scalar.written, hk] at h
    | false =>
      simp only [Scalar.written, hk] at h
      cases h
      rfl
  unfold requiredName? at h
  split at h
  case h_2 => exact written h
  case h_3 => exact written h
  all_goals cases h

/-- The names that are required are those of the entries, and one of them may be too long. -/
lemma requiredNames_congr
    (h : Option.Rel (fun xs ys => ∀ a, a ∈ xs ↔ a ∈ ys) s.required? t.required?) :
    (s.requiredNames = .error .integerTooLong ∧ t.requiredNames = .error .integerTooLong) ∨
      ∃ xs ys, s.requiredNames = .ok xs ∧ t.requiredNames = .ok ys ∧ ∀ n, n ∈ xs ↔ n ∈ ys := by
  generalize hs : s.required? = xs at h
  generalize ht : t.required? = ys at h
  cases h with
  | none =>
    exact .inr ⟨[], [], requiredNames_of_none hs, requiredNames_of_none ht, fun _ => Iff.rfl⟩
  | some h =>
    rw [requiredNames_of_some hs, requiredNames_of_some ht]
    rcases mapM_of_mem_iff (fun _ _ => requiredName?_eq_error (α := α)) h with
      ⟨hxs, hys⟩ | ⟨us, vs, hxs, hys, hmem⟩
    · exact .inl ⟨by rw [hxs]; rfl, by rw [hys]; rfl⟩
    · refine .inr ⟨us.filterMap id, vs.filterMap id, by rw [hxs]; rfl, by rw [hys]; rfl, fun n => ?_⟩
      simp only [List.mem_filterMap, hmem]

end Schema

/-! ### Compiling alike -/

/-- In a mode, the compiler goes on alike from two look-ups of a name. -/
def EntriesAgree (mode : ReferenceMode) (R : Schema α → Schema α → Prop) (a b : Option α) : Prop :=
  match mode with
  | .name => True
  | .verify => a.isSome = b.isSome
  | .inline => Option.Rel (fun a b => R (layer a) (layer b)) a b

namespace TypeExpr

variable {registry registry' : Registry α} {options : TypeOptions}
  {R : Schema α → Schema α → Prop} {s t : Schema α} {context : String} {opened : List String}

lemma compileWithin_of_array (ht : s.declaredType? = some "array") (fuel : Nat) :
    compileWithin registry options (fuel + 1) s context opened =
      match s.items? with
      | some items =>
        .sequence <$> compileWithin registry options fuel items (context ++ "Item") opened
      | none => pure .anySequence := by
  simp only [compileWithin, ht, Schema.items?]
  generalize s.keyword? "items" = l
  rcases l with _ | l
  · rfl
  · cases l <;> rfl

lemma compileWithin_of_object (ht : s.declaredType? = some "object") (fuel : Nat) :
    compileWithin registry options (fuel + 1) s context opened =
      match s.properties? with
      | some properties => do
        let required ← Attempt.ofExcept id s.requiredNames
        ofProperties (fun schema name => compileWithin registry options fuel schema name opened)
          required properties
      | none => pure .mapping := by
  cases hp : s.properties? with
  | none => simp only [compileWithin, ht, hp]
  | some properties => simp only [compileWithin, ht, hp]

lemma ofProperties_eq_of_forall₂ {expand expand' : Schema α → String → Compiling}
    {required required' : List String} (hr : ∀ n, n ∈ required ↔ n ∈ required')
    {ps qs : List (Scalar × α)} (h : List.Forall₂ (fun p q => p.1 = q.1 ∧
      ∀ name, expand (layer p.2) name = expand' (layer q.2) name) ps qs) :
    ofProperties expand required ps = ofProperties expand' required' qs := by
  have listed (n : String) : required.contains n = required'.contains n := by
    rw [Bool.eq_iff_iff, List.contains_iff_mem, List.contains_iff_mem, hr]
  refine congrArg (TypeExpr.record <$> ·) (mapM_eq_of_forall₂ (h.imp fun p q hpq => ?_))
  simp only [hpq.1, hpq.2, listed]

lemma ofReference_eq_of_entriesAgree {mode : ReferenceMode}
    {expand expand' : Schema α → String → List String → Compiling} {target : String}
    (h : Name.ofReference target ≠ "" → EntriesAgree mode R
      (registry.lookup (Name.ofReference target)) (registry'.lookup (Name.ofReference target)))
    (hexpand : ∀ s t context opened, R s t → expand s context opened = expand' t context opened) :
    ofReference registry mode opened expand target =
      ofReference registry' mode opened expand' target := by
  by_cases hn : Name.ofReference target = ""
  · simp only [ofReference, hn, ↓reduceIte]
  simp only [ofReference, hn, ↓reduceIte]
  have agree := h hn
  generalize registry.lookup (Name.ofReference target) = a at agree
  generalize registry'.lookup (Name.ofReference target) = b at agree
  cases mode with
  | name => rfl
  | verify =>
    rcases a with _ | a
    · obtain rfl := Option.isNone_iff_eq_none.1 (Option.isSome_eq_false_iff.1 agree.symm)
      rfl
    · obtain ⟨b, rfl⟩ := Option.isSome_iff_exists.1 agree.symm
      rfl
  | inline =>
    cases agree with
    | none => rfl
    | some hab => simp only [hexpand _ _ _ _ hab]

/-- The compiler does the same for two schemas that agree, where look-ups agree in turn: by induction
on the levels left, one case for each kind of schema. -/
theorem compileWithin_congr (hR : ∀ s t, R s t → s.Agree R t)
    (he : ∀ s t, R s t → ∀ n, s.RefersTo n →
      EntriesAgree options.referenceMode R (registry.lookup n) (registry'.lookup n))
    (fuel : Nat) (h : R s t) (context : String) (opened : List String) :
    compileWithin registry options fuel s context opened =
      compileWithin registry' options fuel t context opened := by
  induction fuel generalizing s t context opened with
  | zero => rw [compileWithin, compileWithin]
  | succ fuel ih =>
    have agree := hR s t h
    by_cases ht : s.IsUntyped
    · rw [compileWithin_of_isUntyped ht, compileWithin_of_isUntyped (agree.isUntyped_iff.1 ht),
        ← agree.reference ht]
      split
      case h_1 target href =>
        refine ofReference_eq_of_entriesAgree (fun hn => ?_) fun s t context opened h =>
          ih h context opened
        exact he s t h _ ⟨ht, ⟨target, href, rfl⟩, hn⟩
      case h_2 => rfl
    simp only [Schema.IsUntyped, Schema.knownTypes, not_forall, not_not] at ht
    obtain ⟨w, hw, ht⟩ := ht
    have ht' := agree.type.symm.trans ht
    simp only [List.mem_cons, List.not_mem_nil, or_false] at hw
    rcases hw with rfl | rfl | rfl | rfl | rfl | rfl
    · simp only [compileWithin, ht, ht', agree.enum ht]
    · simp only [compileWithin, ht, ht']
    · simp only [compileWithin, ht, ht']
    · simp only [compileWithin, ht, ht']
    · have hi := agree.items ht
      rw [compileWithin_of_array ht, compileWithin_of_array ht']
      generalize s.items? = a at hi
      generalize t.items? = b at hi
      cases hi with
      | none => simp only
      | some hi => simp only [ih hi]
    · have hp := agree.properties ht
      rw [compileWithin_of_object ht, compileWithin_of_object ht']
      generalize s.properties? = a at hp
      generalize t.properties? = b at hp
      cases hp with
      | none => simp only
      | some hp =>
        rcases Schema.requiredNames_congr (agree.required ht) with
          ⟨hs, ht⟩ | ⟨xs, ys, hs, ht, hmem⟩
        · simp only [hs, ht, Attempt.ofExcept_error_bind]
        · rw [hs, ht]
          simp only [Attempt.ofExcept_ok_bind]
          refine ofProperties_eq_of_forall₂ hmem (hp.imp fun p q hpq => ⟨hpq.1, fun name => ?_⟩)
          exact ih hpq.2 name opened

/-- What is compiled does not depend on the names in notices: by induction on the levels left. -/
lemma outcome_compileWithin_of_context (fuel : Nat) (s : Schema α) (context context' : String)
    (opened : List String) :
    (compileWithin registry options fuel s context opened).outcome =
      (compileWithin registry options fuel s context' opened).outcome := by
  induction fuel generalizing s context context' with
  | zero => rw [compileWithin_zero, compileWithin_zero]
  | succ fuel ih =>
    by_cases ht : s.IsUntyped
    · rw [compileWithin_of_isUntyped ht, compileWithin_of_isUntyped ht]
    simp only [compileWithin]
    split
    case h_5 =>
      split
      case h_1 => rw [Attempt.outcome_map, Attempt.outcome_map, ih]
      case h_2 => rfl
    all_goals rfl

end TypeExpr

/-! ### Alike schemas -/

namespace Schema

variable {s t : Schema α}

/-- Two schemas differ in nothing that the compiler reads, neither themselves nor in their parts. -/
def Alike (s t : Schema α) : Prop :=
  ∃ R : Schema α → Schema α → Prop, (∀ s t, R s t → s.Agree R t) ∧ R s t

lemma Agree.mono {R R' : Schema α → Schema α → Prop} (hR : ∀ s t, R s t → R' s t)
    (h : s.Agree R t) : s.Agree R' t where
  type := h.type
  enum := h.enum
  items ht := rel_mono hR (h.items ht)
  properties ht := rel_mono (fun _ _ => .imp fun _ _ hpq => ⟨hpq.1, hR _ _ hpq.2⟩) (h.properties ht)
  required := h.required
  reference := h.reference

lemma Alike.dest (h : s.Alike t) : s.Agree Alike t := by
  obtain ⟨R, hR, h⟩ := h
  exact (hR s t h).mono fun s t h => ⟨R, hR, h⟩

/-- Schemas are alike when they agree in what the compiler reads, with parts that are alike. -/
lemma Alike.step (h : s.Agree Alike t) : s.Alike t :=
  ⟨fun s t => s.Agree Alike t, fun _ _ h => h.mono fun _ _ => Alike.dest, h⟩

lemma Alike.refl (s : Schema α) : s.Alike s :=
  ⟨Eq, by
    rintro s _ rfl
    exact agree_of_keyword? (fun _ _ => rfl) fun _ _ _ => rfl, rfl⟩

/-- Keywords that are not read make no difference. -/
theorem alike_of_keyword? (h : ∀ name ∈ keywords, s.keyword? name = t.keyword? name) : s.Alike t :=
  .step (agree_of_keyword? h fun _ u _ => .refl u)

/-- The schema with no keywords but those that are read. -/
def bare : Schema α → Schema α
  | .map entries => .map (entries.filter fun e => keywords.any fun name => e.1.same (.text name))
  | l => l

lemma keyword?_bare {name : String} (h : name ∈ keywords) (s : Schema α) :
    s.bare.keyword? name = s.keyword? name := by
  cases s with
  | map entries =>
    have read (e : Scalar × α) : (keywords.any fun name => e.1.same (.text name)) = true ∧
        e.1.same (.text name) = true ↔ e.1.same (.text name) = true :=
      and_iff_right_of_imp fun he => List.any_eq_true.2 ⟨name, h, he⟩
    simp only [bare, keyword?, Layer.field?, Layer.entries?, Option.bind_some, lookupKey,
      List.find?_filter, read, Bool.decide_eq_true]
  | _ => rfl

theorem alike_bare (s : Schema α) : s.Alike s.bare :=
  alike_of_keyword? fun _ h => (keyword?_bare h s).symm

end Schema

namespace TypeExpr

/-- Schemas that are alike are compiled alike. -/
lemma compileWithin_eq_of_alike {registry : Registry α} {options : TypeOptions} {s t : Schema α}
    (h : s.Alike t) (fuel : Nat) (context : String) (opened : List String) :
    compileWithin registry options fuel s context opened =
      compileWithin registry options fuel t context opened := by
  refine compileWithin_congr (R := Schema.Alike) (fun s t h => h.dest) (fun s t h n hn => ?_) fuel h
    context opened
  cases options.referenceMode with
  | name => trivial
  | verify => rfl
  | inline =>
    cases registry.lookup n with
    | none => exact .none
    | some a => exact .some (.refl _)

/-- Schemas that are alike are compiled to the same expression, whatever names they get in notices.
Under the same name the same is reported, too. -/
theorem compile_alike (registry : Registry α) (options : TypeOptions) (identity : Option String)
    {s t : Schema α} (h : s.Alike t) :
    (∀ context context', (compile registry options s context identity).outcome =
      (compile registry options t context' identity).outcome) ∧
    (∀ context, compile registry options s context identity =
      compile registry options t context identity) ∧
    (s.IsWritableWithin →
      (options.referenceMode = .inline → ∀ e ∈ registry, Schema.IsWritableWithin (layer e.2)) →
      ∃ e, ∀ context, (compile registry options s context identity).outcome = .ok e ∧
        (compile registry options t context identity).outcome = .ok e) := by
  have alike : ∀ context, compile registry options s context identity =
      compile registry options t context identity := fun context =>
    compileWithin_eq_of_alike h _ context _
  have renamed : ∀ context context', (compile registry options s context identity).outcome =
      (compile registry options t context' identity).outcome := fun context context' => by
    rw [alike context]
    exact outcome_compileWithin_of_context _ _ _ _ _
  refine ⟨renamed, alike, fun hs hr => ?_⟩
  obtain ⟨e, he⟩ := compileWithin_returns_of_expanded hr (options.maxDepth + 1) hs ""
    (identity.toList.filter (· ≠ ""))
  refine ⟨e, fun context => ⟨?_, ?_⟩⟩
  · exact (outcome_compileWithin_of_context _ _ _ _ _).trans he
  · exact (renamed "" context).symm.trans he

/-- A list of things to send, with remarks on everything. -/
def remarkedGoods : Value :=
  .ofFields [("x-order", .int 2), ("type", .text "array"),
    ("items", .ofFields [("$ref", .text "#/components/schemas/Item"),
      ("allOf", .list [.ofFields [("type", .text "number")]])])]

/-- The list without the remarks. -/
def plainGoods : Value :=
  .ofFields [("type", .text "array"),
    ("items", .ofFields [("$ref", .text "#/components/schemas/Item")])]

/-- A parcel, with remarks, and with a property that is required twice. -/
def remarkedParcel : Value :=
  .ofFields [("description", .text "What is sent"), ("type", .text "object"),
    ("properties", .ofFields [("goods", remarkedGoods),
      ("label", .ofFields [("type", .text "string"), ("format", .text "byte")])]),
    ("required", .list [.text "label", .text "goods", .text "label"])]

def plainParcel : Value :=
  .ofFields [("type", .text "object"),
    ("properties", .ofFields [("goods", plainGoods), ("label", .ofFields [("type", .text "string")])]),
    ("required", .list [.text "goods", .text "label"])]

/-- To declare the type `array` leaves only the items to compare. -/
lemma alike_goods : Schema.Alike remarkedGoods.layer plainGoods.layer := by
  have remarked : Schema.declaredType? remarkedGoods.layer = some "array" := rfl
  have plain : Schema.declaredType? plainGoods.layer = some "array" := rfl
  have item : Schema.Alike _ _ := Schema.alike_bare (Value.layer (.ofFields
    [("$ref", .text "#/components/schemas/Item"),
      ("allOf", .list [.ofFields [("type", .text "number")]])]))
  exact .step {
    type := remarked.trans plain.symm
    enum := fun h => absurd (remarked.symm.trans h) (by decide)
    items := fun _ => .some item
    properties := fun h => absurd (remarked.symm.trans h) (by decide)
    required := fun h => absurd (remarked.symm.trans h) (by decide)
    reference := fun h => absurd remarked (h "array" (by decide)) }

lemma alike_parcel : Schema.Alike remarkedParcel.layer plainParcel.layer := by
  have remarked : Schema.declaredType? remarkedParcel.layer = some "object" := rfl
  have plain : Schema.declaredType? plainParcel.layer = some "object" := rfl
  have label : Schema.Alike _ _ := Schema.alike_bare (Value.layer (.ofFields
    [("type", .text "string"), ("format", .text "byte")]))
  have required (a : Value) :
      a ∈ [Value.text "label", .text "goods", .text "label"] ↔
        a ∈ [Value.text "goods", .text "label"] := by
    simp only [List.mem_cons, List.not_mem_nil, or_false]
    tauto
  exact .step {
    type := remarked.trans plain.symm
    enum := fun h => absurd (remarked.symm.trans h) (by decide)
    items := fun h => absurd (remarked.symm.trans h) (by decide)
    properties := fun _ => .some (.cons ⟨rfl, alike_goods⟩ (.cons ⟨rfl, label⟩ .nil))
    required := fun _ => .some required
    reference := fun h => absurd remarked (h "object" (by decide)) }

/-- Remarks on a parcel do not change its type. -/
theorem compile_alike_parcel :
    Schema.Alike remarkedParcel.layer plainParcel.layer ∧
    (compile [] {} remarkedParcel.layer "Sent" none).outcome =
      (compile [] {} plainParcel.layer "Received" none).outcome ∧
    (compile [] {} plainParcel.layer "Received" none).outcome =
      .ok (.record [⟨"goods", false, .sequence (.reference "Item")⟩, ⟨"label", false, .string⟩]) :=
  ⟨alike_parcel, (compile_alike [] {} none alike_parcel).1 "Sent" "Received", rfl⟩

end TypeExpr

end ApiBridge
