import ApiBridge.Proofs.TypeScript.Declared

/-!
# Compiled types hold what conforms

`Schema.Conforms` says which values a schema describes, and `TypeExpr.Member` which values a type
has, a reference standing for the type that is declared under its name. Neither knows of the
compiler. A value that conforms to a schema is a member of the type that the schema is compiled to,
in every mode and with every depth limit: where the compiler gives up, its type has more values.
-/

namespace ApiBridge

variable {α : Type} [Layered α]

/-! ### Values of a schema -/

/-- Is the value a number? -/
def Value.IsNumber : Value → Prop
  | .scalar (.int _) => True
  | .scalar (.float _) => True
  | _ => False

namespace Schema

/-- What the references to reusable schemas start with. -/
def registryPath : String := "#/components/schemas/"

/-- A value conforms to a schema. -/
inductive Conforms (registry : Registry α) : Schema α → Value → Prop
  | text {s : Schema α} {w : String} (ht : s.keyword? "type" = some (.scalar (.text "string")))
      (he : ∀ values, s.keyword? "enum" = some (.list values) →
        Value.text w ∈ values.map Layered.value) :
      Conforms registry s (.text w)
  | number {s : Schema α} {v : Value}
      (ht : s.keyword? "type" = some (.scalar (.text "integer")) ∨
        s.keyword? "type" = some (.scalar (.text "number"))) (hv : v.IsNumber) :
      Conforms registry s v
  | boolean {s : Schema α} {b : Bool}
      (ht : s.keyword? "type" = some (.scalar (.text "boolean"))) :
      Conforms registry s (.bool b)
  | list {s : Schema α} {vs : List Value}
      (ht : s.keyword? "type" = some (.scalar (.text "array")))
      (hi : ∀ entries, s.keyword? "items" = some (.map entries) →
        ∀ v ∈ vs, Conforms registry (.map entries) v) :
      Conforms registry s (.list vs)
  | map {s : Schema α} {es : List (Scalar × Value)}
      (ht : s.keyword? "type" = some (.scalar (.text "object")))
      (hr : ∀ names, s.keyword? "required" = some (.list names) → ∀ a ∈ names, ∀ w,
        layer a = .scalar (.text w) → ((Value.map es).field? w).isSome)
      (hp : ∀ properties, s.keyword? "properties" = some (.map properties) → ∀ w a,
        (.text w, a) ∈ properties → ∀ v, (Value.map es).field? w = some v →
          Conforms registry (layer a) v) :
      Conforms registry s (.map es)
  | reference {s : Schema α} {v : Value} {n : String} {a : α}
      (ht : ∀ w ∈ knownTypes, s.keyword? "type" ≠ some (.scalar (.text w)))
      (hr : s.keyword? "$ref" = some (.scalar (.text (registryPath ++ n))))
      (hl : registry.lookup n = some a) (h : Conforms registry (layer a) v) :
      Conforms registry s v
  | anything {s : Schema α} {v : Value}
      (ht : ∀ w ∈ knownTypes, s.keyword? "type" ≠ some (.scalar (.text w)))
      (hr : s.keyword? "$ref" = none) :
      Conforms registry s v

/-! ### Plain schemas -/

/-- The type of a schema is a single word, its properties and required names are texts, and what it
refers to is a reusable schema, by a name without slashes. -/
structure IsPlain (registry : Registry α) (s : Schema α) : Prop where
  type : ∀ l, s.keyword? "type" = some l → ∃ w, l = .scalar (.text w)
  properties : ∀ ps, s.properties? = some ps → ∀ e ∈ ps, ∃ w, e.1 = .text w
  required : ∀ names, s.keyword? "required" = some (.list names) → ∀ a ∈ names, ∃ w,
    layer a = .scalar (.text w)
  reference : ∀ l, s.keyword? "$ref" = some l → ∃ n, l = .scalar (.text (registryPath ++ n)) ∧
    '/' ∉ n.toList ∧ (registry.lookup n).isSome

/-- So are all schemas inside. -/
def IsPlainWithin (registry : Registry α) (s : Schema α) : Prop :=
  ∀ t, Inside t s → t.IsPlain registry

variable {registry : Registry α} {s : Schema α}

lemma IsPlain.isWritable (h : s.IsPlain registry) : s.IsWritable where
  properties ps hp e he := by
    obtain ⟨w, hw⟩ := h.properties ps hp e he
    simp [hw]
  required names hn a ha n hl := by
    obtain ⟨w, hw⟩ := h.required names hn a ha
    simp [hw] at hl

lemma IsPlainWithin.isWritableWithin (h : s.IsPlainWithin registry) : s.IsWritableWithin :=
  fun t ht => (h t ht).isWritable

lemma IsPlainWithin.items {t : Schema α} (hs : s.IsPlainWithin registry)
    (h : s.keyword? "items" = some t) : t.IsPlainWithin registry :=
  fun u hu => hs u (.items h hu)

lemma IsPlainWithin.property (hs : s.IsPlainWithin registry) {properties : List (Scalar × α)}
    (h : s.properties? = some properties) {e : Scalar × α} (he : e ∈ properties) :
    IsPlainWithin registry (layer e.2) :=
  fun u hu => hs u (.property h he hu)

lemma isPlainWithin_of (h : s.IsPlain registry)
    (hi : ∀ t : Schema α, s.keyword? "items" = some t → t.IsPlainWithin registry)
    (hp : ∀ ps, s.properties? = some ps → ∀ e ∈ ps, IsPlainWithin registry (layer e.2)) :
    s.IsPlainWithin registry := by
  intro t ht
  cases ht with
  | self => exact h
  | items hk ht => exact hi _ hk t ht
  | property hk he ht => exact hp _ hk _ he t ht

lemma IsPlain.declaredType?_eq_some_iff (h : s.IsPlain registry) {w : String} :
    s.declaredType? = some w ↔ s.keyword? "type" = some (.scalar (.text w)) := by
  cases hk : s.keyword? "type" with
  | none => simp [declaredType?, hk]
  | some l =>
    obtain ⟨w', rfl⟩ := h.type l hk
    simp [declaredType?, hk, Layer.text?]

lemma IsPlain.isUntyped (h : s.IsPlain registry)
    (ht : ∀ w ∈ knownTypes, s.keyword? "type" ≠ some (.scalar (.text w))) : s.IsUntyped :=
  fun w hw hd => ht w hw (h.declaredType?_eq_some_iff.1 hd)

lemma keyword?_of_properties? {properties : List (Scalar × α)}
    (h : s.properties? = some properties) : s.keyword? "properties" = some (.map properties) := by
  unfold properties? at h
  split at h
  case h_1 hk => rw [hk, Option.some.inj h]
  case h_2 => simp at h

lemma IsPlain.exists_of_mem_requiredNames (h : s.IsPlain registry) {required : List String}
    (hr : s.requiredNames = .ok required) {w : String} (hw : w ∈ required) :
    ∃ names, s.keyword? "required" = some (.list names) ∧ ∃ a ∈ names,
      layer a = .scalar (.text w) := by
  unfold requiredNames at hr
  split at hr
  case h_1 names hk =>
    obtain ⟨found, hf, rfl⟩ := map_eq_ok_iff.1 hr
    obtain ⟨_, hmem, rfl⟩ := List.mem_filterMap.1 hw
    obtain ⟨a, ha, hname⟩ := exists_of_mem_right (mapM_eq_ok_iff.1 hf) hmem
    obtain ⟨w', hl⟩ := h.required names hk a ha
    exact ⟨names, hk, a, ha, by simpa [requiredName?, hl] using hname⟩
  case h_2 =>
    cases hr
    simp at hw

/-- What follows the last slash of a reference to a reusable schema is its name. -/
lemma ofReference_registryPath {n : String} (h : '/' ∉ n.toList) :
    Name.ofReference (registryPath ++ n) = n := by
  have path : registryPath.toList.reverse = '/' :: "#/components/schemas".toList.reverse := by
    decide
  have name : ∀ c ∈ n.toList.reverse, (c ≠ '/' : Bool) = true := by
    intro c hc
    simpa using fun heq : c = '/' => h (heq ▸ List.mem_reverse.1 hc)
  rw [Name.ofReference, String.toList_append, List.reverse_append, path,
    List.takeWhile_append_of_pos name]
  simp

end Schema

/-! ### Values of a type -/

namespace TypeExpr

/-- A value is one of those of a type, where `declared` gives the types of names. -/
inductive Member (declared : String → Option TypeExpr) : TypeExpr → Value → Prop
  | any (v : Value) : Member declared .any v
  | string (w : String) : Member declared .string (.text w)
  | number {v : Value} (h : v.IsNumber) : Member declared .number v
  | boolean (b : Bool) : Member declared .boolean (.bool b)
  | literals {values : List Value} {v : Value} (h : v ∈ values) :
      Member declared (.literals values) v
  | anySequence (vs : List Value) : Member declared .anySequence (.list vs)
  | sequence {item : TypeExpr} {vs : List Value} (h : ∀ v ∈ vs, Member declared item v) :
      Member declared (.sequence item) (.list vs)
  | mapping (es : List (Scalar × Value)) : Member declared .mapping (.map es)
  | record {properties : List (Property TypeExpr)} {es : List (Scalar × Value)}
      (hm : ∀ p ∈ properties, p.optional = false → ((Value.map es).field? p.name).isSome)
      (ht : ∀ p ∈ properties, ∀ v, (Value.map es).field? p.name = some v →
        Member declared p.type v) :
      Member declared (.record properties) (.map es)
  | reference {n : String} {e : TypeExpr} {v : Value} (hn : declared n = some e)
      (h : Member declared e v) : Member declared (.reference n) v

variable {registry : Registry α} {options : TypeOptions} {declared : String → Option TypeExpr}

/-- Each name of a reusable schema is declared with a type that the schema compiles to. -/
def Declares (registry : Registry α) (options : TypeOptions)
    (declared : String → Option TypeExpr) : Prop :=
  ∀ n a, registry.lookup n = some a → ∃ e fuel context opened, declared n = some e ∧
    (compileWithin registry options fuel (layer a) context opened).outcome = .ok e

/-- The expressions of a schema have a value, whatever levels are left. -/
def Sound (registry : Registry α) (options : TypeOptions) (declared : String → Option TypeExpr)
    (s : Schema α) (v : Value) : Prop :=
  ∀ fuel context opened e,
    (compileWithin registry options fuel s context opened).outcome = .ok e → Member declared e v

/-- With no levels left the expression has every value. -/
lemma sound_of_compiled {s : Schema α} {v : Value} (h : ∀ fuel context opened e,
    Compiled registry options fuel s context opened e → Member declared e v) :
    Sound registry options declared s v := by
  intro fuel context opened e he
  cases fuel with
  | zero =>
    rw [compileWithin_zero] at he
    cases he
    exact .any v
  | succ fuel => exact h fuel context opened e (compileWithin_succ.1 he)

/-- By induction on why the value conforms, for all levels left and all schemas opened: behind a
reference, compilation goes on with other levels and other open schemas, or starts anew where the
name is declared. -/
theorem sound_of_conforms (hd : Declares registry options declared)
    (hreg : ∀ p ∈ registry, Schema.IsPlainWithin registry (layer p.2)) {s : Schema α} {v : Value}
    (hv : s.Conforms registry v) (hs : s.IsPlainWithin registry) :
    Sound registry options declared s v := by
  induction hv with
  | @text s w ht hv =>
    have ht := (hs s (.self s)).declaredType?_eq_some_iff.2 ht
    refine sound_of_compiled fun fuel context opened e he => ?_
    rcases he.of_string ht with ⟨values, hvalues, rfl⟩ | rfl
    · exact .literals (hv values hvalues)
    · exact .string w
  | @number s v ht hv =>
    have plain := hs s (.self s)
    rw [← plain.declaredType?_eq_some_iff, ← plain.declaredType?_eq_some_iff] at ht
    refine sound_of_compiled fun fuel context opened e he => ?_
    obtain rfl := he.of_number ht
    exact .number hv
  | @boolean s b ht =>
    have ht := (hs s (.self s)).declaredType?_eq_some_iff.2 ht
    refine sound_of_compiled fun fuel context opened e he => ?_
    obtain rfl := he.of_boolean ht
    exact .boolean b
  | @list s vs ht _ ih =>
    have ht := (hs s (.self s)).declaredType?_eq_some_iff.2 ht
    refine sound_of_compiled fun fuel context opened e he => ?_
    rcases he.of_array ht with ⟨entries, item, hi, rfl, hitem⟩ | rfl
    · exact .sequence fun v hv => ih entries hi v hv (hs.items hi) _ _ _ _ hitem
    · exact .anySequence vs
  | @map s es ht hr _ ih =>
    have plain := hs s (.self s)
    have ht := plain.declaredType?_eq_some_iff.2 ht
    refine sound_of_compiled fun fuel context opened e he => ?_
    rcases he.of_object ht with ⟨properties, required, members, hp, hreq, rfl, hm⟩ | ⟨-, rfl⟩
    · refine .record (fun m hmem hopt => ?_) fun m hmem v hv => ?_
      · obtain ⟨p, -, hpm⟩ := exists_of_mem_right hm hmem
        have listed : m.name ∈ required := by simpa [hpm.optional] using hopt
        obtain ⟨names, hk, a, ha, hl⟩ := plain.exists_of_mem_requiredNames hreq listed
        exact hr names hk a ha m.name hl
      · obtain ⟨⟨key, a⟩, hkey, hpm⟩ := exists_of_mem_right hm hmem
        obtain ⟨w, rfl⟩ := plain.properties _ hp _ hkey
        have name : w = m.name := by simpa using hpm.name
        exact ih _ (Schema.keyword?_of_properties? hp) w a hkey v (name ▸ hv)
          (hs.property hp hkey) _ _ _ _ hpm.type
    · exact .mapping es
  | @reference s v n a ht hr hl _ ih =>
    have plain := hs s (.self s)
    have name : Name.ofReference (Schema.registryPath ++ n) = n := by
      obtain ⟨n', hn', hslash, -⟩ := plain.reference _ hr
      simp only [Layer.scalar.injEq, Scalar.text.injEq, String.append_right_inj] at hn'
      exact Schema.ofReference_registryPath (hn' ▸ hslash)
    have sound := ih (hreg _ (mem_of_lookup hl))
    refine sound_of_compiled fun fuel context opened e he => ?_
    rcases he.of_isUntyped (plain.isUntyped ht) with rfl | ⟨target, htarget, he⟩
    · exact .any v
    · rw [hr] at htarget
      obtain rfl : Schema.registryPath ++ n = target := by simpa using htarget
      rw [name, hl] at he
      rcases he with rfl | ⟨a', ha', he⟩
      · obtain ⟨e, fuel, context, opened, he, hc⟩ := hd n a hl
        exact .reference he (sound fuel context opened e hc)
      · exact sound _ _ _ _ (Option.some.inj ha' ▸ he)
  | @anything s v ht hr =>
    refine sound_of_compiled fun fuel context opened e he => ?_
    rcases he.of_isUntyped ((hs s (.self s)).isUntyped ht) with rfl | ⟨target, htarget, -⟩
    · exact .any v
    · simp [hr] at htarget

end TypeExpr

/-! ### Values of declared types -/

/-- The type that is declared under a name. -/
def Declaration.typeOf? (ds : List Declaration) (name : String) : Option TypeExpr :=
  (ds.find? fun d => d.name = name).map (·.expression)

namespace Api

variable {api : Api α} {options : TypeOptions}

lemma find?_registered {schemas : List (String × α)} {registered : List Declaration}
    (rest : List Declaration) (h : List.Forall₂ (Registers api options) schemas registered)
    {n : String} {a : α} (hl : schemas.lookup n = some a) :
    ∃ d, (registered ++ rest).find? (fun d => d.name = n) = some d ∧
      Registers api options (n, a) d := by
  induction h with
  | nil => simp at hl
  | @cons e d es ds hed _ ih =>
    obtain ⟨k, b⟩ := e
    by_cases hk : k = n
    · subst hk
      simp only [List.lookup_cons_self, Option.some.injEq] at hl
      exact ⟨d, by simp [hed.name], hl ▸ hed⟩
    · rw [List.lookup_cons, beq_eq_false_iff_ne.2 (Ne.symm hk)] at hl
      obtain ⟨d', hd', hr⟩ := ih hl
      exact ⟨d', by simp [hed.name, hk, hd'], hr⟩

lemma declares_of_declarations (hk : (List.map (·.1) api.schemas).Nodup) {ds : List Declaration}
    (h : (api.declarations options).outcome = .ok ds) :
    TypeExpr.Declares api.schemas options (Declaration.typeOf? ds) := by
  intro n a hl
  obtain ⟨registered, rest, rfl, hr⟩ := declarations_registered hk h
  obtain ⟨d, hd, hreg⟩ := find?_registered rest hr hl
  exact ⟨d.expression, _, _, _, by simp [Declaration.typeOf?, hd], hreg.expression⟩

/-- Compiled types are sound: in a plain description every schema is compiled, and each value that
conforms to the schema is a member of its type, with the types of the declarations for the names. -/
theorem compile_sound (hk : (List.map (·.1) api.schemas).Nodup)
    (h : ∀ s ∈ api.compiledSchemas, s.IsPlainWithin api.schemas) (options : TypeOptions) :
    ∃ ds, (api.declarations options).outcome = .ok ds ∧
      ∀ s : Schema α, s.IsPlainWithin api.schemas → ∀ context identity,
        ∃ e, (TypeExpr.compile api.schemas options s context identity).outcome = .ok e ∧
          ∀ v, s.Conforms api.schemas v → e.Member (Declaration.typeOf? ds) v := by
  have writable (s : Schema α) (hs : s ∈ api.compiledSchemas) : s.IsWritableWithin :=
    (h s hs).isWritableWithin
  obtain ⟨ds, hds⟩ := declarations_returns options writable
  refine ⟨ds, hds, fun s hs context identity => ?_⟩
  obtain ⟨e, he⟩ := compile_returns writable hs.isWritableWithin context identity
  refine ⟨e, he, fun v hv => ?_⟩
  have registered : ∀ p ∈ api.schemas, Schema.IsPlainWithin api.schemas (layer p.2) :=
    fun p hp => h _ (List.mem_append_left _ (List.mem_map_of_mem hp))
  exact TypeExpr.sound_of_conforms (declares_of_declarations hk hds) registered hv hs _ _ _ _ he

def numberSchema : Value := .ofFields [("type", .text "integer")]

def nextSchema : Value := .ofFields [("$ref", .text "#/components/schemas/Linked")]

/-- A number with a reference to the next one, if there is one. -/
def linkedSchema : Value :=
  .ofFields [("type", .text "object"), ("required", .list [.text "number"]),
    ("properties", .ofFields [("number", numberSchema), ("next", nextSchema)])]

def linked : Api Value :=
  ⟨default, [], [], [("Linked", linkedSchema)], "3.0.0"⟩

lemma linkedSchema_isPlainWithin :
    Schema.IsPlainWithin linked.schemas (layer linkedSchema) := by
  have number : Schema.IsPlainWithin linked.schemas (layer numberSchema) := by
    refine Schema.isPlainWithin_of ⟨?_, ?_, ?_, ?_⟩ ?_ ?_
    · rintro _ ⟨⟩
      exact ⟨"integer", rfl⟩
    all_goals rintro _ ⟨⟩
  have next : Schema.IsPlainWithin linked.schemas (layer nextSchema) := by
    refine Schema.isPlainWithin_of ⟨?_, ?_, ?_, ?_⟩ ?_ ?_
    case refine_4 =>
      rintro _ ⟨⟩
      exact ⟨"Linked", rfl, by decide, rfl⟩
    all_goals rintro _ ⟨⟩
  have properties : Schema.properties? (layer linkedSchema)
      = some [(.text "number", numberSchema), (.text "next", nextSchema)] := rfl
  refine Schema.isPlainWithin_of ⟨?_, ?_, ?_, ?_⟩ ?_ ?_
  · rintro _ ⟨⟩
    exact ⟨"object", rfl⟩
  · intro ps hp
    rw [← Option.some.inj (properties.symm.trans hp)]
    simp
  · rintro _ ⟨⟩ a ha
    exact ⟨"number", by rw [List.mem_singleton.1 ha]; rfl⟩
  · rintro _ ⟨⟩
  · rintro _ ⟨⟩
  · intro ps hp
    rw [← Option.some.inj (properties.symm.trans hp)]
    intro e he
    rcases List.mem_pair.1 he with rfl | rfl
    · exact number
    · exact next

lemma linkedSchema_conforms {es : List (Scalar × Value)} {n : Int}
    (hn : (Value.map es).field? "number" = some (.int n))
    (hnext : ∀ v, (Value.map es).field? "next" = some v →
      Schema.Conforms linked.schemas (layer linkedSchema) v) :
    Schema.Conforms linked.schemas (layer linkedSchema) (.map es) := by
  refine .map rfl ?_ ?_
  · rintro _ ⟨⟩ a ha w hw
    rw [List.mem_singleton.1 ha] at hw
    cases hw
    simp [hn]
  · rintro _ ⟨⟩ w a ha v hv
    rcases List.mem_pair.1 ha with ha | ha
    · cases ha
      rw [hn] at hv
      cases hv
      exact .number (.inl rfl) trivial
    · cases ha
      exact .reference (by rintro _ - ⟨⟩) (n := "Linked") rfl rfl (hnext v hv)

/-- Two linked numbers are a member of the type of linked numbers, with references followed. -/
theorem compile_sound_linked :
    (List.map (·.1) linked.schemas).Nodup ∧
    (∀ s ∈ linked.compiledSchemas, s.IsPlainWithin linked.schemas) ∧
    ∃ ds, (linked.declarations { referenceMode := .inline }).outcome = .ok ds ∧
      ∃ e, (TypeExpr.compile linked.schemas { referenceMode := .inline } (layer linkedSchema)
        "Linked" (some "Linked")).outcome = .ok e ∧
        e.Member (Declaration.typeOf? ds)
          (.ofFields [("number", .int 1), ("next", .ofFields [("number", .int 2)])]) := by
  have plain : ∀ s ∈ linked.compiledSchemas, s.IsPlainWithin linked.schemas := by
    intro s hs
    rw [List.mem_singleton.1 hs]
    exact linkedSchema_isPlainWithin
  obtain ⟨ds, hds, h⟩ := compile_sound (by decide) plain { referenceMode := .inline }
  obtain ⟨e, he, hm⟩ := h (layer linkedSchema) linkedSchema_isPlainWithin "Linked" (some "Linked")
  refine ⟨by decide, plain, ds, hds, e, he, hm _ ?_⟩
  have last : Schema.Conforms linked.schemas (layer linkedSchema)
      (.ofFields [("number", .int 2)]) :=
    linkedSchema_conforms rfl (by rintro _ ⟨⟩)
  exact linkedSchema_conforms rfl (by rintro _ ⟨⟩; exact last)

end Api

end ApiBridge
