import ApiBridge.Proofs.TypeScript.Expansion
import Mathlib.Algebra.Group.Int.Defs

/-!
# Limits of nesting

The compiler gives up where schemas are nested too deep. Registered schemas may refer to each other
in circles: a reference is expanded only where its schema is not being expanded already, so that a
limit is needed for nothing but schemas that stand inside themselves. A limit that cuts nothing off
may as well be raised.
-/

namespace ApiBridge

/-! ### Computations that go on alike -/

namespace Attempt

variable {ε α β : Type} {p : Notice → Prop}

/-- How a computation goes on matters for its results only. -/
lemma bind_congr_outcome {x : Attempt ε α} {f g : α → Attempt ε β}
    (h : ∀ a, outcome x = .ok a → f a = g a) : x >>= f = x >>= g := by
  change ExceptT.mk (ExceptT.run x >>= ExceptT.bindCont f)
    = ExceptT.mk (ExceptT.run x >>= ExceptT.bindCont g)
  have rest : ExceptT.bindCont f x.run.value = ExceptT.bindCont g x.run.value := by
    cases hx : x.run.value with
    | ok a => exact h a hx
    | error e => rfl
  simp only [bind, rest]

/-- Computations that agree where nothing of a kind is reported agree on a list on which nothing of
the kind is reported. -/
lemma mapM_congr_of_not_reports {f g : α → Attempt ε β} {xs : List α}
    (h : ∀ x ∈ xs, ¬Reports p (f x) → g x = f x) (hr : ¬Reports p (xs.mapM f)) :
    xs.mapM g = xs.mapM f := by
  induction xs with
  | nil => rfl
  | cons x xs ih =>
    rw [List.mapM_cons, reports_bind, not_or] at hr
    rw [List.mapM_cons, List.mapM_cons, h x (by simp) hr.1]
    refine bind_congr_outcome fun y hy => ?_
    have rest : ¬Reports p (xs.mapM f) := fun hrest =>
      hr.2 ⟨y, hy, (reports_bind _ _).2 (.inl hrest)⟩
    rw [ih (fun x' hx' => h x' (by simp [hx'])) rest]

/-- What is reported for a list is reported for one of its elements. -/
lemma exists_reports_of_mapM {f : α → Attempt ε β} {xs : List α} (h : Reports p (xs.mapM f)) :
    ∃ x ∈ xs, Reports p (f x) := by
  induction xs with
  | nil => simp at h
  | cons x xs ih =>
    rw [List.mapM_cons, reports_bind] at h
    rcases h with h | ⟨y, -, h⟩
    · exact ⟨x, by simp, h⟩
    · obtain ⟨x', hx', h⟩ := ih (by simpa using h)
      exact ⟨x', by simp [hx'], h⟩

end Attempt

namespace TypeExpr

variable {α : Type} [Layered α] {registry : Registry α} {options : TypeOptions} {schema : Schema α}
  {context : String} {opened : List String}

/-! ### Raising the limit -/

/-- A property is compiled alike by computations that agree where nothing is cut off. -/
lemma ofProperties_congr {expand expand' : Schema α → String → Compiling} {required : List String}
    {properties : List (Scalar × α)}
    (h : ∀ p ∈ properties, ∀ name, ¬(expand (layer p.2) name).Reports Notice.IsCutOff →
      expand' (layer p.2) name = expand (layer p.2) name)
    (hr : ¬(ofProperties expand required properties).Reports Notice.IsCutOff) :
    ofProperties expand' required properties = ofProperties expand required properties := by
  rw [ofProperties, Attempt.reports_map] at hr
  rw [ofProperties, ofProperties]
  congr 1
  refine Attempt.mapM_congr_of_not_reports (fun p hp hm => ?_) hr
  refine Attempt.bind_congr_outcome fun name hname => ?_
  have member : ¬(expand (layer p.2) name).Reports Notice.IsCutOff := fun he =>
    hm ((Attempt.reports_bind _ _).2 (.inr ⟨name, hname, (Attempt.reports_bind _ _).2 (.inl he)⟩))
  rw [h p hp name member]

/-- A reference is compiled alike by computations that agree where nothing is cut off. -/
lemma ofReference_congr {expand expand' : Schema α → String → List String → Compiling}
    {mode : ReferenceMode} {target : String}
    (h : ∀ schema context opened, ¬(expand schema context opened).Reports Notice.IsCutOff →
      expand' schema context opened = expand schema context opened)
    (hr : ¬(ofReference registry mode opened expand target).Reports Notice.IsCutOff) :
    ofReference registry mode opened expand' target =
      ofReference registry mode opened expand target := by
  by_cases hn : Name.ofReference target = ""
  · simp only [ofReference, hn, ↓reduceIte]
  simp only [ofReference, hn, ↓reduceIte] at hr ⊢
  cases mode with
  | name => rfl
  | verify =>
    cases registry.lookup (Name.ofReference target) with
    | none | some => rfl
  | inline =>
    cases hl : registry.lookup (Name.ofReference target) with
    | none => rfl
    | some a =>
      by_cases ho : opened.contains (Name.ofReference target) = true
      · simp only [ho, ↓reduceIte]
      · simp only [hl, ho, Bool.false_eq_true, ↓reduceIte] at hr ⊢
        exact h _ _ _ hr

/-- With more levels left, and whatever limit is named in notices, the compiler does the same where
nothing is cut off: by induction on the levels, one case for each kind of schema. -/
theorem compileWithin_eq_of_not_reports {fuel more : Nat} (hle : fuel ≤ more) (maxDepth : Nat)
    (h : ¬(compileWithin registry options fuel schema context opened).Reports Notice.IsCutOff) :
    compileWithin registry { options with maxDepth } more schema context opened =
      compileWithin registry options fuel schema context opened := by
  induction fuel generalizing more schema context opened with
  | zero => exact absurd (by simp [compileWithin, Notice.IsCutOff]) h
  | succ fuel ih =>
    obtain ⟨more, rfl⟩ := Nat.exists_eq_add_of_le' (Nat.le_of_add_left_le hle)
    have hle : fuel ≤ more := by omega
    by_cases ht : schema.IsUntyped
    · rw [compileWithin_of_isUntyped ht] at h
      rw [compileWithin_of_isUntyped ht, compileWithin_of_isUntyped ht]
      split
      case h_1 target hr =>
        simp only [hr] at h
        exact ofReference_congr (fun schema context opened => ih hle) h
      case h_2 => rfl
    simp only [compileWithin] at h ⊢
    split
    case h_5 ha =>
      simp only [ha] at h
      split
      case h_1 hi =>
        rw [hi] at h
        rw [ih hle (by simpa using h)]
      case h_2 => rfl
    case h_6 ho =>
      simp only [ho] at h
      cases hp : schema.properties? with
      | none => rfl
      | some properties =>
        simp only [hp] at h
        refine Attempt.bind_congr_outcome fun required hreq => ?_
        refine ofProperties_congr (fun p _ name hm => ih hle hm) fun hm => ?_
        exact h ((Attempt.reports_bind _ _).2 (.inr ⟨required, hreq, hm⟩))
    case h_7 h1 h2 h3 h4 h5 h6 => exact absurd (Schema.isUntyped_of_ne h1 h2 h3 h4 h5 h6) ht
    all_goals rfl

end TypeExpr

/-! ### Finite nesting -/

namespace Schema

variable {α : Type} [Layered α]

/-- A schema is nested finitely: every way down its items and properties ends. -/
inductive IsFinite : Schema α → Prop
  | intro {s : Schema α} (items : ∀ t, s.keyword? "items" = some t → IsFinite t)
      (properties : ∀ ps, s.properties? = some ps → ∀ e ∈ ps, IsFinite (layer e.2)) : IsFinite s

lemma sizeOf_lt_of_mem {entries : List (Scalar × Value)} {e : Scalar × Value} (h : e ∈ entries) :
    sizeOf e.2 < sizeOf (Value.map entries) := by
  have entry := List.sizeOf_lt_of_mem h
  obtain ⟨k, v⟩ := e
  simp only [Prod.mk.sizeOf_spec, Value.map.sizeOf_spec] at entry ⊢
  omega

/-- What stands under a keyword of a tree is a smaller tree. -/
lemma exists_of_keyword? {name : String} {v : Value} {t : Schema Value}
    (h : keyword? name v.layer = some t) : ∃ w : Value, t = w.layer ∧ sizeOf w < sizeOf v := by
  obtain ⟨w, hw, rfl⟩ := Option.map_eq_some_iff.1 h
  refine ⟨w, rfl, ?_⟩
  cases v with
  | map entries =>
    obtain ⟨e, he, rfl⟩ := Option.map_eq_some_iff.1 hw
    exact sizeOf_lt_of_mem (List.mem_of_find?_eq_some he)
  | again isMap => cases isMap <;> simp [Value.layer, Layer.field?, Layer.entries?, lookupKey] at hw
  | _ => simp [Value.layer, Layer.field?, Layer.entries?] at hw

/-- A tree is nested finitely. -/
theorem isFinite_layer (v : Value) : IsFinite v.layer := by
  refine .intro (fun t ht => ?_) fun ps hps e he => ?_
  · obtain ⟨w, rfl, hw⟩ := exists_of_keyword? ht
    exact isFinite_layer w
  · obtain ⟨w, hmap, hw⟩ := exists_of_keyword? (keyword?_of_properties? hps)
    have inner : sizeOf e.2 < sizeOf w := by
      cases w with
      | map entries =>
        obtain rfl : ps = entries := by simpa [Value.layer] using hmap
        exact sizeOf_lt_of_mem he
      | again isMap => cases isMap <;> simp [Value.layer] at hmap; subst hmap; simp at he
      | _ => simp [Value.layer] at hmap
    exact isFinite_layer e.2
termination_by v

end Schema

namespace TypeExpr

variable {α : Type} [Layered α] {registry : Registry α} {options : TypeOptions} {schema : Schema α}

/-! ### Enough levels -/

/-- The names of registered schemas that are not being expanded. -/
def unopened (registry : Registry α) (opened : List String) : List String :=
  (registry.map (·.1)).filter (· ∉ opened)

omit [Layered α] in
lemma length_unopened_lt {name : String} {a : α} {opened : List String}
    (hl : registry.lookup name = some a) (ho : name ∉ opened) :
    (unopened registry (name :: opened)).length < (unopened registry opened).length := by
  have smaller : unopened registry (name :: opened) = (unopened registry opened).filter (· ≠ name) := by
    simp only [unopened, List.filter_filter]
    refine List.filter_congr fun n _ => ?_
    simp
  have mem : name ∈ unopened registry opened := by
    simp only [unopened, List.mem_filter, decide_eq_true_eq]
    exact ⟨List.mem_map_of_mem (mem_of_lookup hl), ho⟩
  rw [smaller]
  exact List.length_filter_lt_length_iff_exists.2 ⟨name, mem, by simp⟩

lemma reports_of_bind_ofExcept {ε ε' β γ : Type} {p : Notice → Prop} {kind : ε → ε'}
    {x : Except ε β} {f : β → Attempt ε' γ} (h : (Attempt.ofExcept kind x >>= f).Reports p) :
    ∃ b, x = .ok b ∧ (f b).Reports p := by
  cases x with
  | ok b => exact ⟨b, rfl, by simpa [Attempt.ofExcept] using h⟩
  | error e => simp [Attempt.ofExcept] at h

/-- What is cut off in a record is cut off in a property. -/
lemma exists_reports_of_ofProperties {expand : Schema α → String → Compiling}
    {required : List String} {ps : List (Scalar × α)}
    (h : (ofProperties expand required ps).Reports Notice.IsCutOff) :
    ∃ e ∈ ps, ∃ name, e.1.written = .ok name ∧
      (expand (layer e.2) name).Reports Notice.IsCutOff := by
  rw [ofProperties, Attempt.reports_map] at h
  obtain ⟨e, he, h⟩ := Attempt.exists_reports_of_mapM h
  obtain ⟨name, hname, h⟩ := reports_of_bind_ofExcept h
  exact ⟨e, he, name, hname, by simpa using h⟩

/-- What is cut off with one level more is cut off inside the items, in a property or in a schema
that is expanded. -/
lemma exists_reports_of_succ {fuel : Nat} {context : String} {opened : List String}
    (h : (compileWithin registry options (fuel + 1) schema context opened).Reports
      Notice.IsCutOff) :
    (∃ t, schema.keyword? "items" = some t ∧
      (compileWithin registry options fuel t (context ++ "Item") opened).Reports Notice.IsCutOff) ∨
    (∃ ps, schema.properties? = some ps ∧ ∃ e ∈ ps, ∃ name, e.1.written = .ok name ∧
      (compileWithin registry options fuel (layer e.2) name opened).Reports Notice.IsCutOff) ∨
    options.referenceMode = .inline ∧ ∃ name a, registry.lookup name = some a ∧ name ∉ opened ∧
      (compileWithin registry options fuel (layer a) name (name :: opened)).Reports
        Notice.IsCutOff := by
  by_cases ht : schema.IsUntyped
  · rw [compileWithin_of_isUntyped ht] at h
    split at h
    case h_2 => simp at h
    case h_1 target _ =>
      refine .inr (.inr ?_)
      by_cases hn : Name.ofReference target = ""
      · simp [ofReference, hn] at h
      simp only [ofReference, hn, ↓reduceIte] at h
      split at h
      case h_4 a hm hl =>
        refine ⟨hm, ?_⟩
        by_cases ho : Name.ofReference target ∈ opened
        · simp [ho] at h
        · exact ⟨_, a, hl, ho, by simpa [ho] using h⟩
      all_goals simp [Notice.IsCutOff] at h
  simp only [compileWithin] at h
  split at h
  case h_1 => split at h <;> simp at h
  case h_5 =>
    split at h
    case h_1 entries hi => exact .inl ⟨_, hi, by simpa using h⟩
    case h_2 => simp at h
  case h_6 =>
    split at h
    case h_1 ps hp =>
      obtain ⟨required, -, h⟩ := reports_of_bind_ofExcept h
      exact .inr (.inl ⟨ps, hp, exists_reports_of_ofProperties h⟩)
    case h_2 => simp at h
  case h_7 h1 h2 h3 h4 h5 h6 => exact absurd (Schema.isUntyped_of_ne h1 h2 h3 h4 h5 h6) ht
  all_goals simp at h

lemma not_reports_mono {fuel more : Nat} (hle : fuel ≤ more) {context : String}
    {opened : List String}
    (h : ¬(compileWithin registry options fuel schema context opened).Reports Notice.IsCutOff) :
    ¬(compileWithin registry options more schema context opened).Reports Notice.IsCutOff :=
  compileWithin_eq_of_not_reports hle options.maxDepth h ▸ h

/-- What is enough for each element of a list is enough for all of them. -/
lemma exists_forall_of_mono {β : Type} {P : β → Nat → Prop} {xs : List β}
    (mono : ∀ x m n, m ≤ n → P x m → P x n) (h : ∀ x ∈ xs, ∃ n, P x n) :
    ∃ n, ∀ x ∈ xs, P x n := by
  induction xs with
  | nil => exact ⟨0, by simp⟩
  | cons x xs ih =>
    obtain ⟨m, hm⟩ := h x (by simp)
    obtain ⟨n, hn⟩ := ih fun x' hx' => h x' (by simp [hx'])
    refine ⟨max m n, List.forall_mem_cons.2 ⟨mono x _ _ (by omega) hm, fun x' hx' => ?_⟩⟩
    exact mono x' _ _ (by omega) (hn x' hx')

/-- Some number of levels cuts nothing off: by induction on the names that are not being expanded,
and for the same names by induction on the nesting. -/
theorem exists_enough
    (hr : options.referenceMode = .inline → ∀ e ∈ registry, Schema.IsFinite (layer e.2))
    (hs : schema.IsFinite) (context : String) (opened : List String) :
    ∃ fuel, ¬(compileWithin registry options fuel schema context opened).Reports
      Notice.IsCutOff := by
  generalize hn : (unopened registry opened).length = n
  induction n using Nat.strongRecOn generalizing schema context opened with
  | _ n outer =>
    induction hs generalizing context with
    | @intro s items properties ihItems ihProperties =>
      have forItems : ∃ fuel, ∀ t, s.keyword? "items" = some t →
          ¬(compileWithin registry options fuel t (context ++ "Item") opened).Reports
            Notice.IsCutOff := by
        cases hi : s.keyword? "items" with
        | none => exact ⟨0, by simp⟩
        | some t =>
          obtain ⟨fuel, ht⟩ := ihItems t hi (context ++ "Item")
          exact ⟨fuel, fun t' h => Option.some.inj h ▸ ht⟩
      have forProperties : ∃ fuel, ∀ ps, s.properties? = some ps → ∀ e ∈ ps, ∀ name,
          e.1.written = .ok name →
          ¬(compileWithin registry options fuel (layer e.2) name opened).Reports
            Notice.IsCutOff := by
        cases hp : s.properties? with
        | none => exact ⟨0, by simp⟩
        | some ps =>
          have each : ∀ e ∈ ps, ∃ fuel, ∀ name, e.1.written = .ok name →
              ¬(compileWithin registry options fuel (layer e.2) name opened).Reports
                Notice.IsCutOff := by
            intro e he
            cases hw : e.1.written with
            | error => exact ⟨0, by simp⟩
            | ok name =>
              obtain ⟨fuel, h⟩ := ihProperties ps hp e he name
              exact ⟨fuel, fun name' h' => Except.ok.inj h' ▸ h⟩
          obtain ⟨fuel, h⟩ := exists_forall_of_mono
            (fun e m n hle h name hw => not_reports_mono hle (h name hw)) each
          exact ⟨fuel, fun ps' h' => Option.some.inj h' ▸ h⟩
      have forRegistry : ∃ fuel, ∀ e ∈ registry, options.referenceMode = .inline →
          registry.lookup e.1 = some e.2 → e.1 ∉ opened →
          ¬(compileWithin registry options fuel (layer e.2) e.1 (e.1 :: opened)).Reports
            Notice.IsCutOff := by
        refine exists_forall_of_mono
          (fun e m n hle h hm hl ho => not_reports_mono hle (h hm hl ho)) fun e he => ?_
        by_cases h : options.referenceMode = .inline ∧ registry.lookup e.1 = some e.2 ∧
            e.1 ∉ opened
        · obtain ⟨hm, hl, ho⟩ := h
          obtain ⟨fuel, henough⟩ :=
            outer _ (hn ▸ length_unopened_lt hl ho) (hr hm e he) e.1 (e.1 :: opened) rfl
          exact ⟨fuel, fun _ _ _ => henough⟩
        · exact ⟨0, fun hm hl ho => absurd ⟨hm, hl, ho⟩ h⟩
      obtain ⟨k, hk⟩ := forItems
      obtain ⟨l, hl⟩ := forProperties
      obtain ⟨m, hm⟩ := forRegistry
      refine ⟨max k (max l m) + 1, fun h => ?_⟩
      rcases exists_reports_of_succ h with ⟨t, ht, h⟩ | ⟨ps, hps, e, he, name, hw, h⟩ |
        ⟨hmode, name, a, ha, ho, h⟩
      · exact not_reports_mono (by omega) (hk t ht) h
      · exact not_reports_mono (by omega) (hl ps hps e he name hw) h
      · exact not_reports_mono (by omega) (hm (name, a) (mem_of_lookup ha) hmode ha ho) h

/-! ### Limits that matter and limits that do not -/

/-- For schemas that are nested finitely, whatever they refer to, some limit cuts nothing off, and no
limit from there on makes a difference. For all schemas, a limit that cuts nothing off may be raised
without any difference. -/
theorem compile_settles (registry : Registry α) (options : TypeOptions) (schema : Schema α)
    (context : String) (identity : Option String) :
    (schema.IsFinite →
      (options.referenceMode = .inline → ∀ e ∈ registry, Schema.IsFinite (layer e.2)) →
      ∃ bound, ∀ m, bound ≤ m →
        ¬(compile registry { options with maxDepth := m } schema context identity).Reports
          Notice.IsCutOff ∧
        compile registry { options with maxDepth := m } schema context identity =
          compile registry { options with maxDepth := bound } schema context identity) ∧
    (∀ m m', m ≤ m' →
      ¬(compile registry { options with maxDepth := m } schema context identity).Reports
        Notice.IsCutOff →
      compile registry { options with maxDepth := m' } schema context identity =
        compile registry { options with maxDepth := m } schema context identity) ∧
    (schema.IsWritableWithin → (∀ e ∈ registry, Schema.IsWritableWithin (layer e.2)) →
      ∀ m, ∃ e, (compile registry { options with maxDepth := m } schema context identity).outcome =
        .ok e) := by
  have raise : ∀ m m', m ≤ m' →
      ¬(compile registry { options with maxDepth := m } schema context identity).Reports
        Notice.IsCutOff →
      compile registry { options with maxDepth := m' } schema context identity =
        compile registry { options with maxDepth := m } schema context identity := fun m m' hle h =>
    compileWithin_eq_of_not_reports (Nat.add_le_add_right hle 1) m' h
  refine ⟨fun hs hr => ?_, raise, fun hs hr m => compileWithin_returns hr _ hs _ _⟩
  obtain ⟨fuel, enough⟩ : ∃ fuel, ¬(compileWithin registry options fuel schema context
      (identity.toList.filter (· ≠ ""))).Reports Notice.IsCutOff :=
    exists_enough hr hs context _
  have quiet : ¬(compile registry { options with maxDepth := fuel } schema context identity).Reports
      Notice.IsCutOff := by
    have same := compileWithin_eq_of_not_reports (Nat.le_succ fuel) fuel enough
    rw [compile, same]
    exact enough
  refine ⟨fuel, fun m hle => ⟨?_, raise fuel m hle quiet⟩⟩
  rw [raise fuel m hle quiet]
  exact quiet

/-- Two schemas with a property of each other's kind. -/
def partners : Registry Value :=
  [("A", .ofFields [("type", .text "object"), ("properties", .ofFields
      [("b", .ofFields [("$ref", .text "#/components/schemas/B")])])]),
    ("B", .ofFields [("type", .text "object"), ("properties", .ofFields
      [("a", .ofFields [("$ref", .text "#/components/schemas/A")])])])]

/-- Expanded with any limit that is large enough, one partner stands inside the other, and the
reference back is kept. -/
theorem compile_settles_partners : ∃ bound, ∀ m, bound ≤ m →
    ¬(compile partners { referenceMode := .inline, maxDepth := m }
      (.ofFields [("$ref", Value.text "#/components/schemas/A")]) "" none).Reports
        Notice.IsCutOff ∧
    (compile partners { referenceMode := .inline, maxDepth := m }
      (.ofFields [("$ref", Value.text "#/components/schemas/A")]) "" none).outcome =
        .ok (.record [⟨"b", true, .record [⟨"a", true, .reference "A"⟩]⟩]) := by
  obtain ⟨settles, raise, -⟩ := compile_settles partners { referenceMode := .inline }
    (.ofFields [("$ref", Value.text "#/components/schemas/A")]) "" none
  obtain ⟨bound, enough⟩ :=
    settles (Schema.isFinite_layer (.ofFields [("$ref", .text "#/components/schemas/A")]))
      fun _ e _ => Schema.isFinite_layer e.2
  have uncut : ¬(compile partners { referenceMode := .inline, maxDepth := 4 }
      (.ofFields [("$ref", Value.text "#/components/schemas/A")]) "" none).Reports
        Notice.IsCutOff := by
    rintro ⟨n, hn, -⟩
    exact List.not_mem_nil hn
  refine ⟨max bound 4, fun m hm => ⟨(enough m (by omega)).1, ?_⟩⟩
  rw [raise 4 m (by omega) uncut]
  rfl

/-- A list of lists that are that same list. -/
def endless : Document :=
  ⟨⟨#[.map [(.text "type", 1), (.text "items", 0)], .scalar (.text "array")]⟩, 0⟩

lemma compileWithin_endless (registry : Registry Document) (options : TypeOptions) (fuel : Nat)
    (context : String) (opened : List String) :
    (compileWithin registry options fuel (layer endless) context opened).Reports
      Notice.IsCutOff := by
  induction fuel generalizing context with
  | zero => simp [compileWithin, Notice.IsCutOff]
  | succ fuel ih =>
    have declared : Schema.declaredType? (layer endless) = some "array" := rfl
    have items : Schema.keyword? "items" (layer endless) = some (layer endless) := rfl
    simp only [compileWithin, declared, items]
    exact (Attempt.reports_map _ _).2 (ih (context ++ "Item"))

/-- A record with a property whose name has too many digits. -/
def overlongName : Value :=
  .ofFields [("type", .text "object"), ("properties", .map [(.int (10 ^ 4300), .null)])]

/-- No limit is enough for a schema that stands inside itself, in any mode; and with any limit no
expression is returned for a property whose name has no text. -/
theorem compile_endless :
    (∀ mode, ¬∃ bound, ∀ m, bound ≤ m →
      ¬(compile [("Node", endless)] { referenceMode := mode, maxDepth := m } (layer endless) "Node"
        (some "Node")).Reports Notice.IsCutOff) ∧
    ∀ m, (compile [] { maxDepth := m } overlongName.layer "" none).outcome =
      .error .integerTooLong := by
  constructor
  · rintro mode ⟨bound, enough⟩
    exact enough bound (Nat.le_refl bound) (compileWithin_endless _ _ _ _ _)
  · intro m
    have declared : Schema.declaredType? overlongName.layer = some "object" := rfl
    have properties : Schema.properties? overlongName.layer = some [(.int (10 ^ 4300), .null)] := rfl
    have required : Schema.requiredNames overlongName.layer = .ok [] := rfl
    have unwritable : (Scalar.int (10 ^ 4300)).written = .error .integerTooLong := by decide +kernel
    simp only [compile, compileWithin, declared, properties, required, ofProperties,
      Attempt.outcome_bind, Attempt.outcome_ofExcept, Attempt.outcome_map, Attempt.outcome_mapM,
      List.mapM_cons, unwritable]
    rfl

end TypeExpr

end ApiBridge
