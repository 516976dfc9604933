import ApiBridge.Proofs.TypeScript.Descent
import Mathlib.Algebra.Group.Int.Defs

/-!
# What the limit of nesting cuts off

With a limit of `m`, an expression has no more than `m + 1` levels, and on the last one any value is
meant. Where references are not expanded, the limit does nothing else: the expression is the one with
a larger limit, cut off. There is an expression unless the compiler comes to a record with a name
that has too many digits.
-/

namespace ApiBridge

open TypeExpr (Position)

namespace TypeExpr

/-! ### Levels of an expression -/

mutual

/-- The number of lists and records that stand inside each other. -/
def nesting : TypeExpr → Nat
  | .anySequence => 1
  | .sequence item => item.nesting + 1
  | .record properties => nestingOfAll properties + 1
  | _ => 0

def nestingOfAll : List (Property TypeExpr) → Nat
  | [] => 0
  | ⟨_, _, type⟩ :: ps => max type.nesting (nestingOfAll ps)

end

/-- The expression with any value in the place of each part on a level. -/
def truncated : Nat → TypeExpr → TypeExpr
  | 0, _ => .any
  | level + 1, .sequence item => .sequence (truncated level item)
  | level + 1, .record properties =>
    .record (properties.map fun p => { p with type := truncated level p.type })
  | _ + 1, e => e

variable {e f : TypeExpr} {level : Nat} {place : Position}

lemma nestingOfAll_le {properties : List (Property TypeExpr)}
    (h : ∀ p ∈ properties, p.type.nesting ≤ level) : nestingOfAll properties ≤ level := by
  induction properties with
  | nil => exact Nat.zero_le _
  | cons p ps ih =>
    exact Nat.max_le.2 ⟨h p (by simp), ih fun q hq => h q (by simp [hq])⟩

lemma nesting_truncated_le (level : Nat) (e : TypeExpr) : (e.truncated level).nesting ≤ level := by
  induction level generalizing e with
  | zero => exact Nat.le_refl 0
  | succ level ih =>
    cases e with
    | sequence item => exact Nat.succ_le_succ (ih item)
    | record properties =>
      refine Nat.succ_le_succ (nestingOfAll_le fun p hp => ?_)
      obtain ⟨q, -, rfl⟩ := List.mem_map.1 hp
      exact ih q.type
    | anySequence => exact Nat.succ_le_succ (Nat.zero_le level)
    | _ => exact Nat.zero_le _

/-- On the level where it is cut off, an expression holds nothing but any value. -/
lemma eq_any_of_at?_truncated (h : (e.truncated place.length).at? place = some f) : f = .any := by
  induction place generalizing e with
  | nil => simpa [truncated, eq_comm] using h
  | cons b place ih =>
    cases e with
    | sequence item => exact ih (at?_sequence_cons.1 h).2
    | record properties =>
      obtain ⟨index, p, -, hp, h⟩ := at?_record_cons.1 h
      obtain ⟨q, hq, rfl⟩ := List.mem_map.1 (List.mem_of_getElem? hp)
      exact ih h
    | _ => simp [truncated, at?_cons_eq_none] at h

/-- Of two levels on which an expression is cut off, the upper one counts. -/
lemma truncated_truncated (e : TypeExpr) (level level' : Nat) :
    (e.truncated level).truncated level' = e.truncated (min level level') := by
  induction level generalizing e level' with
  | zero =>
    rw [Nat.zero_min]
    cases level' <;> rfl
  | succ level ih =>
    cases level' with
    | zero => rw [Nat.min_zero, truncated, truncated]
    | succ level' =>
      rw [Nat.add_min_add_right]
      cases e with
      | sequence item => simp only [truncated, ih]
      | record properties => simp only [truncated, List.map_map, Function.comp_def, ih]
      | _ => rfl

/-! ### Compiling with a limit -/

variable {α : Type} [Layered α] {registry : Registry α} {options : TypeOptions} {schema : Schema α}
  {context : String} {opened : List String}

/-- Nothing stands below the level that the limit leaves: by induction on the levels left. An
expanded reference takes up one without a level of the expression. -/
lemma truncated_compileWithin {fuel : Nat}
    (h : (compileWithin registry options fuel schema context opened).outcome = .ok e) :
    e.truncated fuel = e := by
  induction fuel generalizing schema context opened e with
  | zero =>
    rw [compileWithin_zero] at h
    cases h
    rfl
  | succ fuel ih =>
    have compiled := compileWithin_succ.1 h
    clear h
    cases compiled with
    | literals | string | number | boolean | anySequence | mapping | nameless | unknown | any
    | named | registered => rfl
    | sequence _ _ h => rw [truncated, ih h]
    | @record _ _ members _ _ _ h =>
      have same : ∀ m ∈ members, { m with type := m.type.truncated fuel } = m := by
        intro m hm
        obtain ⟨p, -, hpm⟩ := exists_of_mem_right h hm
        rw [ih hpm.type]
      rw [truncated, List.map_congr_left same, List.map_id']
    | expanded _ _ _ _ _ _ h =>
      calc e.truncated (fuel + 1) = (e.truncated fuel).truncated (fuel + 1) := by rw [ih h]
        _ = e.truncated fuel := by rw [truncated_truncated, Nat.min_eq_left (Nat.le_succ fuel)]
        _ = e := ih h

variable (options) in
/-- Unless references are expanded, with fewer levels left a schema is compiled to the same expression
cut off: by induction on the levels. -/
lemma compileWithin_truncated (hm : options.referenceMode ≠ .inline) {fuel more : Nat}
    (hle : fuel ≤ more) (maxDepth : Nat)
    (h : (compileWithin registry options more schema context opened).outcome = .ok e) :
    (compileWithin registry { options with maxDepth } fuel schema context opened).outcome
      = .ok (e.truncated fuel) := by
  induction fuel generalizing more schema context opened e with
  | zero => exact compileWithin_zero
  | succ fuel ih =>
    obtain ⟨more, rfl⟩ := Nat.exists_eq_add_of_le' (Nat.le_of_add_left_le hle)
    have hle : fuel ≤ more := by omega
    rw [compileWithin_succ]
    have compiled := compileWithin_succ.1 h
    clear h
    cases compiled with
    | literals ht hv => exact .literals ht hv
    | string ht hv => exact .string ht hv
    | number ht => exact .number ht
    | boolean ht => exact .boolean ht
    | sequence ht hi h => exact .sequence ht hi (ih hle h)
    | anySequence ht hi => exact .anySequence ht hi
    | record ht hp hr h =>
      refine .record ht hp hr (List.forall₂_map_right_iff.2 (h.imp fun p m hpm => ?_))
      exact ⟨hpm.name, hpm.optional, ih hle hpm.type⟩
    | mapping ht hp => exact .mapping ht hp
    | nameless ht hr hn => exact .nameless ht hr hn
    | named ht hr hn hname => exact .named ht hr hn hname
    | unknown ht hr hn hname hl => exact .unknown ht hr hn hname hl
    | registered ht hr hn hl hmode => exact .registered ht hr hn hl hmode
    | expanded _ _ _ hinline => exact absurd hinline hm
    | any ht hr => exact .any ht hr

end TypeExpr

/-! ### Names without texts -/

variable {α : Type} [Layered α]

namespace Schema

/-- A schema of a record gives or requires a name that has no text. -/
structure HasUnwritableName (s : Schema α) : Prop where
  type : s.declaredType? = some "object"
  properties : s.properties? ≠ none
  unwritable : ¬s.IsWritable

variable {s : Schema α}

lemma isWritable_of_written {k : Scalar} {name : String} (h : k.written = .ok name) :
    k.isWritable = true := by
  by_contra hk
  simp [Scalar.written, hk] at h

/-- What a record needs of its names, and what is read of `required`. -/
lemma isWritable_of_requiredNames {required : List String} (hr : s.requiredNames = .ok required)
    (hp : ∀ ps, s.properties? = some ps → ∀ p ∈ ps, ∃ name, p.1.written = .ok name) :
    s.IsWritable where
  properties ps hps p hp' := by
    obtain ⟨name, hname⟩ := hp ps hps p hp'
    exact isWritable_of_written hname
  required names hnames a ha n hn := by
    simp only [requiredNames, hnames] at hr
    obtain ⟨found, hfound, -⟩ := map_eq_ok_iff.1 hr
    obtain ⟨name, -, hname⟩ := exists_of_mem_left (mapM_eq_ok_iff.1 hfound) ha
    rw [hn, requiredName?] at hname
    obtain ⟨text, htext, -⟩ := map_eq_ok_iff.1 hname
    exact isWritable_of_written htext

end Schema

namespace TypeExpr

variable {registry : Registry α} {options : TypeOptions} {schema : Schema α} {context : String}
  {opened : List String} {e : TypeExpr}

lemma not_hasUnwritableName_of_compiled {fuel : Nat}
    (h : Compiled registry options fuel schema context opened e) : ¬schema.HasUnwritableName := by
  rintro ⟨ht, hp, hw⟩
  rcases h.of_object ht with ⟨ps, required, members, hps, hr, -, hm⟩ | ⟨hnone, -⟩
  · refine hw (Schema.isWritable_of_requiredNames hr fun ps' hps' p hp' => ?_)
    obtain rfl : ps = ps' := by simpa [hps] using hps'
    obtain ⟨m, -, hpm⟩ := exists_of_mem_left hm hp'
    exact ⟨m.name, hpm.name⟩
  · exact hp hnone

/-- There is an expression exactly when every record that the compiler comes to, with at least one
level left, has names with texts. -/
theorem compileWithin_returns_iff {fuel : Nat} :
    (∃ e, (compileWithin registry options fuel schema context opened).outcome = .ok e) ↔
      ∀ depth place y, Site.Visits registry options.referenceMode ⟨schema, opened⟩ depth place y →
        depth < fuel → ¬y.schema.HasUnwritableName := by
  constructor
  · rintro ⟨e, h⟩ depth place y hv hlt
    generalize hx : (⟨schema, opened⟩ : Site α) = x at hv
    induction hv generalizing fuel schema context opened e with
    | here x =>
      subst hx
      obtain ⟨fuel, rfl⟩ := Nat.exists_eq_add_of_le' hlt
      exact not_hasUnwritableName_of_compiled (compileWithin_succ.1 h)
    | step hs _ ih =>
      subst hx
      obtain ⟨fuel, rfl⟩ := Nat.exists_eq_add_of_le' (Nat.zero_lt_of_lt hlt)
      obtain ⟨context, f, -, hf⟩ := hs.compiled h
      exact ih f hf (Nat.lt_of_succ_lt_succ hlt) rfl
  · intro h
    induction fuel generalizing schema context opened with
    | zero => exact ⟨.any, compileWithin_zero⟩
    | succ fuel ih =>
      have next {place : Position} {y : Site α}
          (hs : Site.Step registry options.referenceMode ⟨schema, opened⟩ place y)
          (context : String) :
          ∃ e, (compileWithin registry options fuel y.schema context y.opened).outcome = .ok e :=
        ih fun depth rest z hv hlt => h _ _ z (.step hs hv) (by omega)
      simp only [compileWithin_succ]
      refine exists_compiled (fun ht entries hi => next (.part (.items ht hi)) _) (fun ht ps hp => ?_)
        fun hm ht target a hr hn hl ho => next (.expansion hm ⟨ht, ⟨target, hr, rfl⟩, hn⟩ hl ho) _
      refine ⟨?_, fun p hp' name => ?_⟩
      · by_contra hw
        exact h 0 [] _ (.here _) (by omega) ⟨ht, by simp [hp], hw⟩
      · obtain ⟨index, hi⟩ := List.getElem?_of_mem hp'
        exact next (.part (.property ht hp hi)) name

/-! ### Limits -/

/-- With a limit of `m`, there is an expression unless the compiler comes, within `m` steps, to a
record with a name that has no text. The expression has at most `m + 1` lists and records inside each
other, and below the last level that is compiled nothing but any value. Unless references are
expanded, it is the expression for each larger limit, cut off there. -/
theorem compile_truncated (registry : Registry α) (options : TypeOptions) (schema : Schema α)
    (context : String) (identity : Option String) :
    let compiled (m : Nat) :=
      (compile registry { options with maxDepth := m } schema context identity).outcome
    (∀ m, (∃ e, compiled m = .ok e) ↔ ∀ depth place y,
      Site.Visits registry options.referenceMode (Site.start schema identity) depth place y →
      depth ≤ m → ¬y.schema.HasUnwritableName) ∧
    (∀ m e, compiled m = .ok e → e.nesting ≤ m + 1 ∧
      ∀ place f, place.length = m + 1 → e.at? place = some f → f = .any) ∧
    (options.referenceMode ≠ .inline → ∀ m m' e, m ≤ m' → compiled m' = .ok e →
      compiled m = .ok (e.truncated (m + 1))) := by
  intro compiled
  refine ⟨fun m => ?_, fun m e he => ?_, fun hm m m' e hle he => ?_⟩
  · simp only [← Nat.lt_succ_iff]
    exact compileWithin_returns_iff
  · have cut : e.truncated (m + 1) = e := truncated_compileWithin he
    refine ⟨cut ▸ nesting_truncated_le (m + 1) e, fun place f hlength hf => ?_⟩
    rw [← cut, ← hlength] at hf
    exact eq_any_of_at?_truncated hf
  · exact compileWithin_truncated { options with maxDepth := m' } hm (Nat.succ_le_succ hle) m he

/-- Shelves of boxes of numbered cards. -/
def shelves : Value :=
  .ofFields [("type", .text "array"), ("items", .ofFields [("type", .text "object"),
    ("properties", .ofFields [("cards", .ofFields [("type", .text "array"),
      ("items", .ofFields [("type", .text "integer")])])])])]

/-- A record that requires a name with too many digits. -/
def overlongRequired : Value :=
  .ofFields [("type", .text "object"), ("properties", .ofFields [("a", .ofFields [])]),
    ("required", .list [.int (10 ^ 4300)])]

/-- With a limit of 1, the boxes on the shelves have cards of any kind. For a name with too many
digits there is no expression. -/
theorem compile_truncated_shelves :
    ({} : TypeOptions).referenceMode ≠ .inline ∧
    (compile [] { maxDepth := 3 } shelves.layer "" none).outcome =
      .ok (.sequence (.record [⟨"cards", true, .sequence .number⟩])) ∧
    (compile [] { maxDepth := 1 } shelves.layer "" none).outcome =
      .ok (.sequence (.record [⟨"cards", true, .any⟩])) ∧
    (sequence (.record [⟨"cards", true, .any⟩])).nesting ≤ 2 ∧
    ∀ m, ¬∃ e, (compile [] { maxDepth := m } overlongRequired.layer "" none).outcome = .ok e := by
  obtain ⟨-, levels, cut⟩ := compile_truncated [] {} shelves.layer "" none
  have compiled : (compile [] { maxDepth := 3 } shelves.layer "" none).outcome =
      .ok (.sequence (.record [⟨"cards", true, .sequence .number⟩])) := rfl
  have shallow := cut (by decide) 1 3 _ (by decide) compiled
  refine ⟨by decide, compiled, shallow, (levels 1 _ shallow).1, fun m h => ?_⟩
  obtain ⟨returns, -⟩ := compile_truncated [] {} overlongRequired.layer "" none
  refine (returns m).1 h 0 [] _ (.here _) (Nat.zero_le m) ⟨rfl, by decide, fun writable => ?_⟩
  have long := writable.required _ rfl _ (List.mem_singleton_self _) (10 ^ 4300) rfl
  have unwritable : (Scalar.int (10 ^ 4300)).isWritable = false := by decide +kernel
  rw [unwritable] at long
  cases long

end TypeExpr

end ApiBridge
