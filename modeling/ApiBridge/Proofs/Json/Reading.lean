import ApiBridge.Json.Reader
import ApiBridge.Proofs.Outcome
import ApiBridge.Proofs.Value.Keys
import ApiBridge.Value.Text
import Mathlib.Data.List.TakeWhile
import Mathlib.Tactic.IntervalCases

/-!
# Values read from JSON

In a value that is read from JSON all keys are texts, and those of one map differ. An integer in it
has so few digits that it can be written again.
-/

namespace ApiBridge

/-! ### Merged entries -/

section Merged

variable {α : Type} {key : Scalar} {a : α}

/-- Setting the value of a key keeps all keys different. -/
lemma pairwise_insertKey {es : List (Scalar × α)}
    (hk : (es.map (·.1)).Pairwise fun k k' => k.same k' = false) :
    ((insertKey key a es).map (·.1)).Pairwise fun k k' => k.same k' = false := by
  by_cases hkey : ∀ e ∈ es, e.1.same key = false
  · rw [insertKey_of_forall_ne a hkey, List.map_append, List.pairwise_append]
    refine ⟨hk, by simp, fun k hk' l hl => ?_⟩
    obtain ⟨e, he, rfl⟩ := List.mem_map.1 hk'
    rw [List.map_singleton, List.mem_singleton] at hl
    rw [hl]
    exact hkey e he
  · have found : (lookupKey key es).isSome := by
      simpa [lookupKey_isSome_iff] using hkey
    obtain ⟨b, hb⟩ := Option.isSome_iff_exists.1 found
    rwa [map_fst_insertKey hb]

/-- What holds of all keys and of all values still holds of them when one more is set. -/
lemma forall_mem_insertKey {p : Scalar → Prop} {q : α → Prop} {es : List (Scalar × α)}
    (ha : p key ∧ q a) (h : ∀ e ∈ es, p e.1 ∧ q e.2) : ∀ e ∈ insertKey key a es, p e.1 ∧ q e.2 := by
  induction es with
  | nil => simpa [insertKey] using ha
  | cons e es ih =>
    obtain ⟨he, h⟩ := List.forall_mem_cons.1 h
    rw [insertKey]
    split
    case isTrue => exact List.forall_mem_cons.2 ⟨⟨he.1, ha.2⟩, h⟩
    case isFalse => exact List.forall_mem_cons.2 ⟨he, ih h⟩

/-- What holds of all keys and of all values still holds of them when entries are merged, and then
all keys differ. -/
lemma mergeKeys_spec {p : Scalar → Prop} {q : α → Prop} {es : List (Scalar × α)}
    (h : ∀ e ∈ es, p e.1 ∧ q e.2) :
    ((mergeKeys es).map (·.1)).Pairwise (fun k k' => k.same k' = false) ∧
      ∀ e ∈ mergeKeys es, p e.1 ∧ q e.2 := by
  induction es using List.reverseRecOn with
  | nil => exact ⟨.nil, by simp [mergeKeys]⟩
  | append_singleton es f ih =>
    have merged : mergeKeys (es ++ [f]) = insertKey f.1 f.2 (mergeKeys es) := by
      simp [mergeKeys, List.foldl_append]
    obtain ⟨distinct, kept⟩ := ih fun e he => h e (List.mem_append_left _ he)
    rw [merged]
    exact ⟨pairwise_insertKey distinct, forall_mem_insertKey (h f (by simp)) kept⟩

end Merged

/-! ### Values of JSON -/

/-- A value as it is read from JSON. -/
inductive Value.IsJson : Value → Prop
  | scalar {s : Scalar} (hs : s.isWritable = true) : IsJson (.scalar s)
  | list {vs : List Value} (hv : ∀ v ∈ vs, v.IsJson) : IsJson (.list vs)
  | map {es : List (Scalar × Value)}
      (distinct : (es.map (·.1)).Pairwise fun k k' => k.same k' = false)
      (named : ∀ e ∈ es, ∃ name, e.1 = .text name) (hes : ∀ e ∈ es, e.2.IsJson) : IsJson (.map es)

namespace Value

lemma areWritable_iff {vs : List Value} :
    areWritable vs = true ↔ ∀ v ∈ vs, v.isWritable = true := by
  induction vs with
  | nil => simp [areWritable]
  | cons v vs ih => rw [areWritable, Bool.and_eq_true, ih, List.forall_mem_cons]

lemma entriesWritable_iff {es : List (Scalar × Value)} :
    entriesWritable es = true ↔ ∀ e ∈ es, e.1.isWritable = true ∧ e.2.isWritable = true := by
  induction es with
  | nil => simp [entriesWritable]
  | cons e es ih =>
    rw [entriesWritable, Bool.and_eq_true, Bool.and_eq_true, ih, List.forall_mem_cons]

/-- A map with names as keys has a text if its values have one. -/
lemma isWritable_ofFields_iff {fields : List (String × Value)} :
    (Value.ofFields fields).isWritable = true ↔ ∀ f ∈ fields, f.2.isWritable = true := by
  rw [ofFields, Value.isWritable, entriesWritable_iff, List.forall_mem_map]
  simp only [Scalar.isWritable_text, true_and]

namespace IsJson

/-- A value of JSON has a text. -/
lemma isWritable {v : Value} (h : v.IsJson) : v.isWritable = true := by
  induction h with
  | scalar hs => exact hs
  | list _ ih => exact areWritable_iff.2 ih
  | map _ named _ ih =>
    refine entriesWritable_iff.2 fun e he => ⟨?_, ih e he⟩
    obtain ⟨name, hname⟩ := named e he
    rw [hname, Scalar.isWritable_text]

/-- The value under a name in a value of JSON is one of JSON. -/
lemma field? {v w : Value} {name : String} (hv : v.IsJson) (h : v.field? name = some w) :
    w.IsJson := by
  cases hv with
  | map _ _ hes =>
    obtain ⟨e, he, rfl⟩ := Option.map_eq_some_iff.1 h
    exact hes e (List.mem_of_find?_eq_some he)
  | _ => cases h

end IsJson

end Value

namespace Json

open Value

/-! ### Integers -/

/-- No more digits than `limit` stand for a number below that power of ten. -/
lemma natOfDigits_lt {ds : List Char} (h : ∀ c ∈ ds, c.isDigit = true) {limit : Nat}
    (hl : ds.length ≤ limit) : natOfDigits ds < Nat.pow 10 limit := by
  refine Nat.lt_of_lt_of_le ?_ (Nat.pow_le_pow_right (by omega) hl)
  clear hl
  induction ds using List.reverseRecOn with
  | nil => simp [natOfDigits]
  | append_singleton ds c ih =>
    have before := ih fun c' hc' => h c' (List.mem_append_left _ hc')
    have digit : c.toNat ≤ 57 := by
      have hc := h c (by simp)
      simp only [Char.isDigit, Bool.and_eq_true, decide_eq_true_iff] at hc
      exact hc.2
    have number : natOfDigits (ds ++ [c]) = natOfDigits ds * 10 + (c.toNat - 48) := by
      simp [natOfDigits]
    rw [number, List.length_append, List.length_singleton, Nat.pow_succ]
    omega

/-- An integer that does not have too many digits can be written. -/
lemma isWritable_of_length_le {ds : List Char} (h : ∀ c ∈ ds, c.isDigit = true)
    (hl : ds.length ≤ digitLimit) (negative : Bool) :
    Text.isWritable (if negative then -(natOfDigits ds : Int) else natOfDigits ds) = true := by
  have size : (if negative then -(natOfDigits ds : Int) else natOfDigits ds).natAbs
      = natOfDigits ds := by
    cases negative with
    | true => exact Int.natAbs_neg _
    | false => rfl
  unfold Text.isWritable
  rw [size]
  exact decide_eq_true (natOfDigits_lt h hl)

/-- The decimal digits of a number stand for it. -/
lemma natOfDigits_toDigits (n : Nat) : natOfDigits (Nat.toDigits 10 n) = n := by
  have digits : natOfDigits (Nat.toDigits 10 n) = Nat.ofDigitChars 10 (Nat.toDigits 10 n) 0 := by
    simp only [natOfDigits, Nat.ofDigitChars_eq_foldl, Nat.mul_comm 10, Char.reduceToNat]
  rw [digits, Nat.ofDigitChars_ten_toDigits]

/-- Only the digits of zero start with a zero. -/
lemma toDigits_ne_zero_cons {n : Nat} (hn : n ≠ 0) (cs : List Char) :
    Nat.toDigits 10 n ≠ '0' :: cs := by
  induction n using Nat.strongRecOn generalizing cs with
  | ind n ih =>
    rw [Nat.toDigits_eq_if (by decide)]
    split
    case isTrue hlt =>
      interval_cases n
      all_goals simp_all [Nat.digitChar]
    case isFalse hle =>
      have shorter : n / 10 ≠ 0 := by omega
      intro h
      rcases List.append_eq_cons_iff.1 h with ⟨hnil, -⟩ | ⟨ds, hds, -⟩
      · exact Nat.toDigits_ne_nil hnil
      · exact ih (n / 10) (by omega) shorter ds hds

/-! ### Readers -/

lemma isJson_of_readUnsigned {negative : Bool} {cs rest : List Char} {v : Value}
    (h : readUnsigned negative cs = some (.ok (v, rest))) : v.IsJson := by
  obtain ⟨⟨whole, after⟩, hwhole, h⟩ := Option.map_eq_some_iff.1 h
  have digits : ∀ c ∈ whole, c.isDigit = true := by
    split at hwhole
    case h_1 =>
      cases hwhole
      exact List.forall_mem_singleton.2 rfl
    case h_2 =>
      split at hwhole
      case isTrue =>
        cases hwhole
        exact fun c hc => List.mem_takeWhile_imp hc
      case isFalse => cases hwhole
    case h_3 => cases hwhole
  dsimp only at h
  split at h
  case isTrue =>
    split at h
    case isTrue => cases h
    case isFalse hl =>
      cases h
      exact .scalar (isWritable_of_length_le digits (Nat.not_lt.1 hl) negative)
  case isFalse =>
    cases h
    exact .scalar rfl

lemma isJson_of_readNumber {cs rest : List Char} {v : Value}
    (h : readNumber cs = .ok (v, rest)) : v.IsJson := by
  have unsigned {x : Option (Except Stop (Value × List Char))}
      (h : x.getD (failAt .valueExpected cs) = .ok (v, rest)) : x = some (.ok (v, rest)) := by
    cases x with
    | none => simp [failAt] at h
    | some x => rw [← h, Option.getD_some]
  have h := unsigned h
  split at h
  case h_1 => exact isJson_of_readUnsigned h
  case h_2 => exact isJson_of_readUnsigned h

lemma isJson_of_readWord? {cs rest : List Char} {v : Value}
    (h : readWord? cs = some (v, rest)) : v.IsJson := by
  obtain ⟨w, hw, heq⟩ := Option.map_eq_some_iff.1 h
  have words : ∀ w ∈ words, ∃ s : Scalar, s.isWritable = true ∧ w.2 = .scalar s := by
    simp [words, Scalar.isWritable]
  obtain ⟨s, hs, hws⟩ := words w (List.mem_of_find?_eq_some hw)
  rw [Prod.mk.injEq] at heq
  rw [← heq.1, hws]
  exact .scalar hs

/-- What the readers of values, items and entries give are values of JSON. -/
lemma isJson_of_readers (fuel : Nat) :
    (∀ cs v rest, readValue fuel cs = .ok (v, rest) → v.IsJson) ∧
    (∀ cs vs rest, readItems fuel cs = .ok (vs, rest) → ∀ v ∈ vs, v.IsJson) ∧
    ∀ cs es rest, readEntries fuel cs = .ok (es, rest) →
      ∀ e ∈ es, (∃ name, e.1 = .text name) ∧ e.2.IsJson := by
  induction fuel with
  | zero =>
    refine ⟨fun cs v rest h => ?_, fun cs vs rest h => ?_, fun cs es rest h => ?_⟩
    · simp [readValue, failAt] at h
    · simp [readItems, failAt] at h
    · simp [readEntries, failAt] at h
  | succ fuel ih =>
    obtain ⟨values, items, entries⟩ := ih
    refine ⟨fun cs v rest h => ?_, fun cs vs rest h => ?_, fun cs es rest h => ?_⟩
    · unfold readValue at h
      split at h
      case h_1 rest' =>
        obtain ⟨⟨s, rest''⟩, -, h⟩ := bind_eq_ok_iff.1 h
        cases h
        exact .scalar rfl
      case h_2 rest' =>
        split at h
        case h_1 =>
          cases h
          exact .map .nil (by simp) (by simp)
        case h_2 =>
          obtain ⟨⟨es, rest''⟩, hes, h⟩ := bind_eq_ok_iff.1 h
          cases h
          obtain ⟨distinct, kept⟩ := mergeKeys_spec (p := fun k => ∃ name, k = .text name)
            (q := IsJson) (entries _ _ _ hes)
          exact .map distinct (fun e he => (kept e he).1) fun e he => (kept e he).2
      case h_3 rest' =>
        split at h
        case h_1 =>
          cases h
          exact .list (by simp)
        case h_2 =>
          obtain ⟨⟨vs, rest''⟩, hvs, h⟩ := bind_eq_ok_iff.1 h
          cases h
          exact .list (items _ _ _ hvs)
      case h_4 =>
        split at h
        case h_1 found hfound =>
          cases h
          exact isJson_of_readWord? hfound
        case h_2 => exact isJson_of_readNumber h
    · unfold readItems at h
      obtain ⟨⟨v, rest'⟩, hv, h⟩ := bind_eq_ok_iff.1 h
      have hv := values _ _ _ hv
      dsimp only at h
      split at h
      case h_1 =>
        cases h
        exact List.forall_mem_singleton.2 hv
      case h_2 =>
        obtain ⟨⟨vs', rest''⟩, hvs, h⟩ := bind_eq_ok_iff.1 h
        cases h
        exact List.forall_mem_cons.2 ⟨hv, items _ _ _ hvs⟩
      case h_3 => simp [failAt] at h
    · unfold readEntries at h
      split at h
      case h_2 => simp [failAt] at h
      case h_1 rest' =>
        obtain ⟨⟨name, rest''⟩, -, h⟩ := bind_eq_ok_iff.1 h
        dsimp only at h
        split at h
        case h_2 => simp [failAt] at h
        case h_1 =>
          obtain ⟨⟨v, rest''⟩, hv, h⟩ := bind_eq_ok_iff.1 h
          have hv := values _ _ _ hv
          dsimp only at h
          split at h
          case h_1 =>
            cases h
            exact List.forall_mem_singleton.2 ⟨⟨name, rfl⟩, hv⟩
          case h_2 =>
            obtain ⟨⟨es', rest''⟩, hes, h⟩ := bind_eq_ok_iff.1 h
            cases h
            exact List.forall_mem_cons.2 ⟨⟨⟨name, rfl⟩, hv⟩, entries _ _ _ hes⟩
          case h_3 => simp [failAt] at h

/-- What is read from a text is a value of JSON: all keys are texts and differ, and it has a text. -/
theorem isJson_of_read {s : String} {v : Value} (h : read s = .ok v) : v.IsJson := by
  unfold read at h
  split at h
  case h_1 v' hall =>
    cases h
    unfold readAll at hall
    split at hall
    case h_1 => simp [failAt] at hall
    case h_2 cs _ =>
      obtain ⟨⟨v', rest⟩, hv, hall⟩ := bind_eq_ok_iff.1 hall
      dsimp only at hall
      split at hall
      case h_1 =>
        cases hall
        exact (isJson_of_readers _).1 _ _ _ hv
      case h_2 => simp [failAt] at hall
  case h_2 => cases h
  case h_3 => cases h

end Json

end ApiBridge
