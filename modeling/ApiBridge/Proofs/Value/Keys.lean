import ApiBridge.Value.Basic
import Mathlib.Data.List.Forall2
import Mathlib.Data.List.Induction
import Mathlib.Tactic.Lemma

/-!
# Entries under keys and names

Entries are looked up under a key, and the value of a key is set, by the first entry with that key.
Setting the values of names one after another leaves for each name the value set last.
-/

namespace ApiBridge

/-! ### Keys -/

lemma Scalar.same_self (k : Scalar) : k.same k = true := by
  cases k with
  | moment t => simp [same, Moment.same]
  | _ => simp [same, Binary64.same, whole?]

lemma Scalar.same_comm (k k' : Scalar) : k.same k' = k'.same k := by
  have rest {a b : Scalar} (hf : ∀ x y, a = .float x → b = .float y → False)
      (hm : ∀ s t, a = .moment s → b = .moment t → False) : a.same b = b.same a := by
    rw [same.eq_3 a b hf hm,
      same.eq_3 b a (fun x y h h' => hf y x h' h) fun s t h h' => hm t s h' h]
    cases a.whole? with
    | none | some =>
      cases b.whole? with
      | none | some => exact Bool.beq_comm
  cases k with
  | float x =>
    cases k' with
    | float y =>
      simp only [same, Binary64.same, Bool.beq_comm (a := x), Bool.and_comm x.isZero]
    | _ => exact rest (by simp) (by simp)
  | moment s =>
    cases k' with
    | moment t =>
      simp only [same, Moment.same, Bool.beq_comm (a := s.instant), Bool.beq_comm (a := s),
        Bool.and_comm s.offset.isSome]
    | _ => exact rest (by simp) (by simp)
  | _ => exact rest (by simp) (by simp)

/-- A text is the same key as itself only. -/
lemma Scalar.same_text_iff {k : Scalar} {s : String} : k.same (.text s) = true ↔ k = .text s := by
  cases k with
  | _ => simp [same, whole?]

section Keys

variable {α β : Type} {key : Scalar}

lemma lookupKey_isSome_iff {es : List (Scalar × α)} :
    (lookupKey key es).isSome ↔ ∃ k ∈ es.map (·.1), k.same key = true := by
  simp [lookupKey]

/-- With keys that all differ, each entry is found under its key. -/
lemma lookupKey_of_mem {es : List (Scalar × α)} {a : α} (h : (key, a) ∈ es)
    (hk : (es.map (·.1)).Pairwise fun k k' => k.same k' = false) :
    lookupKey key es = some a := by
  induction es with
  | nil => simp at h
  | cons e es ih =>
    obtain ⟨he, hk⟩ := List.pairwise_cons.1 hk
    rcases List.mem_cons.1 h with rfl | h
    · simp [lookupKey, Scalar.same_self]
    · have hne : e.1.same key = false := he key (List.mem_map_of_mem h)
      have ih := ih h hk
      simp only [lookupKey, List.find?_cons, hne] at ih ⊢
      exact ih

/-- Entries that are related one by one, with their keys, are found together. -/
lemma lookupKey_forall₂ (key : Scalar) {R : Scalar × α → Scalar × β → Prop}
    {es : List (Scalar × α)} {fs : List (Scalar × β)} (h : List.Forall₂ R es fs)
    (hR : ∀ e f, R e f → e.1 = f.1) :
    lookupKey key es = none ∧ lookupKey key fs = none ∨
      ∃ k a b, k.same key = true ∧ lookupKey key es = some a ∧ lookupKey key fs = some b ∧
        R (k, a) (k, b) := by
  induction h with
  | nil => exact .inl ⟨rfl, rfl⟩
  | @cons e f es fs hef _ ih =>
    obtain ⟨k, a⟩ := e
    obtain ⟨k', b⟩ := f
    obtain rfl : k = k' := hR _ _ hef
    by_cases hk : k.same key = true
    · exact .inr ⟨k, a, b, hk, by simp [lookupKey, hk], by simp [lookupKey, hk], hef⟩
    · simpa [lookupKey, hk] using ih

/-- Setting the value of a key that is there changes the value of its entry only. -/
lemma forall₂_insertKey {es : List (Scalar × α)} {a b : α} (h : lookupKey key es = some a) :
    List.Forall₂ (fun e e' => e' = e ∨ ∃ k, k.same key = true ∧ e = (k, a) ∧ e' = (k, b)) es
      (insertKey key b es) := by
  induction es with
  | nil => simp [lookupKey] at h
  | cons e es ih =>
    obtain ⟨k, c⟩ := e
    rw [insertKey]
    by_cases hk : k.same key = true
    · obtain rfl : c = a := by simpa [lookupKey, hk] using h
      rw [if_pos hk]
      exact .cons (.inr ⟨k, hk, rfl, rfl⟩) (List.forall₂_same.2 fun _ _ => .inl rfl)
    · rw [if_neg hk]
      exact .cons (.inl rfl) (ih (by simpa [lookupKey, hk] using h))

lemma map_fst_insertKey {es : List (Scalar × α)} {a b : α} (h : lookupKey key es = some a) :
    (insertKey key b es).map (·.1) = es.map (·.1) := by
  have hins := forall₂_insertKey (b := b) h
  generalize insertKey key b es = fs at hins
  clear h
  induction hins with
  | nil => rfl
  | cons he _ ih =>
    rcases he with rfl | ⟨k, -, rfl, rfl⟩
    · simp [ih]
    · simp [ih]

/-- The entry that was set is found. -/
lemma lookupKey_insertKey {es : List (Scalar × α)} {a b : α} (h : lookupKey key es = some a) :
    lookupKey key (insertKey key b es) = some b := by
  induction es with
  | nil => simp [lookupKey] at h
  | cons e es ih =>
    obtain ⟨k, c⟩ := e
    rw [insertKey]
    by_cases hk : k.same key = true
    · simp [lookupKey, hk]
    · rw [if_neg hk]
      simpa [lookupKey, hk] using ih (by simpa [lookupKey, hk] using h)

/-- With keys that all differ, setting the value of a key changes that entry only. -/
lemma mem_insertKey {es : List (Scalar × α)} {a b : α} (h : (key, a) ∈ es)
    (hk : (es.map (·.1)).Pairwise fun k k' => k.same k' = false) {e : Scalar × α} :
    e ∈ insertKey key b es ↔ e = (key, b) ∨ e.1 ≠ key ∧ e ∈ es := by
  induction es with
  | nil => simp at h
  | cons f es ih =>
    obtain ⟨hf, hk⟩ := List.pairwise_cons.1 hk
    rw [insertKey]
    rcases List.mem_cons.1 h with rfl | h
    · have rest : e ∈ es → e.1 ≠ key := by
        rintro he rfl
        have := hf e.1 (List.mem_map_of_mem he)
        rw [Scalar.same_self] at this
        cases this
      rw [if_pos (Scalar.same_self key), List.mem_cons, List.mem_cons]
      refine or_congr_right ⟨fun he => ⟨rest he, .inr he⟩, ?_⟩
      rintro ⟨hne, rfl | he⟩
      · exact absurd rfl hne
      · exact he
    · have hne : f.1.same key = false := hf key (List.mem_map_of_mem h)
      rw [hne, if_neg Bool.false_ne_true, List.mem_cons, ih h hk, List.mem_cons]
      constructor
      · rintro (rfl | rfl | ⟨hne', he⟩)
        · refine .inr ⟨?_, .inl rfl⟩
          rintro rfl
          rw [Scalar.same_self] at hne
          cases hne
        · exact .inl rfl
        · exact .inr ⟨hne', .inr he⟩
      · rintro (rfl | ⟨hne', rfl | he⟩)
        · exact .inr (.inl rfl)
        · exact .inl rfl
        · exact .inr (.inr ⟨hne', he⟩)

lemma insertKey_of_forall_ne {es : List (Scalar × α)} (a : α)
    (h : ∀ e ∈ es, e.1.same key = false) : insertKey key a es = es ++ [(key, a)] := by
  induction es with
  | nil => rfl
  | cons e es ih =>
    rw [insertKey, h e (by simp), if_neg Bool.false_ne_true,
      ih fun e' he' => h e' (by simp [he']), List.cons_append]

/-- Where all keys differ there is nothing to merge. -/
lemma mergeKeys_eq_self {es : List (Scalar × α)}
    (hk : (es.map (·.1)).Pairwise fun k k' => k.same k' = false) : mergeKeys es = es := by
  induction es using List.reverseRecOn with
  | nil => rfl
  | append_singleton es e ih =>
    rw [List.map_append, List.pairwise_append] at hk
    have last : ∀ e' ∈ es, e'.1.same e.1 = false := fun e' he' =>
      hk.2.2 e'.1 (List.mem_map_of_mem he') e.1 (by simp)
    rw [mergeKeys] at ih
    rw [mergeKeys, List.foldl_append, ih hk.1, List.foldl_cons, List.foldl_nil,
      insertKey_of_forall_ne _ last]

/-- Names that are all different are different as keys. -/
lemma pairwise_text {names : List String} (h : names.Nodup) :
    (names.map Scalar.text).Pairwise fun k k' => k.same k' = false := by
  rw [List.pairwise_map]
  refine h.imp fun {m n} hne => ?_
  rw [Bool.eq_false_iff, ne_eq, Scalar.same_text_iff, Scalar.text.injEq]
  exact hne

end Keys

/-! ### Names -/

section Names

variable {α : Type} {n : String} {v : α}

lemma map_fst_insertName (es : List (String × α)) : (insertName n v es).map (·.1) =
    if n ∈ es.map (·.1) then es.map (·.1) else es.map (·.1) ++ [n] := by
  induction es with
  | nil => simp
  | cons e es ih =>
    rw [insertName]
    by_cases he : e.1 = n
    · simp [he]
    · rw [if_neg he, List.map_cons, ih]
      by_cases hn : n ∈ es.map (·.1)
      · simp only [hn, if_true, List.map_cons, List.mem_cons, or_true]
      · simp only [hn, if_false, List.map_cons, List.mem_cons, or_false, Ne.symm he,
          List.cons_append]

lemma nodup_insertName {es : List (String × α)} (h : (es.map (·.1)).Nodup) :
    ((insertName n v es).map (·.1)).Nodup := by
  rw [map_fst_insertName]
  split
  · exact h
  · refine List.nodup_append.2 ⟨h, by simp, ?_⟩
    rintro a ha b hb rfl
    rw [List.mem_singleton.1 hb] at ha
    contradiction

lemma mem_insertName {es : List (String × α)} (h : (es.map (·.1)).Nodup) {e : String × α} :
    e ∈ insertName n v es ↔ e = (n, v) ∨ e.1 ≠ n ∧ e ∈ es := by
  induction es with
  | nil => simp
  | cons f es ih =>
    obtain ⟨hf, hes⟩ := List.nodup_cons.1 h
    rw [insertName]
    by_cases hn : f.1 = n
    · subst hn
      rw [if_pos rfl, List.mem_cons, List.mem_cons]
      refine or_congr_right ⟨fun he => ⟨?_, .inr he⟩, ?_⟩
      · rintro heq
        exact hf (List.mem_map.2 ⟨e, he, heq⟩)
      · rintro ⟨hne, rfl | he⟩
        · exact absurd rfl hne
        · exact he
    · rw [if_neg hn, List.mem_cons, ih hes, List.mem_cons]
      constructor
      · rintro (rfl | rfl | ⟨hne, he⟩)
        · exact .inr ⟨hn, .inl rfl⟩
        · exact .inl rfl
        · exact .inr ⟨hne, .inr he⟩
      · rintro (rfl | ⟨hne, rfl | he⟩)
        · exact .inr (.inl rfl)
        · exact .inl rfl
        · exact .inr (.inr ⟨hne, he⟩)

lemma insertName_of_not_mem {es : List (String × α)} (h : n ∉ es.map (·.1)) :
    insertName n v es = es ++ [(n, v)] := by
  induction es with
  | nil => rfl
  | cons e es ih =>
    rw [List.map_cons, List.mem_cons, not_or] at h
    rw [insertName, if_neg (Ne.symm h.1), ih h.2, List.cons_append]

/-- Where all names differ, each entry keeps its place and its value. -/
lemma foldl_insertName_eq_self {es : List (String × α)} (h : (es.map (·.1)).Nodup) :
    es.foldl (fun done e => insertName e.1 e.2 done) [] = es := by
  induction es using List.reverseRecOn with
  | nil => rfl
  | append_singleton es e ih =>
    rw [List.map_append, List.nodup_append] at h
    have last : e.1 ∉ es.map (·.1) := fun he => h.2.2 e.1 he e.1 (by simp) rfl
    rw [List.foldl_append, ih h.1, List.foldl_cons, List.foldl_nil, insertName_of_not_mem last]

/-- Of entries with one name the last counts. -/
lemma mem_foldl_insertName {β : Type} {f : β → String} {g : β → α} {xs : List β}
    {e : String × α} :
    e ∈ xs.foldl (fun done x => insertName (f x) (g x) done) [] ↔
      ∃ before x after, xs = before ++ x :: after ∧ e = (f x, g x) ∧ ∀ y ∈ after, f y ≠ f x := by
  have nodup (xs : List β) :
      ((xs.foldl (fun done x => insertName (f x) (g x) done) []).map (·.1)).Nodup := by
    induction xs using List.reverseRecOn with
    | nil => simp
    | append_singleton xs x ih =>
      rw [List.foldl_append]
      exact nodup_insertName ih
  induction xs using List.reverseRecOn with
  | nil => simp
  | append_singleton xs x ih =>
    rw [List.foldl_append, List.foldl_cons, List.foldl_nil, mem_insertName (nodup xs),
      and_congr_right fun _ => ih]
    constructor
    · rintro (rfl | ⟨hne, before, y, after, rfl, rfl, hlast⟩)
      · exact ⟨xs, x, [], rfl, rfl, by simp⟩
      · refine ⟨before, y, after ++ [x], by simp, rfl, fun z hz => ?_⟩
        rcases List.mem_append.1 hz with hz | hz
        · exact hlast z hz
        · rw [List.mem_singleton.1 hz]
          exact Ne.symm hne
    · rintro ⟨before, y, after, heq, rfl, hlast⟩
      rcases List.eq_nil_or_concat after with rfl | ⟨after, z, rfl⟩
      · obtain ⟨-, hxy⟩ := List.append_inj' heq rfl
        cases hxy
        exact .inl rfl
      · rw [List.concat_eq_append] at heq hlast
        rw [← List.cons_append, ← List.append_assoc] at heq
        obtain ⟨rfl, hxz⟩ := List.append_inj' heq rfl
        cases hxz
        refine .inr ⟨Ne.symm (hlast x (by simp)), before, y, after, rfl, rfl, fun w hw => ?_⟩
        exact hlast w (by simp [hw])

end Names

end ApiBridge
