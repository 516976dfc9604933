import ApiBridge.Description.OfDocument
import ApiBridge.Proofs.Value.Keys
import ApiBridge.TypeScript.Declaration
import Mathlib.Data.List.Duplicate

/-!
# First occurrences

Of a list each element can be taken at its first place only. Nothing is lost and nothing is
repeated, and elements stand in the order in which they occur first. So are the ids reported that
several operations share, and the names that several declarations have.
-/

namespace ApiBridge

variable {β : Type} [DecidableEq β]

lemma firstOccurrences_append_singleton (xs : List β) (x : β) :
    firstOccurrences (xs ++ [x]) =
      if x ∈ firstOccurrences xs then firstOccurrences xs else firstOccurrences xs ++ [x] := by
  simp only [firstOccurrences, List.foldl_append, List.foldl_cons, List.foldl_nil,
    List.contains_eq_mem, decide_eq_true_eq]

lemma mem_firstOccurrences {xs : List β} {x : β} : x ∈ firstOccurrences xs ↔ x ∈ xs := by
  induction xs using List.reverseRecOn with
  | nil => simp [firstOccurrences]
  | append_singleton xs y ih =>
    rw [firstOccurrences_append_singleton]
    by_cases hy : y ∈ firstOccurrences xs
    · have repeated : x = y → x ∈ firstOccurrences xs := fun h => h ▸ hy
      rw [if_pos hy, List.mem_append, List.mem_singleton, ← ih, or_iff_left_of_imp repeated]
    · rw [if_neg hy, List.mem_append, List.mem_append, ih]

lemma nodup_firstOccurrences (xs : List β) : (firstOccurrences xs).Nodup := by
  induction xs using List.reverseRecOn with
  | nil => exact List.nodup_nil
  | append_singleton xs x ih =>
    rw [firstOccurrences_append_singleton]
    split
    case isTrue => exact ih
    case isFalse hx => simpa using ih.concat hx

/-- It is the same to leave elements out before or after. -/
lemma firstOccurrences_filter (p : β → Bool) (xs : List β) :
    firstOccurrences (xs.filter p) = (firstOccurrences xs).filter p := by
  induction xs using List.reverseRecOn with
  | nil => rfl
  | append_singleton xs x ih =>
    rw [List.filter_append, firstOccurrences_append_singleton]
    by_cases hp : p x = true
    · rw [List.filter_cons_of_pos hp, List.filter_nil, firstOccurrences_append_singleton, ih]
      by_cases hx : x ∈ firstOccurrences xs
      · simp [hx, hp]
      · simp [hx, hp]
    · rw [List.filter_cons_of_neg hp, List.filter_nil, List.append_nil, ih]
      by_cases hx : x ∈ firstOccurrences xs
      · simp [hx]
      · simp [hx, hp]

/-- What occurs first stands first. -/
lemma pairwise_firstOccurrences (xs : List β) :
    (firstOccurrences xs).Pairwise fun x y => xs.idxOf x < xs.idxOf y := by
  induction xs using List.reverseRecOn with
  | nil => exact List.Pairwise.nil
  | append_singleton xs x ih =>
    have before : ∀ y ∈ firstOccurrences xs, (xs ++ [x]).idxOf y = xs.idxOf y := by
      intro y hy
      exact List.idxOf_append_of_mem (mem_firstOccurrences.1 hy)
    have kept : (firstOccurrences xs).Pairwise
        fun y z => (xs ++ [x]).idxOf y < (xs ++ [x]).idxOf z := by
      refine ih.imp_of_mem ?_
      intro y z hy hz h
      rwa [before y hy, before z hz]
    rw [firstOccurrences_append_singleton]
    split
    case isTrue => exact kept
    case isFalse hx =>
      rw [mem_firstOccurrences] at hx
      rw [List.pairwise_append]
      refine ⟨kept, List.pairwise_singleton _ x, ?_⟩
      intro y hy z hz
      rw [List.mem_singleton.1 hz, before y hy, List.idxOf_append_of_notMem hx]
      exact Nat.lt_of_lt_of_le (List.idxOf_lt_length_of_mem (mem_firstOccurrences.1 hy))
        (Nat.le_add_right _ _)

/-- Names that get values one after another stand where they occur first. -/
lemma map_fst_foldl_insertName {α γ : Type} (f : γ → String) (g : γ → α) (xs : List γ) :
    (xs.foldl (fun done x => insertName (f x) (g x) done) []).map (·.1) =
      firstOccurrences (xs.map f) := by
  induction xs using List.reverseRecOn with
  | nil => rfl
  | append_singleton xs x ih =>
    rw [List.foldl_append, List.foldl_cons, List.foldl_nil, map_fst_insertName, ih,
      List.map_append, List.map_cons, List.map_nil, firstOccurrences_append_singleton]

/-! ### Elements that are repeated -/

lemma repeated_eq_filter (xs : List β) :
    repeated xs = (firstOccurrences xs).filter fun x => 1 < xs.count x :=
  firstOccurrences_filter _ xs

lemma mem_repeated {xs : List β} {x : β} : x ∈ repeated xs ↔ List.Sublist [x, x] xs := by
  rw [repeated, mem_firstOccurrences, List.mem_filter, decide_eq_true_eq,
    ← List.duplicate_iff_sublist, List.duplicate_iff_two_le_count]
  apply and_iff_right_of_imp
  intro h
  exact List.count_pos_iff.1 (Nat.lt_of_succ_lt h)

lemma repeated_eq_nil_iff {xs : List β} : repeated xs = [] ↔ xs.Nodup := by
  simp only [List.eq_nil_iff_forall_not_mem, mem_repeated, List.nodup_iff_sublist]

/-- A report of the names that several things in a list have. -/
structure ReportsShared {α : Type} (name : α → String) (xs : List α) (report : List String) :
    Prop where
  /-- A name is reported where two things, one after the other, have it. -/
  mem_iff (n : String) : n ∈ report ↔ ∃ x y, List.Sublist [x, y] xs ∧ name x = n ∧ name y = n
  /-- No name is reported twice. -/
  nodup : report.Nodup
  /-- The name that occurs first is reported first. -/
  inOrder : report.Pairwise fun m n => (xs.map name).idxOf m < (xs.map name).idxOf n
  /-- Nothing is reported where all names are different. -/
  eq_nil_iff : report = [] ↔ xs.Pairwise fun x y => name x ≠ name y

/-- The names that are repeated are a report of those that several things have. -/
lemma reportsShared_repeated {α : Type} (name : α → String) (xs : List α) :
    ReportsShared name xs (repeated (xs.map name)) where
  mem_iff n := by
    rw [mem_repeated, List.sublist_map_iff]
    constructor
    · rintro ⟨pair, hpair, names⟩
      obtain ⟨x, y, rfl, hx, hy⟩ : ∃ x y, pair = [x, y] ∧ name x = n ∧ name y = n := by
        simpa [eq_comm, List.map_eq_cons_iff] using names
      exact ⟨x, y, hpair, hx, hy⟩
    · rintro ⟨x, y, hpair, rfl, hy⟩
      refine ⟨[x, y], hpair, ?_⟩
      rw [List.map_cons, List.map_cons, List.map_nil, hy]
  nodup := nodup_firstOccurrences _
  inOrder := by
    rw [repeated_eq_filter]
    exact (pairwise_firstOccurrences _).filter _
  eq_nil_iff := by
    rw [repeated_eq_nil_iff]
    exact List.pairwise_map

/-- The ids that are reported as shared are exactly those that two operations of a description have,
and the names that are reported as duplicates exactly those that two declarations have. Both reports
hold each of them once, in the order of first occurrence, and they are empty exactly where all ids
and all names are different. -/
theorem shared_exact {α : Type} (api : Api α) (ds : List Declaration) :
    ReportsShared (·.operationId) api.operations api.sharedIds ∧
      ReportsShared (·.name) ds (Declaration.duplicates ds) :=
  ⟨reportsShared_repeated _ api.operations, reportsShared_repeated _ ds⟩

example : repeated ["b", "a", "c", "a", "b", "b"] = ["b", "a"] := by
  decide

end ApiBridge
