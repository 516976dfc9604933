import Mathlib.Data.List.Nodup
import Mathlib.Data.List.Perm.Subperm
import Mathlib.Tactic.Lemma

/-!
# Walks from point to point

Where each point leads to one other point at most, a walk is determined by where it starts. A walk
that comes to an end meets no point twice, so that it is no longer than there are points.
-/

namespace ApiBridge

variable {α : Type}

/-- The points that are met from a point on until one leads nowhere. -/
inductive Walk (next : α → Option α) : α → List α → Prop
  | stop {a : α} (h : next a = none) : Walk next a [a]
  | step {a b : α} {way : List α} (h : next a = some b) (hb : Walk next b way) :
      Walk next a (a :: way)

namespace Walk

variable {next : α → Option α} {a b : α} {way way' : List α}

lemma unique (h : Walk next a way) (h' : Walk next a way') : way = way' := by
  induction h generalizing way' with
  | stop h =>
    cases h' with
    | stop => rfl
    | step h' => simp [h] at h'
  | step h _ ih =>
    cases h' with
    | stop h' => simp [h] at h'
    | step h' hb' =>
      rw [h, Option.some.injEq] at h'
      subst h'
      rw [ih hb']

lemma mem_self (h : Walk next a way) : a ∈ way := by
  cases h with
  | stop | step => exact List.mem_cons_self

lemma length_pos (h : Walk next a way) : 0 < way.length :=
  List.length_pos_of_mem h.mem_self

/-- Where a point that is met leads to is met. -/
lemma next_mem {c : α} (h : Walk next a way) (hb : b ∈ way) (hc : next b = some c) :
    c ∈ way := by
  induction h with
  | stop h =>
    obtain rfl := List.mem_singleton.1 hb
    simp [h] at hc
  | step h hw ih =>
    rcases List.mem_cons.1 hb with rfl | hb
    · obtain rfl := Option.some.inj (h.symm.trans hc)
      exact List.mem_cons_of_mem _ hw.mem_self
    · exact List.mem_cons_of_mem _ (ih hb)

/-- The walk from a point that is met is a part of the walk. -/
lemma of_mem (h : Walk next a way) (hb : b ∈ way) :
    ∃ rest, Walk next b rest ∧ rest.length ≤ way.length := by
  induction h with
  | stop h =>
    obtain rfl := List.mem_singleton.1 hb
    exact ⟨_, .stop h, Nat.le_refl _⟩
  | step h hw ih =>
    rcases List.mem_cons.1 hb with rfl | hb
    · exact ⟨_, .step h hw, Nat.le_refl _⟩
    · obtain ⟨rest, hrest, hlen⟩ := ih hb
      exact ⟨rest, hrest, Nat.le_succ_of_le hlen⟩

/-- A point that is met again would make the walk longer than itself. -/
theorem nodup (h : Walk next a way) : way.Nodup := by
  induction h with
  | stop h => exact List.nodup_singleton _
  | @step a b way h hw ih =>
    refine List.nodup_cons.2 ⟨fun ha => ?_, ih⟩
    obtain ⟨rest, hrest, hlen⟩ := hw.of_mem ha
    rw [hrest.unique (.step h hw)] at hlen
    exact absurd hlen (Nat.not_succ_le_self _)

/-- A walk among some points is no longer than there are points. -/
lemma length_le (h : Walk next a way) {points : List α} (hp : way ⊆ points) :
    way.length ≤ points.length :=
  (h.nodup.subperm hp).length_le

end Walk

end ApiBridge
