import ApiBridge.Proofs.Document.Becoming
import Mathlib.Data.List.Pairwise

/-!
# Documents without sharing

In the document of a tree every node stands in one place, but for the root, which stands in none. So
what is said of documents whose nodes may be shared is simpler for such a document.
-/

namespace ApiBridge

namespace Graph

variable {g : Graph} {i j v : NodeId} {k : Scalar} {pos pos' : Option Scalar} {roots : List NodeId}

/-! ### Forests -/

/-- All that stands in nodes, node by node. -/
def parts (g : Graph) : List NodeId :=
  (List.range g.nodes.size).flatMap fun i => (g.node i).parts

/-- Each node stands in one place, or is one of some roots. -/
def IsForest (g : Graph) (roots : List NodeId) : Prop :=
  (g.parts ++ roots).Perm (List.range g.nodes.size)

lemma parts_push (n : Node) : (g.push n).2.parts = g.parts ++ n.parts := by
  have hsize : (g.push n).2.nodes.size = g.nodes.size + 1 := by simp [push]
  have old : ∀ i ∈ List.range g.nodes.size, ((g.push n).2.node i).parts = (g.node i).parts := by
    intro i hi
    rw [node_push_of_ne n (Nat.ne_of_lt (List.mem_range.1 hi))]
  rw [parts, hsize, List.range_succ, List.flatMap_append, List.flatMap_congr old, ← parts]
  simp [node_push]

lemma mem_parts_iff : v ∈ g.parts ↔ ∃ i < g.nodes.size, v ∈ (g.node i).parts := by
  simp [parts]

lemma Part.pos_unique (hnodup : (g.node i).parts.Nodup) (h : g.Part i pos v)
    (h' : g.Part i pos' v) : pos = pos' := by
  cases pos with
  | none =>
    cases pos' with
    | none => rfl
    | some l =>
      obtain ⟨es, hes, -⟩ := h'
      rw [h.1] at hes
      cases hes
  | some k =>
    obtain ⟨es, hes, hmem⟩ := h
    cases pos' with
    | none =>
      rw [h'.1] at hes
      cases hes
    | some l =>
      obtain ⟨es', hes', hmem'⟩ := h'
      obtain rfl := Option.some.inj (hes.symm.trans hes')
      rw [node_eq_of_entries? hes, Layer.parts] at hnodup
      cases List.inj_on_of_nodup_map hnodup hmem hmem' rfl
      rfl

namespace IsForest

/-- A new node takes roots as its parts, and is a root itself. -/
lemma push {n : Node} (h : g.IsForest (n.parts ++ roots)) :
    (g.push n).2.IsForest ((g.push n).1 :: roots) := by
  have hsize : (g.push n).2.nodes.size = g.nodes.size + 1 := by simp [Graph.push]
  rw [IsForest, parts_push, hsize, List.range_succ]
  have hroot : (g.push n).1 = g.nodes.size := rfl
  rw [hroot]
  have hrest : (n.parts ++ g.nodes.size :: roots).Perm (n.parts ++ roots ++ [g.nodes.size]) := by
    rw [List.append_assoc]
    exact (List.perm_append_singleton _ _).symm.append_left _
  rw [List.append_assoc]
  refine (hrest.append_left _).trans ?_
  rw [← List.append_assoc]
  exact List.Perm.append_right _ h

mutual

lemma addValue {g : Graph} {roots : List NodeId} (h : g.IsForest roots) (v : Value) :
    (g.addValue v).2.IsForest ((g.addValue v).1 :: roots) := by
  cases v with
  | scalar | set | again => exact push h
  | list items => exact push (addItems h items)
  | map entries => exact push (addEntries h entries)
  | pair a b =>
    refine push (n := .pair (g.addValue a).1 ((g.addValue a).2.addValue b).1) ?_
    exact ((List.Perm.swap _ _ _).append_left _).trans (addValue (addValue h a) b)

lemma addItems {g : Graph} {roots : List NodeId} (h : g.IsForest roots) (items : List Value) :
    (g.addItems items).2.IsForest ((g.addItems items).1 ++ roots) := by
  cases items with
  | nil => exact h
  | cons v vs =>
    exact (List.perm_middle.symm.append_left _).trans (addItems (addValue h v) vs)

lemma addEntries {g : Graph} {roots : List NodeId} (h : g.IsForest roots)
    (entries : List (Scalar × Value)) :
    (g.addEntries entries).2.IsForest ((g.addEntries entries).1.map (·.2) ++ roots) := by
  cases entries with
  | nil => exact h
  | cons e es =>
    obtain ⟨k, v⟩ := e
    exact (List.perm_middle.symm.append_left _).trans (addEntries (addValue h v) es)

end

/-! ### Places of nodes -/

lemma nodup (h : g.IsForest roots) : (g.parts ++ roots).Nodup :=
  h.nodup_iff.2 List.nodup_range

/-- Roots stand nowhere. -/
lemma not_part (h : g.IsForest roots) (hv : v ∈ roots) : ¬g.Part i pos v := by
  intro hpart
  refine List.disjoint_of_nodup_append h.nodup ?_ hv
  exact mem_parts_iff.2 ⟨i, hpart.lt_size, hpart.mem_parts⟩

/-- What stands in a node stands in one place. -/
theorem part_unique (h : g.IsForest roots) (hv : g.Part i pos v) (hv' : g.Part j pos' v) :
    i = j ∧ pos = pos' := by
  obtain ⟨hnodup, hdisjoint⟩ := List.nodup_flatMap.1 h.nodup.of_append_left
  have hi : i ∈ List.range g.nodes.size := List.mem_range.2 hv.lt_size
  have hj : j ∈ List.range g.nodes.size := List.mem_range.2 hv'.lt_size
  have : Std.Symm (Function.onFun List.Disjoint fun i => (g.node i).parts) :=
    ⟨fun _ _ h _ hv hv' => h hv' hv⟩
  obtain rfl : i = j := by
    by_contra hne
    exact hdisjoint.forall hi hj hne hv.mem_parts hv'.mem_parts
  exact ⟨rfl, hv.pos_unique (hnodup i hi) hv'⟩

end IsForest

end Graph

namespace Document

open ApiBridge.Graph

variable {d : Document} {paths i v : NodeId} {k : Scalar} {pos : Option Scalar}

/-! ### Trees -/

/-- Every node but the root stands in one place. -/
def IsTree (d : Document) : Prop :=
  d.graph.IsForest [d.root]

/-- The document of a tree is one. -/
theorem ofValue_isTree (v : Value) : (ofValue v).IsTree := by
  have hempty : Graph.empty.IsForest [] := by
    simp [IsForest, Graph.parts, Graph.empty]
  exact hempty.addValue v

namespace IsTree

lemma not_part_root (h : d.IsTree) : ¬d.graph.Part i pos d.root :=
  h.not_part (by simp)

lemma lone (h : d.IsTree) (hv : d.graph.Entry i k v) : d.graph.Lone v i k := by
  intro j pos hpart
  have hv : d.graph.Part i (some k) v := hv
  exact h.part_unique hpart hv

/-- Responses are neither path items nor operations. -/
lemma isOrdered (h : d.IsTree) (hk : d.graph.Keyed) (hp : d.field? "paths" = some paths)
    (hinline : ∀ i, d.IsPathItem paths i → ¬d.graph.IsReference i) : d.IsOrdered paths where
  inline := hinline
  apart r hr := by
    obtain ⟨o, ⟨-, i, m, ⟨key, hi⟩, ho⟩, hr⟩ := hr
    have hr := hk.field?_iff.1 hr
    have ho := hk.field?_iff.1 ho
    have hi : d.graph.Part paths (some key) i := hi
    have hpaths : d.graph.Entry d.root (.text "paths") paths := hk.field?_iff.1 hp
    constructor
    · rintro ⟨key', hr'⟩
      obtain ⟨rfl, -⟩ := h.lone hr paths (some key') hr'
      obtain ⟨rfl, -⟩ := h.lone hpaths i (some (.text m.key)) ho
      exact h.not_part_root hi
    · rintro ⟨-, i', m', -, hr'⟩
      obtain ⟨-, hkey⟩ := h.lone hr i' (some (.text m'.key)) (hk.field?_iff.1 hr')
      cases m' with
      | _ => exact absurd (Scalar.text.inj (Option.some.inj hkey)) (by decide)

end IsTree

end Document

end ApiBridge
