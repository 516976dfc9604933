import ApiBridge.Proofs.Document.Places

/-!
# Trees laid out as graphs

Laying a tree out only adds nodes that refer to nodes before them. So the document of a tree is
sound if the keys of each map in the tree all differ.
-/

namespace ApiBridge

/-! ### Keys in trees -/

mutual

/-- Do the keys of each map in a value all differ? -/
def Value.isKeyed : Value → Bool
  | .list items => areKeyed items
  | .map entries =>
    decide ((entries.map (·.1)).Pairwise fun k k' => k.same k' = false) && areEntriesKeyed entries
  | .pair a b => a.isKeyed && b.isKeyed
  | .scalar _ | .set _ | .again _ => true

def Value.areKeyed : List Value → Bool
  | [] => true
  | v :: vs => v.isKeyed && areKeyed vs

def Value.areEntriesKeyed : List (Scalar × Value) → Bool
  | [] => true
  | (_, v) :: es => v.isKeyed && areEntriesKeyed es

end

namespace Graph

variable {g : Graph}

/-! ### One more node -/

/-- Adding nodes keeps a graph sound, and leads to a larger one. -/
structure Grows (g g' : Graph) : Prop where
  sound : g'.IsSound
  size : g.nodes.size ≤ g'.nodes.size

lemma Grows.trans {g' g'' : Graph} (h : g.Grows g') (h' : g'.Grows g'') : g.Grows g'' :=
  ⟨h'.sound, Nat.le_trans h.size h'.size⟩

lemma grows_push (hg : g.IsSound) {n : Node} (hparts : ∀ i ∈ n.parts, i < g.nodes.size)
    (hkeys : ∀ es, n.entries? = some es →
      (es.map (·.1)).Pairwise fun k k' => k.same k' = false) :
    g.Grows (g.push n).2 ∧ (g.push n).1 < (g.push n).2.nodes.size := by
  have hsize : (g.push n).2.nodes.size = g.nodes.size + 1 := by simp [push]
  refine ⟨⟨⟨fun i => ?_, fun i j hj => ?_⟩, by omega⟩, by simp [push]⟩
  · rw [keys, entries?, node_push]
    split
    case isTrue =>
      cases hn : n.entries? with
      | none => exact .nil
      | some es => exact hkeys es hn
    case isFalse => exact hg.keyed i
  · rw [hsize]
    rw [node_push] at hj
    split at hj
    case isTrue => exact Nat.lt_succ_of_lt (hparts j hj)
    case isFalse => exact Nat.lt_succ_of_lt (hg.closed i j hj)

/-! ### Trees -/

mutual

lemma grows_addValue {g : Graph} (hg : g.IsSound) (v : Value) (hv : v.isKeyed) :
    g.Grows (g.addValue v).2 ∧ (g.addValue v).1 < (g.addValue v).2.nodes.size := by
  cases v with
  | scalar | set | again => exact grows_push hg (by simp [Layer.parts]) (by simp [Layer.entries?])
  | list items =>
    obtain ⟨hgrows, hitems⟩ := grows_addItems hg items hv
    obtain ⟨hpush, hlt⟩ := grows_push (n := .list (g.addItems items).1) hgrows.sound hitems
      (by simp [Layer.entries?])
    exact ⟨hgrows.trans hpush, hlt⟩
  | map entries =>
    obtain ⟨hkeys, hv⟩ := Bool.and_eq_true_iff.1 hv
    obtain ⟨hgrows, hsame, hentries⟩ := grows_addEntries hg entries hv
    obtain ⟨hpush, hlt⟩ := grows_push (n := .map (g.addEntries entries).1) hgrows.sound hentries
      (by
        intro es hes
        cases hes
        rw [hsame]
        exact of_decide_eq_true hkeys)
    exact ⟨hgrows.trans hpush, hlt⟩
  | pair a b =>
    obtain ⟨ha, hb⟩ := Bool.and_eq_true_iff.1 hv
    obtain ⟨hgrows, hlta⟩ := grows_addValue hg a ha
    obtain ⟨hgrows', hltb⟩ := grows_addValue hgrows.sound b hb
    obtain ⟨hpush, hlt⟩ := grows_push
      (n := .pair (g.addValue a).1 ((g.addValue a).2.addValue b).1) hgrows'.sound
      (by
        simp only [Layer.parts, List.forall_mem_cons]
        exact ⟨Nat.lt_of_lt_of_le hlta hgrows'.size, hltb, by simp⟩)
      (by simp [Layer.entries?])
    exact ⟨(hgrows.trans hgrows').trans hpush, hlt⟩

lemma grows_addItems {g : Graph} (hg : g.IsSound) (items : List Value) (hv : Value.areKeyed items) :
    g.Grows (g.addItems items).2 ∧
      ∀ i ∈ (g.addItems items).1, i < (g.addItems items).2.nodes.size := by
  cases items with
  | nil => exact ⟨⟨hg, Nat.le_refl _⟩, by simp [addItems]⟩
  | cons v vs =>
    obtain ⟨hv, hvs⟩ := Bool.and_eq_true_iff.1 hv
    obtain ⟨hgrows, hlt⟩ := grows_addValue hg v hv
    obtain ⟨hgrows', hitems⟩ := grows_addItems hgrows.sound vs hvs
    refine ⟨hgrows.trans hgrows', ?_⟩
    simp only [addItems, List.forall_mem_cons]
    exact ⟨Nat.lt_of_lt_of_le hlt hgrows'.size, hitems⟩

lemma grows_addEntries {g : Graph} (hg : g.IsSound) (entries : List (Scalar × Value))
    (hv : Value.areEntriesKeyed entries) :
    g.Grows (g.addEntries entries).2 ∧
      (g.addEntries entries).1.map (·.1) = entries.map (·.1) ∧
      ∀ i ∈ (Layer.map (g.addEntries entries).1).parts,
        i < (g.addEntries entries).2.nodes.size := by
  cases entries with
  | nil => exact ⟨⟨hg, Nat.le_refl _⟩, rfl, by simp [addEntries, Layer.parts]⟩
  | cons e es =>
    obtain ⟨k, v⟩ := e
    obtain ⟨hv, hes⟩ := Bool.and_eq_true_iff.1 hv
    obtain ⟨hgrows, hlt⟩ := grows_addValue hg v hv
    obtain ⟨hgrows', hkeys, hentries⟩ := grows_addEntries hgrows.sound es hes
    refine ⟨hgrows.trans hgrows', ?_, ?_⟩
    · simp only [addEntries, List.map_cons, hkeys]
    · simp only [addEntries, Layer.parts, List.map_cons, List.forall_mem_cons]
      exact ⟨Nat.lt_of_lt_of_le hlt hgrows'.size, hentries⟩

end

end Graph

/-- The document of a tree is sound. -/
theorem Document.ofValue_isSound {v : Value} (hv : v.isKeyed) : (ofValue v).IsSound := by
  have hempty : Graph.empty.IsSound := by
    refine ⟨fun i => ?_, fun i j hj => ?_⟩
    · simp [Graph.keys, Graph.entries?, Graph.node, Graph.empty, Layer.entries?]
    · simp [Graph.node, Graph.empty, Layer.parts] at hj
  obtain ⟨hgrows, hroot⟩ := Graph.grows_addValue hempty v hv
  exact ⟨hgrows.sound, hroot⟩

end ApiBridge
