import ApiBridge.Proofs.Document.Detour

/-!
# Graphs that are enlarged

A graph is enlarged by new nodes, and by new entries in maps that may get some. What was there
stays: entries lead where they led, and what is no map is not changed at all.
-/

namespace ApiBridge

namespace Graph

variable {g g' g'' : Graph} {i j u v w : NodeId} {k : Scalar} {pos : Option Scalar} {name : String}
  {es : List (Scalar × NodeId)} {A : NodeId → Scalar → Prop}

/-- A graph is enlarged to a sound one. Maps get entries only under keys that may be added. -/
structure Enlarges (A : NodeId → Scalar → Prop) (g g' : Graph) : Prop where
  sound : g'.IsSound
  size : g.nodes.size ≤ g'.nodes.size
  others : ∀ i, i < g.nodes.size → g.entries? i = none → g'.node i = g.node i
  maps : ∀ i es, g.entries? i = some es →
    ∃ added, g'.entries? i = some (es ++ added) ∧ ∀ e ∈ added, A i e.1

namespace Enlarges

lemma refl (hg : g.IsSound) : Enlarges A g g where
  sound := hg
  size := Nat.le_refl _
  others _ _ _ := rfl
  maps _ es hes := ⟨[], by rw [hes, List.append_nil], by simp⟩

lemma trans (h : Enlarges A g g') (h' : Enlarges A g' g'') : Enlarges A g g'' where
  sound := h'.sound
  size := Nat.le_trans h.size h'.size
  others i hi hn := by
    have hnode := h.others i hi hn
    have hn' : g'.entries? i = none := by rwa [entries?, hnode]
    rw [h'.others i (Nat.lt_of_lt_of_le hi h.size) hn', hnode]
  maps i es hes := by
    obtain ⟨added, hes', hA⟩ := h.maps i es hes
    obtain ⟨added', hes'', hA'⟩ := h'.maps i _ hes'
    refine ⟨added ++ added', by rw [hes'', List.append_assoc], fun e he => ?_⟩
    rcases List.mem_append.1 he with he | he
    · exact hA e he
    · exact hA' e he

lemma entry (h : Enlarges A g g') (hv : g.Entry i k v) : g'.Entry i k v := by
  obtain ⟨es, hes, hmem⟩ := hv
  obtain ⟨added, hes', -⟩ := h.maps i es hes
  exact ⟨_, hes', List.mem_append_left _ hmem⟩

/-- An entry was there before, or may be added. -/
lemma entry_cases (h : Enlarges A g g') (hi : i < g.nodes.size) (hv : g'.Entry i k v) :
    g.Entry i k v ∨ A i k := by
  obtain ⟨es', hes', hmem⟩ := hv
  cases hes : g.entries? i with
  | none =>
    rw [entries?, h.others i hi hes, ← entries?, hes] at hes'
    cases hes'
  | some es =>
    obtain ⟨added, hadded, hA⟩ := h.maps i es hes
    rw [hadded, Option.some.injEq] at hes'
    rw [← hes'] at hmem
    rcases List.mem_append.1 hmem with hmem | hmem
    · exact .inl ⟨es, hes, hmem⟩
    · exact .inr (hA _ hmem)

/-- Where nothing may be added, a node stays what it is. -/
lemma node_eq (h : Enlarges A g g') (hi : i < g.nodes.size) (hA : ∀ k, ¬A i k) :
    g'.node i = g.node i := by
  cases hes : g.entries? i with
  | none => exact h.others i hi hes
  | some es =>
    obtain ⟨added, hes', hadded⟩ := h.maps i es hes
    have hnone : added = [] := List.eq_nil_iff_forall_not_mem.2 fun e he => hA e.1 (hadded e he)
    rw [node_eq_of_entries? hes, node_eq_of_entries? hes', hnone, List.append_nil]

lemma field?_of_some (h : Enlarges A g g') (hg : g.IsSound) (hv : g.field? i name = some v) :
    g'.field? i name = some v :=
  h.sound.keyed.field?_iff.2 (h.entry (hg.keyed.field?_iff.1 hv))

lemma field?_eq (h : Enlarges A g g') (hg : g.IsSound) (hi : i < g.nodes.size)
    (hA : ¬A i (.text name)) : g'.field? i name = g.field? i name := by
  refine Option.ext fun v => ?_
  rw [h.sound.keyed.field?_iff, hg.keyed.field?_iff]
  exact ⟨fun hv => (h.entry_cases hi hv).resolve_right hA, h.entry⟩

/-! ### New nodes and entries -/

/-- A new node, whose parts are there. -/
lemma push (hg : g.IsSound) {n : Node} (hparts : ∀ i ∈ n.parts, i < g.nodes.size)
    (hkeys : ∀ es, n.entries? = some es →
      (es.map (·.1)).Pairwise fun k k' => k.same k' = false) : Enlarges A g (g.push n).2 where
  sound := (grows_push hg hparts hkeys).1.sound
  size := (grows_push hg hparts hkeys).1.size
  others i hi _ := node_push_of_ne n (Nat.ne_of_lt hi)
  maps _ es hes := ⟨[], by rw [entries?_push n hes, List.append_nil], by simp⟩

/-- A new entry. -/
lemma setEntry (hg : g.IsSound) (hA : A i k) (hes : g.entries? i = some es)
    (hfresh : ∀ e ∈ es, e.1.same k = false) (hu : u < g.nodes.size) :
    Enlarges A g (g.setEntry i k u) := by
  have hnode (j : NodeId) : (g.setEntry i k u).node j =
      if j = i then .map (es ++ [(k, u)]) else g.node j := by
    rw [node_setEntry hes, insertKey_of_forall_ne u hfresh]
  have hentries (j : NodeId) : (g.setEntry i k u).entries? j =
      if j = i then some (es ++ [(k, u)]) else g.entries? j := by
    rw [entries?, hnode]
    split
    · rfl
    · rfl
  refine ⟨⟨fun j => ?_, fun j v hv => ?_⟩, Nat.le_of_eq size_setEntry.symm, fun j _ hj => ?_,
    fun j fs hj => ?_⟩
  · rw [Graph.keys, hentries]
    split
    case isTrue =>
      have hkeys := hg.keyed i
      rw [Graph.keys, hes, Option.getD_some] at hkeys
      rw [Option.getD_some, List.map_append, List.pairwise_append]
      refine ⟨hkeys, List.pairwise_singleton _ _, fun l hl l' hl' => ?_⟩
      obtain ⟨e, he, rfl⟩ := List.mem_map.1 hl
      rw [List.map_singleton, List.mem_singleton] at hl'
      rw [hl']
      exact hfresh e he
    case isFalse => exact hg.keyed j
  · rw [size_setEntry]
    rw [hnode] at hv
    split at hv
    case isTrue =>
      rw [Layer.parts, List.map_append, List.mem_append, List.map_singleton,
        List.mem_singleton] at hv
      rcases hv with hv | rfl
      · refine hg.closed i v ?_
        rwa [node_eq_of_entries? hes]
      · exact hu
    case isFalse => exact hg.closed j v hv
  · rw [hnode, if_neg]
    rintro rfl
    rw [hes] at hj
    cases hj
  · by_cases heq : j = i
    · subst heq
      obtain rfl := Option.some.inj (hes.symm.trans hj)
      refine ⟨[(k, u)], by rw [hentries, if_pos rfl], fun e he => ?_⟩
      rw [List.mem_singleton.1 he]
      exact hA
    · exact ⟨[], by rw [hentries, if_neg heq, hj, List.append_nil], by simp⟩

end Enlarges

/-! ### Maps that are added where they are absent -/

/-- The map under a name of a map; it is added if it is absent. -/
def openMap (g : Graph) (i : NodeId) (name : String) : NodeId × Graph :=
  match g.field? i name with
  | some j => (j, g)
  | none => (g.nodes.size, (g.push (.map [])).2.setEntry i (.text name) g.nodes.size)

lemma openMap_of_some (h : g.field? i name = some j) : g.openMap i name = (j, g) := by
  rw [openMap, h]

lemma openMap_of_none (h : g.field? i name = none) : g.openMap i name =
    (g.nodes.size, (g.push (.map [])).2.setEntry i (.text name) g.nodes.size) := by
  rw [openMap, h]

lemma fresh_of_field? (h : g.field? i name = none) (hes : g.entries? i = some es) :
    ∀ e ∈ es, e.1.same (.text name) = false := by
  rw [field?, Layer.field?, ← entries?, hes, Option.bind_some] at h
  intro e he
  rw [Bool.eq_false_iff]
  intro hsame
  have hsome := lookupKey_isSome_iff.2 ⟨e.1, List.mem_map_of_mem he, hsame⟩
  rw [h] at hsome
  cases hsome

/-- A map that was added has no entries yet. -/
lemma entries?_openMap_of_none (h : g.field? i name = none) (hes : g.entries? i = some es) :
    (g.openMap i name).2.entries? (g.openMap i name).1 = some [] := by
  have hne : g.nodes.size ≠ i := (Nat.ne_of_lt (lt_size_of_entries? hes)).symm
  rw [openMap_of_none h, entries?, node_setEntry (entries?_push _ hes), if_neg hne, node_push,
    if_pos rfl]
  rfl

lemma enlarges_openMap (hg : g.IsSound) (hA : A i (.text name)) (hi : (g.entries? i).isSome) :
    Enlarges A g (g.openMap i name).2 := by
  cases hf : g.field? i name with
  | some j =>
    rw [openMap_of_some hf]
    exact .refl hg
  | none =>
    obtain ⟨es, hes⟩ := Option.isSome_iff_exists.1 hi
    have hpush : Enlarges A g (g.push (.map [])).2 :=
      .push hg (by simp [Layer.parts]) (by simp [Layer.entries?])
    rw [openMap_of_none hf]
    exact hpush.trans (.setEntry hpush.sound hA (entries?_push _ hes) (fresh_of_field? hf hes)
      (by simp [Graph.push]))

lemma field?_openMap (hg : g.IsSound) (hi : (g.entries? i).isSome) :
    (g.openMap i name).2.field? i name = some (g.openMap i name).1 := by
  cases hf : g.field? i name with
  | some j => rw [openMap_of_some hf, hf]
  | none =>
    obtain ⟨es, hes⟩ := Option.isSome_iff_exists.1 hi
    have hsound : (g.openMap i name).2.IsSound :=
      (enlarges_openMap (A := fun _ _ => True) hg trivial hi).sound
    rw [hsound.keyed.field?_iff, openMap_of_none hf]
    refine ⟨_, entries?_setEntry _ _ (entries?_push _ hes), ?_⟩
    rw [insertKey_of_forall_ne _ (fresh_of_field? hf hes)]
    simp

lemma isSome_entries?_openMap (hi : (g.entries? i).isSome)
    (hmap : ∀ j, g.field? i name = some j → (g.entries? j).isSome) :
    ((g.openMap i name).2.entries? (g.openMap i name).1).isSome := by
  cases hf : g.field? i name with
  | some j =>
    rw [openMap_of_some hf]
    exact hmap j hf
  | none =>
    obtain ⟨es, hes⟩ := Option.isSome_iff_exists.1 hi
    rw [entries?_openMap_of_none hf hes, Option.isSome_some]

lemma ne_openMap (hi : (g.entries? i).isSome) (hne : ∀ j, g.field? i name = some j → i ≠ j) :
    i ≠ (g.openMap i name).1 := by
  cases hf : g.field? i name with
  | some j =>
    rw [openMap_of_some hf]
    exact hne j hf
  | none =>
    obtain ⟨es, hes⟩ := Option.isSome_iff_exists.1 hi
    rw [openMap_of_none hf]
    exact Nat.ne_of_lt (lt_size_of_entries? hes)

/-- The keys of a map are those that it had. -/
lemma mem_keys_openMap (hi : (g.entries? i).isSome)
    (h : k ∈ (g.openMap i name).2.keys (g.openMap i name).1) :
    ∃ j, g.field? i name = some j ∧ k ∈ g.keys j := by
  cases hf : g.field? i name with
  | some j =>
    rw [openMap_of_some hf] at h
    exact ⟨j, rfl, h⟩
  | none =>
    obtain ⟨es, hes⟩ := Option.isSome_iff_exists.1 hi
    rw [keys, entries?_openMap_of_none hf hes] at h
    cases h

/-! ### References that are added -/

/-- Add a reference to a target. -/
def addReference (g : Graph) (target : String) : NodeId × Graph :=
  let (text, g) := g.push (.scalar (.text target))
  g.push (.map [(.text "$ref", text)])

variable {target : String}

lemma addReference_eq : g.addReference target = (g.nodes.size + 1,
    ((g.push (.scalar (.text target))).2.push (.map [(.text "$ref", g.nodes.size)])).2) := by
  simp [addReference, Graph.push]

lemma size_addReference : (g.addReference target).2.nodes.size = g.nodes.size + 2 := by
  simp [addReference, Graph.push]

lemma enlarges_addReference (hg : g.IsSound) : Enlarges A g (g.addReference target).2 := by
  have htext : Enlarges A g (g.push (.scalar (.text target))).2 :=
    .push hg (by simp [Layer.parts]) (by simp [Layer.entries?])
  rw [addReference_eq]
  exact htext.trans (.push htext.sound (by simp [Layer.parts, Graph.push]) (by simp [Layer.entries?]))

lemma node_addReference_text :
    (g.addReference target).2.node g.nodes.size = .scalar (.text target) := by
  rw [addReference_eq, node_push, if_neg (by simp [Graph.push]), node_push, if_pos rfl]

lemma entry_addReference :
    (g.addReference target).2.Entry (g.addReference target).1 (.text "$ref") g.nodes.size := by
  refine ⟨[(.text "$ref", g.nodes.size)], ?_, by simp⟩
  rw [addReference_eq, entries?, node_push, if_pos (by simp [Graph.push])]
  rfl

/-- Nothing leads to a reference that was just added. -/
lemma not_part_addReference (hg : g.IsSound) :
    ¬(g.addReference target).2.Part i pos (g.addReference target).1 := by
  intro h
  have hmem := h.mem_parts
  have htext : (g.push (.scalar (.text target))).2.nodes.size = g.nodes.size + 1 := by
    simp [Graph.push]
  have hsound : (g.push (.scalar (.text target))).2.IsSound :=
    (grows_push hg (by simp [Layer.parts]) (by simp [Layer.entries?])).1.sound
  rw [addReference_eq, node_push] at hmem
  split at hmem
  case isTrue => simp [Layer.parts] at hmem
  case isFalse =>
    have hlt := hsound.closed _ _ hmem
    rw [htext] at hlt
    exact Nat.lt_irrefl _ hlt

end Graph

end ApiBridge
