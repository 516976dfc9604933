import ApiBridge.Proofs.Document.Places

/-!
# Trees of graphs

The tree below a node does not depend on how much fuel there is, once the fuel is more than the
number of nodes. Nodes of two graphs that go together, layer by layer, have the same tree, if nodes
that are met again in one graph are met again in the other.
-/

namespace ApiBridge

/-- What is related in two lists is in them. -/
lemma forall₂_mem {α β : Type} {R : α → β → Prop} {xs : List α} {ys : List β}
    (h : List.Forall₂ R xs ys) : List.Forall₂ (fun a b => a ∈ xs ∧ b ∈ ys ∧ R a b) xs ys := by
  induction h with
  | nil => exact .nil
  | cons hab _ ih =>
    refine .cons ⟨List.mem_cons_self, List.mem_cons_self, hab⟩ (ih.imp fun a b h => ?_)
    exact ⟨List.mem_cons_of_mem _ h.1, List.mem_cons_of_mem _ h.2.1, h.2.2⟩

/-- Two layers are the same but for their parts, which are related. -/
inductive Layer.Alike {α β : Type} (R : α → β → Prop) : Layer α → Layer β → Prop
  | scalar (s : Scalar) : Alike R (.scalar s) (.scalar s)
  | list {xs : List α} {ys : List β} (h : List.Forall₂ R xs ys) : Alike R (.list xs) (.list ys)
  | map {es : List (Scalar × α)} {fs : List (Scalar × β)}
      (h : List.Forall₂ (fun e f => e.1 = f.1 ∧ R e.2 f.2) es fs) : Alike R (.map es) (.map fs)
  | set (members : List Scalar) : Alike R (.set members) (.set members)
  | pair {a b : α} {a' b' : β} (ha : R a a') (hb : R b b') : Alike R (.pair a b) (.pair a' b')

lemma Layer.Alike.refl {R : NodeId → NodeId → Prop} {n : Node} (h : ∀ i ∈ n.parts, R i i) :
    n.Alike R n := by
  cases n with
  | scalar => exact .scalar _
  | list is => exact .list (List.forall₂_same.2 h)
  | map es =>
    exact .map (List.forall₂_same.2 fun e he => ⟨rfl, h e.2 (List.mem_map_of_mem he)⟩)
  | set => exact .set _
  | pair a b => exact .pair (h a (by simp [parts])) (h b (by simp [parts]))

namespace Layer.Alike

variable {α β : Type} {R : α → β → Prop} {l : Layer α} {l' : Layer β}

lemma mono {S : α → β → Prop} (h : l.Alike R l')
    (hi : ∀ a ∈ l.parts, ∀ b ∈ l'.parts, R a b → S a b) : l.Alike S l' := by
  cases h with
  | scalar s => exact .scalar s
  | list hl => exact .list ((forall₂_mem hl).imp fun a b hab => hi a hab.1 b hab.2.1 hab.2.2)
  | map hl =>
    refine .map ((forall₂_mem hl).imp fun e f hef => ⟨hef.2.2.1, ?_⟩)
    exact hi e.2 (List.mem_map_of_mem hef.1) f.2 (List.mem_map_of_mem hef.2.1) hef.2.2.2
  | set m => exact .set m
  | pair ha hb =>
    exact .pair (hi _ (by simp [parts]) _ (by simp [parts]) ha)
      (hi _ (by simp [parts]) _ (by simp [parts]) hb)

lemma entries? (h : l.Alike R l') :
    Option.Rel (List.Forall₂ fun e f => e.1 = f.1 ∧ R e.2 f.2) l.entries? l'.entries? := by
  cases h with
  | map hl => exact .some hl
  | _ => exact .none

lemma items? (h : l.Alike R l') : Option.Rel (List.Forall₂ R) l.items? l'.items? := by
  cases h with
  | list hl => exact .some hl
  | _ => exact .none

lemma text?_eq (h : l.Alike R l') : l'.text? = l.text? := by
  cases h with
  | scalar s =>
    cases s with
    | _ => rfl
  | _ => rfl

lemma lookupKey (h : l.Alike R l') (key : Scalar) :
    Option.Rel R (l.entries?.bind (lookupKey key)) (l'.entries?.bind (lookupKey key)) := by
  have hes := h.entries?
  generalize l.entries? = es, l'.entries? = fs at hes
  cases hes with
  | none => exact .none
  | some hl =>
    rcases lookupKey_forall₂ key hl fun _ _ hef => hef.1 with ⟨hn, hn'⟩ | ⟨k, a, b, -, ha, hb, hab⟩
    · rw [Option.bind_some, Option.bind_some, hn, hn']
      exact .none
    · rw [Option.bind_some, Option.bind_some, ha, hb]
      exact .some hab.2

lemma field? (h : l.Alike R l') (name : String) :
    Option.Rel R (l.field? name) (l'.field? name) :=
  h.lookupKey (.text name)

end Layer.Alike

/-- Entries with the same keys are related one by one if those under each key are. -/
lemma forall₂_of_keys {R : NodeId → NodeId → Prop} {es fs : List (Scalar × NodeId)}
    (hkeys : es.map (·.1) = fs.map (·.1))
    (h : ∀ k i j, (k, i) ∈ es → (k, j) ∈ fs → R i j) :
    List.Forall₂ (fun e f => e.1 = f.1 ∧ R e.2 f.2) es fs := by
  induction es generalizing fs with
  | nil =>
    rw [List.map_nil, eq_comm, List.map_eq_nil_iff] at hkeys
    subst hkeys
    exact .nil
  | cons e es ih =>
    cases fs with
    | nil => simp at hkeys
    | cons f fs =>
      obtain ⟨k, i⟩ := e
      obtain ⟨k', j⟩ := f
      simp only [List.map_cons, List.cons.injEq] at hkeys
      obtain ⟨rfl, hkeys⟩ := hkeys
      refine .cons ⟨rfl, h k i j (by simp) (by simp)⟩ (ih hkeys fun l i' j' hi hj => ?_)
      exact h l i' j' (List.mem_cons_of_mem _ hi) (List.mem_cons_of_mem _ hj)

namespace Graph

variable {g g' : Graph} {i j : NodeId} {way : List NodeId}

/-! ### Fuel -/

lemma lt_size_of_node {n : Node} (h : g.node i = n) (hn : n ≠ .scalar .null) :
    i < g.nodes.size := by
  by_contra hi
  rw [node_of_size_le (Nat.not_lt.1 hi)] at h
  exact hn h.symm

lemma length_le_size (hn : way.Nodup) (hlt : ∀ j ∈ way, j < g.nodes.size) :
    way.length ≤ g.nodes.size := by
  have hsub : way ⊆ List.range g.nodes.size := fun j hj => List.mem_range.2 (hlt j hj)
  simpa using (hn.subperm hsub).length_le

/-- With each node on the way the fuel needed is less. -/
lemma unfoldFrom_succ {fuel : Nat} (hn : way.Nodup) (hlt : ∀ j ∈ way, j < g.nodes.size)
    (hf : g.nodes.size < fuel + way.length) :
    g.unfoldFrom (fuel + 1) way i = g.unfoldFrom fuel way i := by
  induction fuel generalizing way i with
  | zero =>
    have := length_le_size hn hlt
    omega
  | succ fuel ih =>
    have below (hi : i ∉ way) (hsize : i < g.nodes.size) :
        g.unfoldFrom (fuel + 1) (i :: way) = g.unfoldFrom fuel (i :: way) := by
      refine funext fun j => ih (List.nodup_cons.2 ⟨hi, hn⟩) ?_ ?_
      · simpa using ⟨hsize, hlt⟩
      · rw [List.length_cons]
        omega
    rw [unfoldFrom, unfoldFrom]
    by_cases hi : way.contains i
    · cases g.node i with
      | _ => simp only [hi, if_true]
    · have hmem : i ∉ way := by simpa using hi
      cases hnode : g.node i with
      | scalar | set => rfl
      | list | map | pair =>
        have hsize := lt_size_of_node hnode (by simp)
        simp only [below hmem hsize]

/-- More fuel makes no difference. -/
lemma unfoldFrom_eq_unfold {fuel : Nat} (hf : g.nodes.size < fuel) :
    g.unfoldFrom fuel [] i = g.unfold i := by
  have extra (n : Nat) :
      g.unfoldFrom (g.nodes.size + 1 + n) [] i = g.unfoldFrom (g.nodes.size + 1) [] i := by
    induction n with
    | zero => rfl
    | succ n ih =>
      rw [← ih, ← Nat.add_assoc]
      exact unfoldFrom_succ .nil (by simp) (by simp; omega)
  obtain ⟨n, rfl⟩ := Nat.exists_eq_add_of_le (Nat.succ_le_of_lt hf)
  rw [unfold, Nat.succ_eq_add_one, extra n, ← extra 1]

/-! ### Nodes that go together -/

/-- Nodes of two graphs go together, one to one, if their layers do. -/
structure Twins (g g' : Graph) (R : NodeId → NodeId → Prop) : Prop where
  same : ∀ i i' j j', R i i' → R j j' → (i = j ↔ i' = j')
  node : ∀ i i', R i i' → (g.node i).Alike R (g'.node i')

namespace Twins

variable {R : NodeId → NodeId → Prop} {i' : NodeId} {way' : List NodeId}

lemma contains_eq (h : Twins g g' R) (hi : R i i') (hway : List.Forall₂ R way way') :
    way'.contains i' = way.contains i := by
  induction hway with
  | nil => rfl
  | @cons j j' way way' hj _ ih =>
    rw [List.contains_cons, List.contains_cons, ih]
    congr 1
    rw [Bool.eq_iff_iff, beq_iff_eq, beq_iff_eq]
    exact (h.same i i' j j' hi hj).symm

lemma unfoldFrom_eq (h : Twins g g' R) {fuel : Nat} (hi : R i i')
    (hway : List.Forall₂ R way way') :
    g.unfoldFrom fuel way i = g'.unfoldFrom fuel way' i' := by
  induction fuel generalizing i i' way way' with
  | zero => rfl
  | succ fuel ih =>
    have below {j j' : NodeId} (hj : R j j') :
        g.unfoldFrom fuel (i :: way) j = g'.unfoldFrom fuel (i' :: way') j' :=
      ih hj (.cons hi hway)
    have hnode := h.node i i' hi
    rw [unfoldFrom, unfoldFrom, h.contains_eq hi hway]
    generalize g.node i = n, g'.node i' = n' at hnode
    cases hnode with
    | scalar | set => rfl
    | list hl =>
      have items := map_eq_of_forall₂ (hl.imp fun _ _ hj => (below hj).symm)
      simp only [items]
    | map hl =>
      have entry (e f : Scalar × NodeId) (h : e.1 = f.1 ∧ R e.2 f.2) :
          (f.1, g'.unfoldFrom fuel (i' :: way') f.2) =
            (e.1, g.unfoldFrom fuel (i :: way) e.2) := by
        rw [h.1, below h.2]
      have entries := map_eq_of_forall₂ (hl.imp entry)
      simp only [entries]
    | pair ha hb => simp only [below ha, below hb]

/-- Nodes that go together have the same tree. -/
theorem unfold_eq (h : Twins g g' R) (hi : R i i') : g.unfold i = g'.unfold i' := by
  have hf : g.nodes.size < max g.nodes.size g'.nodes.size + 1 := by omega
  have hf' : g'.nodes.size < max g.nodes.size g'.nodes.size + 1 := by omega
  rw [← unfoldFrom_eq_unfold hf, ← unfoldFrom_eq_unfold hf', h.unfoldFrom_eq hi .nil]

end Twins

end Graph

end ApiBridge
