import ApiBridge.Document.Resolve
import ApiBridge.Proofs.Value.Keys

/-!
# How a document changes while it is resolved

Resolving lets entries of maps lead to other nodes, and adds lists of parameters. `Graph.Evolves`
says what this leaves as it was: a map keeps its keys, and an entry leads to another node only
where it led to a reference or holds parameters. With this, what once is in place stays in place,
whatever nodes are shared.
-/

namespace ApiBridge

namespace Graph

/-! ### Nodes -/

lemma node_of_size_le {g : Graph} {i : NodeId} (h : g.nodes.size ≤ i) :
    g.node i = .scalar .null := by
  simp [node, Array.getD, Nat.not_lt.2 h]

lemma lt_size_of_entries? {g : Graph} {i : NodeId} {es : List (Scalar × NodeId)}
    (h : g.entries? i = some es) : i < g.nodes.size := by
  by_contra hi
  rw [entries?, node_of_size_le (Nat.not_lt.1 hi)] at h
  simp [Layer.entries?] at h

lemma node_eq_of_entries? {g : Graph} {i : NodeId} {es : List (Scalar × NodeId)}
    (h : g.entries? i = some es) : g.node i = .map es := by
  cases hn : g.node i with
  | map es' => simpa [entries?, hn, Layer.entries?] using h
  | _ => simp [entries?, hn, Layer.entries?] at h

lemma node_push (g : Graph) (n : Node) (i : NodeId) :
    (g.push n).2.node i = if i = g.nodes.size then n else g.node i := by
  simp only [node, push, Array.getD_eq_getD_getElem?, Array.getElem?_push]
  split
  · rfl
  · rfl

lemma node_put (g : Graph) {i : NodeId} (hi : i < g.nodes.size) (n : Node) (j : NodeId) :
    (g.put i n).node j = if j = i then n else g.node j := by
  simp only [node, put, Array.getD_eq_getD_getElem?, Array.getElem?_setIfInBounds]
  grind

/-- The keys of a map. -/
def keys (g : Graph) (i : NodeId) : List Scalar :=
  ((g.entries? i).getD []).map (·.1)

/-- The node is a map with a reference in it. -/
def IsReference (g : Graph) (i : NodeId) : Prop :=
  (Document.reference? g i).isSome

instance (g : Graph) (i : NodeId) : Decidable (g.IsReference i) :=
  inferInstanceAs (Decidable ((Document.reference? g i).isSome = true))

lemma isReference_iff {g : Graph} {i : NodeId} :
    g.IsReference i ↔ .text "$ref" ∈ g.keys i := by
  unfold IsReference Document.reference? field? Layer.field? keys entries?
  cases (g.node i).entries? with
  | none => simp
  | some es =>
    simp only [Option.bind_some, lookupKey_isSome_iff, Scalar.same_text_iff, Option.getD_some]
    simp

/-- The keys of each map all differ. -/
def Keyed (g : Graph) : Prop :=
  ∀ i, (g.keys i).Pairwise fun k k' => k.same k' = false

lemma Keyed.lookupKey_of_mem {g : Graph} (hk : g.Keyed) {i : NodeId}
    {es : List (Scalar × NodeId)} (hes : g.entries? i = some es) {e : Scalar × NodeId}
    (he : e ∈ es) : lookupKey e.1 es = some e.2 := by
  have keys := hk i
  rw [Graph.keys, hes, Option.getD_some] at keys
  exact ApiBridge.lookupKey_of_mem he keys

/-- The node is no reference, and there is none in it if it is a list. -/
structure Settled (g : Graph) (i : NodeId) : Prop where
  self : ¬g.IsReference i
  items : ∀ is, g.items? i = some is → ∀ j ∈ is, ¬g.IsReference j

lemma not_isReference_of_entries? {g : Graph} {i : NodeId} (h : g.entries? i = none) :
    ¬g.IsReference i := by
  simp [isReference_iff, keys, h]

/-! ### Evolution -/

/-- What becomes of an entry of a map. -/
inductive Moved (g g' : Graph) : Scalar × NodeId → Scalar × NodeId → Prop
  | kept (e : Scalar × NodeId) : Moved g g' e e
  | followed {k : Scalar} {i j : NodeId} (hi : g.IsReference i) (hj : ¬g'.IsReference j) :
      Moved g g' (k, i) (k, j)
  | listed {i j : NodeId} (hj : g'.entries? j = none) (hs : g'.Settled j) :
      Moved g g' (.text "parameters", i) (.text "parameters", j)

/-- A graph becomes another one while references are resolved. -/
structure Evolves (g g' : Graph) : Prop where
  size : g.nodes.size ≤ g'.nodes.size
  maps : ∀ i es, g.entries? i = some es →
    ∃ es', g'.entries? i = some es' ∧ List.Forall₂ (Moved g g') es es'
  others : ∀ i, i < g.nodes.size → g.entries? i = none → g'.node i = g.node i
  added : ∀ i, g.nodes.size ≤ i → g'.entries? i = none ∧ g'.Settled i

lemma Moved.key_eq {g g' : Graph} {e e' : Scalar × NodeId} (h : Moved g g' e e') :
    e.1 = e'.1 := by
  cases h with
  | kept | followed | listed => rfl

lemma settled_of_size_le {g : Graph} {i : NodeId} (h : g.nodes.size ≤ i) : g.Settled i where
  self := not_isReference_of_entries? (by simp [entries?, node_of_size_le h, Layer.entries?])
  items is his := by simp [items?, node_of_size_le h, Layer.items?] at his

lemma Evolves.refl (g : Graph) : Evolves g g where
  size := Nat.le_refl _
  maps _ es h := ⟨es, h, List.forall₂_same.2 fun e _ => .kept e⟩
  others _ _ _ := rfl
  added _ h := ⟨by simp [entries?, node_of_size_le h, Layer.entries?], settled_of_size_le h⟩

namespace Evolves

variable {g g' g'' : Graph} {i j : NodeId}

/-- What is no map stays what it is, or is new. -/
lemma entries?_eq_none (h : Evolves g g') (hi : g.entries? i = none) : g'.entries? i = none := by
  by_cases hlt : i < g.nodes.size
  · rw [entries?, h.others i hlt hi]
    exact hi
  · exact (h.added i (Nat.not_lt.1 hlt)).1

lemma isSome_entries?_eq (h : Evolves g g') (i : NodeId) :
    (g'.entries? i).isSome = (g.entries? i).isSome := by
  cases hi : g.entries? i with
  | none => rw [h.entries?_eq_none hi]
  | some es =>
    obtain ⟨es', hes', -⟩ := h.maps i es hi
    rw [hes', Option.isSome_some, Option.isSome_some]

lemma keys_eq (h : Evolves g g') (i : NodeId) : g'.keys i = g.keys i := by
  cases hi : g.entries? i with
  | none => simp [keys, hi, h.entries?_eq_none hi]
  | some es =>
    obtain ⟨es', hes', hm⟩ := h.maps i es hi
    simp only [keys, hi, hes', Option.getD_some]
    clear hi hes'
    induction hm with
    | nil => rfl
    | cons he _ ih => simp [he.key_eq, ih]

lemma isReference_iff (h : Evolves g g') : g'.IsReference i ↔ g.IsReference i := by
  rw [Graph.isReference_iff, Graph.isReference_iff, h.keys_eq]

lemma settled (h : Evolves g g') (hi : g.Settled i) : g'.Settled i where
  self := by
    rw [h.isReference_iff]
    exact hi.self
  items is his j hj := by
    by_cases hlt : i < g.nodes.size
    · have hn : g.entries? i = none := by
        cases he : g.entries? i with
        | none => rfl
        | some es =>
          obtain ⟨es', hes', -⟩ := h.maps i es he
          simp [items?, node_eq_of_entries? hes', Layer.items?] at his
      rw [items?, h.others i hlt hn] at his
      rw [h.isReference_iff]
      exact hi.items is his j hj
    · exact (h.added i (Nat.not_lt.1 hlt)).2.items is his j hj

lemma moved_trans (h : Evolves g g') (h' : Evolves g' g'') {e e' e'' : Scalar × NodeId}
    (he : Moved g g' e e') (he' : Moved g' g'' e' e'') : Moved g g'' e e'' := by
  cases he' with
  | kept =>
    cases he with
    | kept => exact .kept _
    | followed hi hj => exact .followed hi (by rwa [h'.isReference_iff])
    | listed hj hs => exact .listed (h'.entries?_eq_none hj) (h'.settled hs)
  | followed hi hj =>
    cases he with
    | kept => exact .followed (h.isReference_iff.1 hi) hj
    | followed _ hn => exact absurd hi hn
    | listed _ hs => exact absurd hi hs.self
  | listed hj hs =>
    cases he with
    | kept | followed | listed => exact .listed hj hs

lemma trans (h : Evolves g g') (h' : Evolves g' g'') : Evolves g g'' where
  size := Nat.le_trans h.size h'.size
  maps i es hi := by
    obtain ⟨es', hes', hm⟩ := h.maps i es hi
    obtain ⟨es'', hes'', hm'⟩ := h'.maps i es' hes'
    refine ⟨es'', hes'', ?_⟩
    clear hi hes' hes''
    induction hm generalizing es'' with
    | nil =>
      cases hm'
      exact .nil
    | cons he _ ih =>
      cases hm' with
      | cons he' hm' => exact .cons (h.moved_trans h' he he') (ih _ hm')
  others i hlt hi := by
    rw [h'.others i (Nat.lt_of_lt_of_le hlt h.size) (h.entries?_eq_none hi), h.others i hlt hi]
  added i hi := by
    obtain ⟨hn, hs⟩ := h.added i hi
    exact ⟨h'.entries?_eq_none hn, h'.settled hs⟩

lemma keyed (h : Evolves g g') (hk : g.Keyed) : g'.Keyed := by
  intro i
  rw [h.keys_eq]
  exact hk i

/-- An entry is found under a key before and after. -/
lemma lookup (h : Evolves g g') {es' : List (Scalar × NodeId)} (hes' : g'.entries? i = some es')
    {key : Scalar} (hj : lookupKey key es' = some j) :
    ∃ es k j₀, g.entries? i = some es ∧ lookupKey key es = some j₀ ∧ k.same key = true ∧
      Moved g g' (k, j₀) (k, j) := by
  cases hi : g.entries? i with
  | none => simp [h.entries?_eq_none hi] at hes'
  | some es =>
    obtain ⟨fs, hfs, hm⟩ := h.maps i es hi
    obtain rfl : fs = es' := Option.some.inj (hfs.symm.trans hes')
    rcases lookupKey_forall₂ key hm fun _ _ => Moved.key_eq with ⟨-, hn⟩ | hs
    · simp [hn] at hj
    · obtain ⟨k, j₀, j', hk, hj₀, hj', hmoved⟩ := hs
      obtain rfl : j' = j := Option.some.inj (hj'.symm.trans hj)
      exact ⟨es, k, j₀, rfl, hj₀, hk, hmoved⟩

lemma field? (h : Evolves g g') {name : String} (hj : g'.field? i name = some j) :
    ∃ j₀, g.field? i name = some j₀ ∧ Moved g g' (.text name, j₀) (.text name, j) := by
  obtain ⟨es', hes', hl⟩ := Option.bind_eq_some_iff.1 hj
  obtain ⟨es, k, j₀, hes, hl₀, hk, hm⟩ := h.lookup hes' hl
  obtain rfl := Scalar.same_text_iff.1 hk
  exact ⟨j₀, Option.bind_eq_some_iff.2 ⟨es, hes, hl₀⟩, hm⟩

/-- What is under a name stays there, unless it is a reference or may be a list of parameters. -/
lemma field?_eq (h : Evolves g g') {name : String} (hn : name ≠ "parameters")
    (hj : g.field? i name = some j) (hr : ¬g.IsReference j) : g'.field? i name = some j := by
  obtain ⟨es, hes, hl⟩ := Option.bind_eq_some_iff.1 hj
  obtain ⟨es', hes', hm⟩ := h.maps i es hes
  rcases lookupKey_forall₂ (.text name) hm fun _ _ => Moved.key_eq with ⟨hnone, -⟩ | hs
  · simp [hnone] at hl
  · obtain ⟨k, j₀, j', hk, hj₀, hj', hmoved⟩ := hs
    obtain rfl : j₀ = j := Option.some.inj (hj₀.symm.trans hl)
    obtain rfl := Scalar.same_text_iff.1 hk
    refine Option.bind_eq_some_iff.2 ⟨es', hes', ?_⟩
    cases hmoved with
    | kept => exact hj'
    | followed hi => exact absurd hi hr
    | listed => exact absurd rfl hn

end Evolves

/-! ### Changes -/

variable {g : Graph}

lemma node_push_of_ne (n : Node) {i : NodeId} (hi : i ≠ g.nodes.size) :
    (g.push n).2.node i = g.node i := by
  rw [node_push, if_neg hi]

lemma entries?_push (n : Node) {i : NodeId} {es : List (Scalar × NodeId)}
    (hes : g.entries? i = some es) : (g.push n).2.entries? i = some es := by
  rw [entries?, node_push_of_ne n (Nat.ne_of_lt (lt_size_of_entries? hes))]
  exact hes

lemma evolves_push {is : List NodeId} (his : ∀ i ∈ is, ¬g.IsReference i) :
    Evolves g (g.push (.list is)).2 := by
  have new : (g.push (.list is)).2.node g.nodes.size = .list is := by
    rw [node_push, if_pos rfl]
  have reference (i : NodeId) (hi : ¬g.IsReference i) :
      ¬(g.push (.list is)).2.IsReference i := by
    by_cases heq : i = g.nodes.size
    · subst heq
      exact not_isReference_of_entries? (by rw [entries?, new]; rfl)
    · rwa [IsReference, Document.reference?, Graph.field?, node_push_of_ne _ heq]
  constructor
  · simp [push]
  · exact fun i es hi => ⟨es, entries?_push _ hi, List.forall₂_same.2 fun e _ => .kept e⟩
  · exact fun i hlt _ => node_push_of_ne _ (Nat.ne_of_lt hlt)
  · intro i hi
    by_cases heq : i = g.nodes.size
    · subst heq
      refine ⟨by rw [entries?, new]; rfl, reference _ (settled_of_size_le hi).self, ?_⟩
      intro is' his' j hj
      obtain rfl : is = is' := by simpa [items?, new, Layer.items?] using his'
      exact reference j (his j hj)
    · have hn := node_of_size_le hi
      rw [← node_push_of_ne (.list is) heq] at hn
      refine ⟨by rw [entries?, hn]; rfl, reference i (settled_of_size_le hi).self, ?_⟩
      intro is' his'
      simp [items?, hn, Layer.items?] at his'

section Put

variable {owner : NodeId} {es es' : List (Scalar × NodeId)}

lemma entries?_put_self (hes : g.entries? owner = some es) :
    (g.put owner (.map es')).entries? owner = some es' := by
  rw [entries?, node_put g (lt_size_of_entries? hes), if_pos rfl]
  rfl

lemma node_put_of_ne (hes : g.entries? owner = some es) {i : NodeId} (hi : i ≠ owner) :
    (g.put owner (.map es')).node i = g.node i := by
  rw [node_put g (lt_size_of_entries? hes), if_neg hi]

lemma entries?_put_eq_none (hes : g.entries? owner = some es) {i : NodeId}
    (hi : g.entries? i = none) : (g.put owner (.map es')).entries? i = none := by
  have hne : i ≠ owner := by
    rintro rfl
    simp [hes] at hi
  rw [entries?, node_put_of_ne hes hne]
  exact hi

lemma keys_put (hes : g.entries? owner = some es) (hk : es'.map (·.1) = es.map (·.1))
    (i : NodeId) : (g.put owner (.map es')).keys i = g.keys i := by
  by_cases hi : i = owner
  · subst hi
    rw [keys, keys, entries?_put_self hes, hes, Option.getD_some, Option.getD_some, hk]
  · rw [keys, keys, entries?, entries?, node_put_of_ne hes hi]

lemma isReference_put (hes : g.entries? owner = some es) (hk : es'.map (·.1) = es.map (·.1))
    {i : NodeId} : (g.put owner (.map es')).IsReference i ↔ g.IsReference i := by
  rw [isReference_iff, isReference_iff, keys_put hes hk]

lemma settled_put (hes : g.entries? owner = some es) (hk : es'.map (·.1) = es.map (·.1))
    {i : NodeId} (hi : g.Settled i) : (g.put owner (.map es')).Settled i where
  self := by
    rw [isReference_put hes hk]
    exact hi.self
  items is his j hj := by
    rw [isReference_put hes hk]
    by_cases heq : i = owner
    · subst heq
      simp [items?, node_eq_of_entries? (entries?_put_self hes), Layer.items?] at his
    · rw [items?, node_put_of_ne hes heq] at his
      exact hi.items is his j hj

lemma entries?_setEntry (key : Scalar) (j : NodeId) (hes : g.entries? owner = some es) :
    (g.setEntry owner key j).entries? owner = some (insertKey key j es) := by
  rw [setEntry, node_eq_of_entries? hes]
  exact entries?_put_self hes

/-- An entry may be followed, or made to lead to a list of parameters. -/
lemma evolves_setEntry {i j : NodeId} {key : Scalar} (hes : g.entries? owner = some es)
    (hi : lookupKey key es = some i)
    (h : j = i ∨ g.IsReference i ∧ ¬g.IsReference j ∨
      key = .text "parameters" ∧ g.entries? j = none ∧ g.Settled j) :
    Evolves g (g.setEntry owner key j) := by
  have hins := forall₂_insertKey (b := j) hi
  have hk := map_fst_insertKey (b := j) hi
  rw [setEntry, node_eq_of_entries? hes]
  constructor
  · simp [put]
  · intro k fs hfs
    by_cases heq : k = owner
    · subst heq
      obtain rfl : es = fs := Option.some.inj (hes.symm.trans hfs)
      refine ⟨_, entries?_put_self hes, hins.imp ?_⟩
      rintro e e' (rfl | ⟨k', hk', rfl, rfl⟩)
      · exact .kept _
      · rcases h with rfl | ⟨hri, hrj⟩ | ⟨rfl, hmap, hs⟩
        · exact .kept _
        · exact .followed hri (by rwa [isReference_put hes hk])
        · obtain rfl := Scalar.same_text_iff.1 hk'
          exact .listed (entries?_put_eq_none hes hmap) (settled_put hes hk hs)
    · refine ⟨fs, ?_, List.forall₂_same.2 fun e _ => .kept e⟩
      rw [entries?, node_put_of_ne hes heq]
      exact hfs
  · intro k _ hnone
    refine node_put_of_ne hes ?_
    rintro rfl
    simp [hes] at hnone
  · intro k hk'
    refine ⟨entries?_put_eq_none hes ?_, settled_put hes hk (settled_of_size_le hk')⟩
    simp [entries?, node_of_size_le hk', Layer.entries?]

end Put

end Graph

end ApiBridge
