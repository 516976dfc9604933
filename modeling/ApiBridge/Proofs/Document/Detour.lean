import ApiBridge.Proofs.Document.Becoming
import ApiBridge.Proofs.Document.Trees

/-!
# Documents with a detour

Two documents are the same, but where a node stands in the first one, a reference to it stands in
the second. When both are resolved side by side they go together at each step: a reference that
leads somewhere in the first leads to the same in the second, where it may take the detour.
-/

namespace ApiBridge

section Keys

variable {α β : Type} {R : α → β → Prop} {es : List (Scalar × α)} {fs : List (Scalar × β)}

/-- Entries that are related stay so when related values are set under a key. -/
lemma forall₂_insertKey_both (h : List.Forall₂ (fun e f => e.1 = f.1 ∧ R e.2 f.2) es fs)
    (key : Scalar) {a : α} {b : β} (hab : R a b) :
    List.Forall₂ (fun e f => e.1 = f.1 ∧ R e.2 f.2) (insertKey key a es) (insertKey key b fs) := by
  induction h with
  | nil => exact .cons ⟨rfl, hab⟩ .nil
  | @cons e f es fs hef hrest ih =>
    rw [insertKey, insertKey, hef.1]
    split
    case isTrue => exact .cons ⟨rfl, hab⟩ hrest
    case isFalse => exact .cons hef ih

end Keys

namespace Graph

variable {g g' : Graph} {i j o u : NodeId} {k : Scalar} {es : List (Scalar × NodeId)}

lemma step_congr (h : g'.node i = g.node i) (target segment : String) :
    Pointer.step g' target i segment = Pointer.step g target i segment := by
  rw [Pointer.step, h, Pointer.step]

lemma node_setEntry (hes : g.entries? i = some es) (j : NodeId) :
    (g.setEntry i k u).node j = if j = i then .map (insertKey k u es) else g.node j := by
  rw [setEntry, node_eq_of_entries? hes]
  exact node_put g (lt_size_of_entries? hes) _ j

lemma node_withParameters {js : List NodeId} (hes : g.entries? o = some es) (j : NodeId) :
    (g.withParameters o js).node j =
      if j = o then .map (insertKey (.text "parameters") g.nodes.size es)
      else if j = g.nodes.size then .list js else g.node j := by
  rw [withParameters, node_setEntry (entries?_push (.list js) hes), node_push]

/-- A reference that stands in a map stood there before. -/
lemma Evolves.entry_of_isReference (h : Evolves g g') (hv : g'.Entry i k u)
    (hr : g'.IsReference u) : g.Entry i k u := by
  obtain ⟨es', hes', hmem⟩ := hv
  cases hes : g.entries? i with
  | none => simp [h.entries?_eq_none hes] at hes'
  | some es =>
    obtain ⟨fs, hfs, hm⟩ := h.maps i es hes
    obtain rfl : fs = es' := Option.some.inj (hfs.symm.trans hes')
    obtain ⟨e, he, hmoved⟩ := exists_of_mem_right hm hmem
    cases hmoved with
    | kept => exact ⟨es, hes, he⟩
    | followed _ hj => exact absurd hr hj
    | listed _ hs => exact absurd hr hs.self

/-- A list with a reference in it is the same as before. -/
lemma Evolves.items?_of_isReference {is : List NodeId} (h : Evolves g g')
    (his : g'.items? i = some is) (hu : u ∈ is) (hr : g'.IsReference u) :
    g.items? i = some is := by
  by_cases hlt : i < g.nodes.size
  · have hnone := entries?_eq_none_of_isSome (h.isSome_entries?_eq i).symm
      (entries?_eq_none_of_items? his)
    rwa [items?, ← h.others i hlt hnone]
  · exact absurd hr ((h.added i (Nat.not_lt.1 hlt)).2.items is his u hu)

end Graph

namespace Document

open ApiBridge.Graph

/-! ### Runs side by side -/

/-- Where one computation returns, the other one does, and the results go together. -/
def Follows (P : Document → Document → Prop) (x x' : Except ReferenceError Document) : Prop :=
  ∀ e, x = .ok e → ∃ e', x' = .ok e' ∧ P e e'

namespace Follows

variable {P Q : Document → Document → Prop} {x x' : Except ReferenceError Document}
  {e e' : Document}

lemma ok (h : P e e') : Follows P (.ok e) (.ok e') := by
  intro e₁ h₁
  cases h₁
  exact ⟨e', rfl, h⟩

lemma imp (hx : Follows P x x') (hPQ : ∀ e e', P e e' → Q e e') : Follows Q x x' := by
  intro e h
  obtain ⟨e', h', hP⟩ := hx e h
  exact ⟨e', h', hPQ e e' hP⟩

lemma bind {f f' : Document → Except ReferenceError Document} (hx : Follows P x x')
    (hf : ∀ e e', x = .ok e → x' = .ok e' → P e e' → Follows Q (f e) (f' e')) :
    Follows Q (x >>= f) (x' >>= f') := by
  intro e₂ h₂
  obtain ⟨e₁, h₁, h₂⟩ := bind_eq_ok_iff.1 h₂
  obtain ⟨e₁', h₁', hP⟩ := hx e₁ h₁
  obtain ⟨e₂', h₂', hQ⟩ := hf e₁ e₁' h₁ h₁' hP e₂ h₂
  exact ⟨e₂', bind_eq_ok_iff.2 ⟨e₁', h₁', h₂'⟩, hQ⟩

section Fold

variable {α : Type} {f f' : Document → α → Except ReferenceError Document} {xs : List α}

lemma foldlM (hf : ∀ a e₁, ComesTo f xs e a e₁ → ∀ e₁', P e₁ e₁' → Follows P (f e₁ a) (f' e₁' a))
    (h : P e e') : Follows P (xs.foldlM f e) (xs.foldlM f' e') := by
  induction xs generalizing e e' with
  | nil => exact .ok h
  | cons a xs ih =>
    rw [List.foldlM_cons, List.foldlM_cons]
    refine (hf a e .here e' h).bind fun e₁ e₁' h₁ _ hP => ih (fun b e₂ hb => hf b e₂ ?_) hP
    exact .after h₁ hb

/-- What each step achieves holds in the end, if all steps keep it. -/
lemma foldlM_all {D : α → Document → Prop}
    (hf : ∀ a e₁, ComesTo f xs e a e₁ → ∀ e₁', P e₁ e₁' →
      Follows (fun e e' => P e e' ∧ D a e') (f e₁ a) (f' e₁' a))
    (hkeep : ∀ a b e₁ e₁' e₂', P e₁ e₁' → f' e₁' b = .ok e₂' → D a e₁' → D a e₂') (h : P e e') :
    Follows (fun e e' => P e e' ∧ ∀ a ∈ xs, D a e') (xs.foldlM f e) (xs.foldlM f' e') := by
  induction xs generalizing P e e' with
  | nil => exact .ok ⟨h, by simp⟩
  | cons a xs ih =>
    rw [List.foldlM_cons, List.foldlM_cons]
    refine (hf a e .here e' h).bind fun e₁ e₁' h₁ _ hP => ?_
    refine (ih (P := fun e e' => P e e' ∧ D a e') ?_ (fun b c e₂ e₂' e₃' h₂ => hkeep b c e₂ e₂' e₃' h₂.1)
      hP).imp fun e₂ e₂' h₂ => ⟨h₂.1.1, List.forall_mem_cons.2 ⟨h₂.1.2, h₂.2⟩⟩
    intro b e₂ hb e₂' h₂ e₃ h₃
    obtain ⟨e₃', h₃', hP₃, hD₃⟩ := hf b e₂ (.after h₁ hb) e₂' h₂.1 e₃ h₃
    exact ⟨e₃', h₃', ⟨hP₃, hkeep a b e₂ e₂' e₃' h₂.1 h₃' h₂.2⟩, hD₃⟩

end Fold

end Follows

/-! ### Nodes that go together -/

/-- Where a node of the first document is in the second: lists that are added to it come after all
nodes that were there before. -/
def shift (d d' : Document) (i : Nat) : Nat :=
  if i < d.graph.nodes.size then i else i - d.graph.nodes.size + d'.graph.nodes.size

/-- A node goes with itself, or the node `n` with the reference `q`. -/
inductive Across (d d' : Document) (n q : NodeId) : NodeId → NodeId → Prop
  | same {i : NodeId} : Across d d' n q i (d.shift d' i)
  | detour : Across d d' n q n q

/-- What a place holds stands in a node: under a key of a map, or in a list. -/
inductive Stands (d : Document) : Place → NodeId → Option Scalar → Prop
  | entry {i : NodeId} {k : Scalar} : Stands d (.entry i k) i (some k)
  | parameter {o p : NodeId} (hp : d.graph.field? o "parameters" = some p) :
      Stands d (.parameters o) p none

/-- In the document `d'` there is a reference `q` to the node `n`, where in `d` there is the node
itself: in one spot of an operation. That reference leads through nodes that are `fixed`, where
something was added, and nothing but other fixed nodes leads to these. -/
structure Detour (d d' : Document) (paths n q : NodeId) (fixed : NodeId → Prop) (spot : Place) :
    Prop where
  sound : d.IsSound
  keyed : d'.graph.Keyed
  root : d'.root = d.root
  size : d.graph.nodes.size ≤ d'.graph.nodes.size
  field : d.field? "paths" = some paths
  field' : d'.field? "paths" = some paths
  ordered : d.IsOrdered paths
  lt_size : n < d.graph.nodes.size
  moved : ¬d.graph.IsReference n
  reference : d'.graph.IsReference q
  leads : ∀ e' : Document, e'.root = d.root → ¬e'.graph.IsReference n →
    (∀ i, fixed i ∨ d.graph.nodes.size ≤ i ∧ i < d'.graph.nodes.size →
      e'.graph.node i = d'.graph.node i) → e'.Leads q n
  fixed_root : fixed d.root
  fixed_lt : ∀ i, fixed i → i < d.graph.nodes.size
  fixed_part : ∀ i pos v, fixed v → d.graph.Part i pos v → fixed i ∧ pos ≠ none
  fixed_paths : ¬fixed paths
  step : ∀ i, fixed i → ∀ target segment j, Pointer.step d.graph target i segment = .ok j →
    Pointer.step d'.graph target i segment = .ok j
  node : ∀ i, i < d.graph.nodes.size → ¬fixed i →
    (d.graph.node i).Alike (fun v v' => v' = v ∨ v = n ∧ v' = q) (d'.graph.node i)
  spot_kind : ∀ i k, spot = .entry i k → i < d.graph.nodes.size ∧
    (k = .text "requestBody" ∨ d.AreResponses paths i ∧ k ≠ .text "$ref")
  held : d'.Holds spot q
  slot : ∀ i pos, d'.graph.Part i pos q → d.Stands spot i pos

/-- Two documents, each while it is resolved, go together but for the detour. -/
structure Abreast (d d' : Document) (paths n q : NodeId) (fixed ends : NodeId → Prop)
    (e e' : Document) : Prop where
  becomes : d.Becomes paths n ends e
  evolves : Evolves d' e'
  size : e'.graph.nodes.size = d.shift d' e.graph.nodes.size
  kept : ∀ i, fixed i → e.graph.node i = d.graph.node i
  kept' : ∀ i, fixed i ∨ d.graph.nodes.size ≤ i ∧ i < d'.graph.nodes.size →
    e'.graph.node i = d'.graph.node i
  node : ∀ i, i < e.graph.nodes.size → ¬fixed i →
    (e.graph.node i).Alike (Across d d' n q) (e'.graph.node (d.shift d' i))
  slot : ∀ i pos, e'.graph.Part i pos q → d'.graph.Part i pos q

variable {d d' e e' : Document} {paths n q i j k o v w : NodeId} {key : Scalar} {name : String}
  {pos : Option Scalar} {fixed ends : NodeId → Prop} {spot : Place}

lemma shift_of_lt (h : i < d.graph.nodes.size) : d.shift d' i = i :=
  if_pos h

lemma shift_of_le {i : Nat} (h : d.graph.nodes.size ≤ i) :
    d.shift d' i = i - d.graph.nodes.size + d'.graph.nodes.size :=
  if_neg (Nat.not_lt.2 h)

lemma across_of_lt (h : i < d.graph.nodes.size) : Across d d' n q i i := by
  have hi : Across d d' n q i (d.shift d' i) := .same
  rwa [shift_of_lt h] at hi

namespace Detour

variable (hD : Detour d d' paths n q fixed spot)
include hD

lemma lt_of_shift_lt {i : Nat} (h : d.shift d' i < d.graph.nodes.size) : i < d.graph.nodes.size := by
  by_contra hle
  have hsize := hD.size
  rw [shift_of_le (Nat.not_lt.1 hle)] at h
  omega

lemma shift_inj {i j : Nat} : d.shift d' i = d.shift d' j ↔ i = j := by
  have hsize := hD.size
  unfold shift
  split
  · split
    · rfl
    · omega
  · split
    · omega
    · omega

/-- Before anything is resolved, the documents go together. -/
lemma abreast : Abreast d d' paths n q fixed ends d d' where
  becomes := .start
  evolves := .refl d'
  size := by
    rw [shift_of_le (Nat.le_refl _)]
    omega
  kept _ _ := rfl
  kept' _ _ := rfl
  node i hi hf := by
    rw [shift_of_lt hi]
    refine (hD.node i hi hf).mono fun v hv v' _ h => ?_
    rcases h with rfl | ⟨rfl, rfl⟩
    · exact across_of_lt (hD.sound.closed i _ hv)
    · exact .detour
  slot _ _ h := h

/-- Once the reference does not stand in its spot any more, it does not come back. -/
lemma not_holds {e'' : Document} (he : Evolves d' e') (hev : Evolves e' e'')
    (hn : ¬e'.Holds spot q) : ¬e''.Holds spot q := by
  have hr := (he.trans hev).graph.isReference_iff.2 hD.reference
  intro hq
  have hheld := hD.held
  cases hq with
  | entry hq => exact hn (.entry (hev.graph.entry_of_isReference hq hr))
  | @parameter o _ _ _ hp his hv =>
    cases hheld with
    | @parameter _ p₀ _ _ hp₀ his₀ =>
      have hlist (p : NodeId) (h : d'.graph.field? o "parameters" = some p) :
          ¬d'.graph.IsReference p := by
        obtain rfl := Option.some.inj (hp₀.symm.trans h)
        exact not_isReference_of_entries? (entries?_eq_none_of_items? his₀)
      obtain ⟨p', hp', hm⟩ := hev.graph.field? hp
      cases hm with
      | kept => exact hn (.parameter hp' (hev.graph.items?_of_isReference his hv hr) hv)
      | followed hi => exact he.graph.not_isReference_field? hlist hp' hi
      | listed _ hs => exact hs.items _ his _ hv hr

end Detour

/-! ### Two documents while they are resolved -/

namespace Abreast

section Parts

variable (hD : Detour d d' paths n q fixed spot)
  (hfix : ∀ i, fixed i → ends i) (h : Abreast d d' paths n q fixed ends e e')
include hD h

lemma isSound : e.IsSound :=
  h.becomes.advances.isSound hD.sound

lemma keyed' : e'.graph.Keyed :=
  h.evolves.graph.keyed hD.keyed

lemma le_size : d.graph.nodes.size ≤ e.graph.nodes.size :=
  (h.becomes.advances.evolves hD.sound).graph.size

/-- Maps were there before. -/
lemma lt_of_isMap (hi : (e.graph.entries? i).isSome) : i < d.graph.nodes.size := by
  by_contra hle
  rw [((h.becomes.advances.evolves hD.sound).graph.added i (Nat.not_lt.1 hle)).1] at hi
  cases hi

lemma reference : e'.graph.IsReference q :=
  h.evolves.graph.isReference_iff.2 hD.reference

omit hD in
lemma keys_eq (hi : i < e.graph.nodes.size) (hf : ¬fixed i) :
    e'.graph.keys (d.shift d' i) = e.graph.keys i := by
  have hes := (h.node i hi hf).entries?
  rw [keys, keys, entries?, entries?]
  generalize (e.graph.node i).entries? = es, (e'.graph.node (d.shift d' i)).entries? = fs at hes
  cases hes with
  | none => rfl
  | some hl => exact map_eq_of_forall₂ (hl.imp fun _ _ hef => hef.1.symm)

omit hD in
lemma isSome_entries?_eq (hi : i < e.graph.nodes.size) (hf : ¬fixed i) :
    (e'.graph.entries? (d.shift d' i)).isSome = (e.graph.entries? i).isSome := by
  have hes := (h.node i hi hf).entries?
  rw [entries?, entries?]
  generalize (e.graph.node i).entries? = es, (e'.graph.node (d.shift d' i)).entries? = fs at hes
  cases hes with
  | none | some => rfl

/-- The reference stands only where it stood from the start. -/
lemma not_part (hne : spot ≠ .entry i (.text name)) :
    ¬e'.graph.Part (d.shift d' i) (some (.text name)) q := by
  intro hq
  generalize hi : d.shift d' i = i', hpos : some (Scalar.text name) = pos at hq
  obtain ⟨⟩ | ⟨⟩ := hD.slot _ _ (h.slot _ _ hq)
  · cases hpos
    obtain ⟨hlt, -⟩ := hD.spot_kind _ _ rfl
    rw [← hi] at hlt hne
    rw [shift_of_lt (hD.lt_of_shift_lt hlt)] at hne
    exact hne rfl
  · cases hpos

/-- Where the reference does not stand, fields lead to the same. -/
lemma field?_eq (hi : i < e.graph.nodes.size) (hf : ¬fixed i)
    (hq : ¬e'.graph.Part (d.shift d' i) (some (.text name)) q) :
    e'.graph.field? (d.shift d' i) name = (e.graph.field? i name).map (d.shift d') := by
  have hrel := (h.node i hi hf).field? name
  have keyed : e'.graph.field? (d.shift d' i) name = some q ↔ _ := (h.keyed' hD).field?_iff
  rw [Graph.field?] at keyed
  rw [Graph.field?, Graph.field?]
  generalize (e.graph.node i).field? name = v, (e'.graph.node (d.shift d' i)).field? name = v'
    at hrel keyed
  cases hrel with
  | none => rfl
  | some hv =>
    cases hv with
    | same => rfl
    | detour => exact absurd (keyed.1 rfl) hq

include hfix

/-- Nothing but fixed nodes leads to a fixed node. -/
lemma not_fixed (hi : ¬fixed i) (hv : e.graph.Part i pos v) : ¬fixed v := by
  intro hf
  refine hi (hD.fixed_part i pos v hf (h.becomes.part hD.sound (hfix v hf) (hD.fixed_lt v hf) ?_
    hv)).1
  exact fun j hj => (hD.fixed_part j none v hf hj).2 rfl

end Parts

/-! ### Pointers -/

section Pointers

variable (hD : Detour d d' paths n q fixed spot) (h : Abreast d d' paths n q fixed ends e e')
include hD h

lemma step {target segment : String} (hi : i < e.graph.nodes.size)
    (hj : Pointer.step e.graph target i segment = .ok j) :
    ∃ j', Pointer.step e'.graph target (d.shift d' i) segment = .ok j' ∧ Across d d' n q j j' := by
  by_cases hf : fixed i
  · have hlt := hD.fixed_lt i hf
    rw [step_congr (h.kept i hf)] at hj
    have hjlt : j < d.graph.nodes.size := hD.sound.closed i j (mem_parts_of_step hj)
    refine ⟨j, ?_, across_of_lt hjlt⟩
    rw [shift_of_lt hlt, step_congr (h.kept' i (.inl hf))]
    exact hD.step i hf target segment j hj
  · have hnode := h.node i hi hf
    unfold Pointer.step at hj
    split at hj
    case h_1 es hn =>
      have hl := hnode.lookupKey (.text segment)
      rw [hn, Layer.entries?, Option.bind_some] at hl
      split at hj
      case h_2 => cases hj
      case h_1 v hv =>
        cases hj
        rw [hv] at hl
        rw [hn] at hnode
        unfold Pointer.step
        generalize e'.graph.node (d.shift d' i) = n' at hnode hl
        cases hnode with
        | @map _ fs =>
          rw [Layer.entries?, Option.bind_some] at hl
          simp only
          generalize lookupKey (.text segment) fs = w at hl
          cases hl with
          | some hvw => exact ⟨_, rfl, hvw⟩
    case h_2 is hn =>
      have his : e.graph.items? i = some is := by
        rw [items?, hn]
        rfl
      have hitems := hnode.items?
      rw [← items?, ← items?, his] at hitems
      generalize hjs : e'.graph.items? (d.shift d' i) = js at hitems
      cases hitems with
      | some hl =>
        have halike := step_alike_list his hjs hl target segment
        rw [Pointer.step, hn] at halike
        simp only [hj] at halike
        generalize Pointer.step e'.graph target (d.shift d' i) segment = y at halike
        cases halike with
        | ok hjj' => exact ⟨_, rfl, hjj'⟩
    case h_3 => cases hj

/-- Where a pointer does not lead through the node, the same pointer goes along. -/
lemma steps {target : String} {segments : List String} {i' : NodeId} (hi : i < e.graph.nodes.size)
    (hii' : Across d d' n q i i') (hpass : passesFrom e.graph n target i segments = false)
    (hj : segments.foldlM (Pointer.step e.graph target) i = .ok j) :
    ∃ j', segments.foldlM (Pointer.step e'.graph target) i' = .ok j' ∧ Across d d' n q j j' := by
  induction segments generalizing i i' with
  | nil =>
    cases hj
    exact ⟨i', rfl, hii'⟩
  | cons s segments ih =>
    obtain ⟨i₁, hi₁, hj⟩ := bind_eq_ok_iff.1 hj
    simp only [passesFrom, hi₁, Bool.or_eq_false_iff, beq_eq_false_iff_ne] at hpass
    obtain ⟨hne, hpass⟩ := hpass
    cases hii' with
    | detour => exact absurd rfl hne
    | same =>
      obtain ⟨i₁', hi₁', hacross⟩ := h.step hD hi hi₁
      have hlt := (h.isSound hD).closed i i₁ (mem_parts_of_step hi₁)
      obtain ⟨j', hj', hjj'⟩ := ih hlt hacross hpass hj
      exact ⟨j', bind_eq_ok_iff.2 ⟨i₁', hi₁', hj'⟩, hjj'⟩

lemma locate {target : String} (hpass : e.passes n target = false)
    (hj : e.locate target = .ok j) :
    ∃ j', e'.locate target = .ok j' ∧ Across d d' n q j j' := by
  unfold Document.locate at hj ⊢
  unfold passes at hpass
  have hroot : e.root = d.root := (h.becomes.advances.evolves hD.sound).root
  have hroot' : e'.root = d.shift d' e.root := by
    rw [h.evolves.root, hD.root, hroot, shift_of_lt hD.sound.root]
  split at hj
  case h_1 => cases hj
  case h_2 segments hseg =>
    rw [hseg, Option.map_some, Option.getD_some] at hpass
    rw [hroot']
    exact h.steps hD (h.isSound hD).root .same hpass hj

/-- What is followed from leads to the same, whether it stands for itself or by the detour. -/
theorem leads (hfix : ∀ i, fixed i → ends i) {v' : NodeId} (hc : e.IsClear n ends v)
    (hf : ¬fixed v) (hlt : v < e.graph.nodes.size) (hl : e.Leads v w)
    (hvv' : Across d d' n q v v') : e'.Leads v' (d.shift d' w) := by
  induction hl generalizing v' with
  | @here v hr =>
    have hr' : ¬e'.graph.IsReference (d.shift d' v) := by
      rwa [Graph.isReference_iff, h.keys_eq hlt hf, ← Graph.isReference_iff]
    cases hvv' with
    | detour =>
      rw [shift_of_lt hD.lt_size] at hr' ⊢
      refine hD.leads e' ?_ hr' h.kept'
      rw [h.evolves.root, hD.root]
    | same => exact .here hr'
  | @step v z w hz _ ih =>
    have hr := isReference_of_next? hz
    have hr' : d.graph.IsReference v :=
      (h.becomes.advances.evolves hD.sound).graph.isReference_iff.1 hr
    cases hvv' with
    | detour => exact absurd hr' hD.moved
    | same =>
      obtain ⟨r, target, hfield, ht, hloc⟩ := next?_eq_some_iff.1 hz
      have hpart : e.graph.Part v (some (.text "$ref")) r :=
        (h.isSound hD).keyed.field?_iff.1 hfield
      have hq : ¬e'.graph.Part (d.shift d' v) (some (.text "$ref")) q := by
        refine h.not_part hD fun hs => ?_
        rcases (hD.spot_kind _ _ hs).2 with hk | ⟨-, hk⟩
        · exact absurd (Scalar.text.inj hk) (by decide)
        · exact hk rfl
      have hfield' := h.field?_eq hD hlt hf hq
      rw [← reference?, ← reference?, hfield, Option.map_some] at hfield'
      have hrlt := (h.isSound hD).closed.lt_of_entry hpart
      have ht' : e'.graph.text? (d.shift d' r) = some target := by
        rw [text?, (h.node r hrlt (h.not_fixed hD hfix hf hpart)).text?_eq]
        exact ht
      have htarget : target? e.graph v = some target :=
        Option.bind_eq_some_iff.2 ⟨r, hfield, ht⟩
      obtain ⟨hpass, hends⟩ := hc v target .self htarget
      obtain ⟨z', hz', hzz'⟩ := h.locate hD hpass hloc
      refine .step (next?_eq_some_iff.2 ⟨_, target, hfield', ht', hz'⟩) ?_
      refine ih (hc.next hz) (fun hfz => hends z hloc (hfix z hfz)) ?_ hzz'
      exact (h.isSound hD).lt_of_next? hz

end Pointers

end Abreast

end Document

end ApiBridge
