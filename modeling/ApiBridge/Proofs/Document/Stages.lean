import ApiBridge.Proofs.Document.Places

/-!
# Documents half resolved

While a document is resolved, pointers are followed through what has become of it so far. In a
straight document this makes no difference: at every stage, what is met leads where it leads in the
document as it was before.
-/

namespace ApiBridge

/-! ### Results that go together -/

/-- Two computations both return, with results that are related, or both fail. -/
inductive Alike {ε α β : Type} (R : α → β → Prop) : Except ε α → Except ε β → Prop
  | ok {a : α} {b : β} (h : R a b) : Alike R (.ok a) (.ok b)
  | error (e e' : ε) : Alike R (.error e) (.error e')

lemma Alike.imp {ε α β : Type} {R S : α → β → Prop} {x : Except ε α} {y : Except ε β}
    (h : Alike R x y) (hi : ∀ a b, R a b → S a b) : Alike S x y := by
  cases h with
  | ok h => exact .ok (hi _ _ h)
  | error e e' => exact .error e e'

lemma Alike.bind {ε α α' β β' : Type} {R : α → β → Prop} {S : α' → β' → Prop} {x : Except ε α}
    {y : Except ε β} {f : α → Except ε α'} {f' : β → Except ε β'} (h : Alike R x y)
    (hf : ∀ a b, x = .ok a → R a b → Alike S (f a) (f' b)) : Alike S (x >>= f) (y >>= f') := by
  cases h with
  | ok h => exact hf _ _ rfl h
  | error e e' => exact .error e e'

namespace Document

open ApiBridge.Graph

variable {d d' : Document} {paths i v w : NodeId} {k : Scalar}

/-! ### Stages -/

/-- A list has become one, added later, of what its items lead to. -/
def Listed (d : Document) (g' : Graph) (p q : NodeId) : Prop :=
  ∃ is js, d.graph.items? p = some is ∧ d.graph.nodes.size ≤ q ∧ g'.items? q = some js ∧
    List.Forall₂ d.Leads is js

/-- What has become of a node where it is referred to. -/
inductive Turned (d : Document) (g' : Graph) : NodeId → NodeId → Prop
  | same {v : NodeId} : Turned d g' v v
  | led {v w : NodeId} (h : d.Leads v w) : Turned d g' v w
  | listed {v w : NodeId} (h : d.Listed g' v w) : Turned d g' v w

/-- What has become of an entry of a map. -/
inductive Became (d : Document) (paths : NodeId) (g' : Graph) (i : NodeId) :
    Scalar → NodeId → NodeId → Prop
  | same {k : Scalar} {v : NodeId} : Became d paths g' i k v v
  | led {k : Scalar} {v w : NodeId} (hp : d.IsPlace paths (.entry i k)) (h : d.Leads v w) :
      Became d paths g' i k v w
  | listed {v w : NodeId} (hp : d.IsPlace paths (.parameters i)) (h : d.Listed g' v w) :
      Became d paths g' i (.text "parameters") v w

lemma Became.turned {g' : Graph} (h : d.Became paths g' i k v w) : d.Turned g' v w := by
  cases h with
  | same => exact .same
  | led _ h => exact .led h
  | listed _ h => exact .listed h

/-- The nodes of a document have become those of another one, where entries were followed and
lists of parameters were added, each for one map. -/
structure Rewritten (d : Document) (paths : NodeId) (d' : Document) : Prop where
  maps : ∀ i, (d'.graph.entries? i).isSome = (d.graph.entries? i).isSome
  others : ∀ i, i < d.graph.nodes.size → d.graph.entries? i = none →
    d'.graph.node i = d.graph.node i
  entries : ∀ i k w, d'.graph.Entry i k w →
    ∃ v, d.graph.Entry i k v ∧ d.Became paths d'.graph i k v w
  apart : ∀ i j k l q, d.graph.nodes.size ≤ q → d'.graph.Entry i k q → d'.graph.Entry j l q →
    i = j

/-- A document while it is resolved, beside the document as it was before. -/
structure Stage (d : Document) (paths : NodeId) (d' : Document) : Prop
    extends d.Rewritten paths d' where
  root : d'.root = d.root
  size : d.graph.nodes.size ≤ d'.graph.nodes.size
  keys : ∀ i, d'.graph.keys i = d.graph.keys i

lemma stage_self (hd : d.IsSound) : d.Stage paths d where
  root := rfl
  size := Nat.le_refl _
  keys _ := rfl
  maps _ := rfl
  others _ _ _ := rfl
  entries _ _ w h := ⟨w, h, .same⟩
  apart _ _ _ _ _ hq h _ := absurd (hd.closed.lt_of_entry h) (Nat.not_lt.2 hq)

namespace Stage

lemma keyed (h : d.Stage paths d') (hk : d.graph.Keyed) : d'.graph.Keyed := by
  intro i
  rw [h.keys]
  exact hk i

lemma isReference_iff (h : d.Stage paths d') : d'.graph.IsReference i ↔ d.graph.IsReference i := by
  rw [Graph.isReference_iff, Graph.isReference_iff, h.keys]

lemma entry (h : d.Stage paths d') (hk : d.graph.Keyed) (hv : d.graph.Entry i k v) :
    ∃ w, d'.graph.Entry i k w ∧ d.Became paths d'.graph i k v w := by
  obtain ⟨w, hw⟩ := mem_keys_iff.1 ((h.keys i).symm ▸ hv.mem_keys)
  obtain ⟨v', hv', hb⟩ := h.entries i k w hw
  obtain rfl := hk.entry_unique hv hv'
  exact ⟨w, hw, hb⟩

end Stage

/-! ### The same steps at every stage -/

lemma getElem?_rel {α β : Type} {R : α → β → Prop} {xs : List α} {ys : List β}
    (h : List.Forall₂ R xs ys) (n : Nat) : Option.Rel R xs[n]? ys[n]? := by
  induction h generalizing n with
  | nil => exact .none
  | cons hxy _ ih =>
    cases n with
    | zero => exact .some hxy
    | succ n => simpa using ih n

lemma itemAt?_rel {R : NodeId → NodeId → Prop} {is js : List NodeId} (h : List.Forall₂ R is js)
    (index : Int) : Option.Rel R (Pointer.itemAt? is index) (Pointer.itemAt? js index) := by
  unfold Pointer.itemAt?
  rw [h.length_eq]
  split
  · exact getElem?_rel h _
  · split
    · exact getElem?_rel h _
    · exact .none

lemma step_alike_list {R : NodeId → NodeId → Prop} {g g' : Graph} {x x' : NodeId}
    {is js : List NodeId} (his : g.items? x = some is) (hjs : g'.items? x' = some js)
    (h : List.Forall₂ R is js) (target segment : String) :
    Alike R (Pointer.step g target x segment) (Pointer.step g' target x' segment) := by
  simp only [Pointer.step, node_eq_of_items? his, node_eq_of_items? hjs]
  cases Text.readInteger? 10 segment.toList with
  | none => exact .error _ _
  | some index =>
    have hrel := itemAt?_rel h index
    rw [Option.bind_some, Option.bind_some]
    generalize Pointer.itemAt? is index = y, Pointer.itemAt? js index = y' at hrel
    cases hrel with
    | some h => exact .ok h
    | none => exact .error _ _

section Straight

variable (hd : d.IsSound) (hs : d.IsStraight paths) (h : d.Stage paths d')
include hd hs h

/-- Parts that are looked up by name, other than parameters, stay what they are. -/
lemma Stage.field?_eq {name : String} (hname : name ∈ partNames) (hne : name ≠ "parameters")
    (i : NodeId) : d'.graph.field? i name = d.graph.field? i name := by
  refine Option.ext fun w => ?_
  rw [(h.keyed hd.keyed).field?_iff, hd.keyed.field?_iff]
  -- An entry with that name is no reference if it is followed, so it has become itself.
  have same {v w : NodeId} (hv : d.graph.Entry i (.text name) v)
      (hb : d.Became paths d'.graph i (.text name) v w) : w = v := by
    cases hb with
    | same => rfl
    | led hp hl =>
      refine hl.eq_of_not_isReference fun hr => ?_
      exact hs.names i name v hp (hd.keyed.field?_iff.2 hv) hr hname
    | listed => exact absurd rfl hne
  constructor
  · intro hw
    obtain ⟨v, hv, hb⟩ := h.entries _ _ _ hw
    rwa [same hv hb]
  · intro hv
    obtain ⟨w', hw', hb⟩ := h.entry hd.keyed hv
    rwa [same hv hb] at hw'

lemma Stage.reference?_eq (i : NodeId) : reference? d'.graph i = reference? d.graph i :=
  h.field?_eq hd hs (by decide) (by decide) i

lemma Stage.target?_eq (i : NodeId) : target? d'.graph i = target? d.graph i := by
  unfold target?
  rw [h.reference?_eq hd hs]
  cases hr : reference? d.graph i with
  | none => rfl
  | some r =>
    rw [Option.bind_some, Option.bind_some]
    have hlt : r < d.graph.nodes.size := hd.closed.lt_of_entry (hd.keyed.field?_iff.1 hr)
    cases hn : d.graph.entries? r with
    | none => rw [text?, h.others r hlt hn, text?]
    | some es =>
      obtain ⟨es', hes'⟩ := exists_entries?_of_isSome (h.maps r) hn
      rw [text?, text?, node_eq_of_entries? hn, node_eq_of_entries? hes']
      rfl

omit hs

lemma Stage.step_alike_map {es : List (Scalar × NodeId)} {x : NodeId}
    (hn : d.graph.entries? x = some es) (target segment : String) :
    Alike (fun y y' => y < d.graph.nodes.size ∧ d.Turned d'.graph y y')
      (Pointer.step d.graph target x segment) (Pointer.step d'.graph target x segment) := by
  obtain ⟨es', hes'⟩ := exists_entries?_of_isSome (h.maps x) hn
  have found : d.graph.field? x segment = lookupKey (.text segment) es := by
    rw [Graph.field?, node_eq_of_entries? hn]
    rfl
  have found' : d'.graph.field? x segment = lookupKey (.text segment) es' := by
    rw [Graph.field?, node_eq_of_entries? hes']
    rfl
  simp only [Pointer.step, node_eq_of_entries? hn, node_eq_of_entries? hes', ← found, ← found']
  cases hy : d.graph.field? x segment with
  | none =>
    have hnone : d'.graph.field? x segment = none := by
      refine Option.eq_none_iff_forall_ne_some.2 fun w hw => ?_
      obtain ⟨v, hv, -⟩ := h.entries _ _ _ ((h.keyed hd.keyed).field?_iff.1 hw)
      simp [hd.keyed.field?_iff.2 hv] at hy
    rw [hnone]
    exact .error _ _
  | some y =>
    have hy := hd.keyed.field?_iff.1 hy
    obtain ⟨y', hy', hb⟩ := h.entry hd.keyed hy
    rw [(h.keyed hd.keyed).field?_iff.2 hy']
    exact .ok ⟨hd.closed.lt_of_entry hy, hb.turned⟩

/-- A step from what is no reference comes to what has become of the node it came to before. -/
lemma Stage.step_alike {x x' : NodeId} (hx : x < d.graph.nodes.size)
    (hr : ¬d.graph.IsReference x) (ht : d.Turned d'.graph x x') (target segment : String) :
    Alike (fun y y' => y < d.graph.nodes.size ∧ d.Turned d'.graph y y')
      (Pointer.step d.graph target x segment) (Pointer.step d'.graph target x' segment) := by
  have same : Alike (fun y y' => y < d.graph.nodes.size ∧ d.Turned d'.graph y y')
      (Pointer.step d.graph target x segment) (Pointer.step d'.graph target x segment) := by
    cases hn : d.graph.entries? x with
    | some es => exact h.step_alike_map hd hn target segment
    | none =>
      have hnode := h.others x hx hn
      cases hl : d.graph.items? x with
      | some is =>
        have hl' : d'.graph.items? x = some is := by rw [items?, hnode, ← items?, hl]
        refine step_alike_list hl hl' (List.forall₂_same.2 fun y hy => ?_) target segment
        exact ⟨hd.closed.lt_of_item hl hy, .same⟩
      | none =>
        rw [Pointer.step, Pointer.step, hnode]
        cases hnode : d.graph.node x with
        | map es => simp [Graph.entries?, hnode, Layer.entries?] at hn
        | list is => simp [items?, hnode, Layer.items?] at hl
        | _ => exact .error _ _
  cases ht with
  | same => exact same
  | led hl =>
    rw [hl.eq_of_not_isReference hr]
    exact same
  | listed hl =>
    obtain ⟨is, js, his, -, hjs, hll⟩ := hl
    refine step_alike_list his hjs ?_ target segment
    refine ((List.forall₂_and_left _ _).2 ⟨fun y => hd.closed.lt_of_item his, hll⟩).imp ?_
    exact fun y y' h => ⟨h.1, .led h.2⟩

lemma Stage.steps_alike {target : String} {segments : List String} {x x' : NodeId}
    (hx : x < d.graph.nodes.size) (ht : d.Turned d'.graph x x')
    (hseg : isDirectFrom d.graph target x segments = true) :
    Alike (fun y y' => d.graph.items? y = none ∧ d.Turned d'.graph y y')
      (segments.foldlM (Pointer.step d.graph target) x)
      (segments.foldlM (Pointer.step d'.graph target) x') := by
  induction segments generalizing x x' with
  | nil => exact .ok ⟨Option.isNone_iff_eq_none.1 hseg, ht⟩
  | cons s segments ih =>
    obtain ⟨hr, hseg⟩ := Bool.and_eq_true_iff.1 hseg
    have hr : ¬d.graph.IsReference x := by
      rw [IsReference, Option.isNone_iff_eq_none.1 hr]
      decide
    rw [List.foldlM_cons, List.foldlM_cons]
    refine (h.step_alike hd hx hr ht target s).bind fun y y' hy hyy' => ?_
    rw [hy] at hseg
    exact ih hyy'.1 hyy'.2 hseg

/-- A pointer that is direct leads to what has become of the node it led to before. -/
lemma Stage.locate_alike {target : String}
    (ht : d.isDirect target = true) :
    Alike (fun y y' => y' = y ∨ d.Leads y y') (d.locate target) (d'.locate target) := by
  rw [locate, locate, h.root]
  cases hseg : Pointer.segments? target with
  | none => exact .error _ _
  | some segments =>
    rw [isDirect, hseg] at ht
    refine (h.steps_alike hd hd.root .same ht).imp fun y y' hyy' => ?_
    cases hyy'.2 with
    | same => exact .inl rfl
    | led ht => exact .inr ht
    | listed ht =>
      obtain ⟨is, -, his, -⟩ := ht
      simp [his] at hyy'

include hs

/-- What is met leads in one step to the same node as before, or to what that leads to. -/
lemma Stage.next?_alike (hv : d.IsMet paths v) :
    (∀ y, d.next? v = some y → ∃ y', d'.next? v = some y' ∧ (y' = y ∨ d.Leads y y')) ∧
      ∀ y', d'.next? v = some y' → ∃ y, d.next? v = some y ∧ (y' = y ∨ d.Leads y y') := by
  rw [next?, next?, h.target?_eq hd hs]
  cases ht : target? d.graph v with
  | none => simp
  | some target =>
    rw [Option.bind_some, Option.bind_some]
    have hloc := h.locate_alike hd (hs.direct v target hv ht)
    generalize d.locate target = y, d'.locate target = y' at hloc
    cases hloc with
    | ok h => simpa [Except.toOption] using h
    | error => simp [Except.toOption]

/-- What is met leads where it leads in the document as it was before. -/
theorem Stage.leads_iff (hv : d.IsMet paths v) :
    d'.Leads v w ↔ d.Leads v w := by
  constructor
  · intro hl
    induction hl with
    | here hn => exact .here (by rwa [← h.isReference_iff])
    | @step i y' j hi hy' ih =>
      obtain ⟨y, hy, rfl | hyy'⟩ := (h.next?_alike hd hs hv).2 y' hi
      · exact .step hy (ih (hv.next hy))
      · have hn : ¬d'.graph.IsReference y' := by
          rw [h.isReference_iff]
          exact hyy'.not_isReference
        obtain rfl := hy'.eq_of_not_isReference hn
        exact .step hy hyy'
  · intro hl
    induction hl with
    | here hn => exact .here (by rwa [h.isReference_iff])
    | @step i y j hi hy ih =>
      obtain ⟨y', hy', rfl | hyy'⟩ := (h.next?_alike hd hs hv).1 y hi
      · exact .step hy' (ih (hv.next hi))
      · obtain rfl := hy.unique hyy'
        refine .step hy' (.here ?_)
        rw [h.isReference_iff]
        exact hyy'.not_isReference

end Straight

end Document

end ApiBridge
