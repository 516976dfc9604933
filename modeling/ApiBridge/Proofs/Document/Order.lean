import ApiBridge.Proofs.Document.Layout
import ApiBridge.Proofs.Document.Returns
import ApiBridge.Proofs.Document.Trees

/-!
# The order of paths

Where references lead does not depend on the order in which maps have their entries, nor does it
matter then which places references are resolved in. So a straight document with its paths in
another order is resolved to the same, with the paths in that order.
-/

namespace ApiBridge

namespace Document

open ApiBridge.Graph

/-! ### Entries in another order -/

/-- Two documents are the same but for the order of the entries of maps. -/
structure Reordered (d d' : Document) : Prop where
  root : d'.root = d.root
  size : d'.graph.nodes.size = d.graph.nodes.size
  node : ∀ i, d'.graph.node i = d.graph.node i ∨
    ∃ es es', d.graph.node i = .map es ∧ d'.graph.node i = .map es' ∧ es'.Perm es

namespace Reordered

variable {d d' : Document} {paths i v w : NodeId} {k : Scalar}

lemma symm (h : Reordered d d') : Reordered d' d where
  root := h.root.symm
  size := h.size.symm
  node i := by
    rcases h.node i with heq | ⟨es, es', hes, hes', hperm⟩
    · exact .inl heq.symm
    · exact .inr ⟨es', es, hes', hes, hperm.symm⟩

section Parts

variable (h : Reordered d d')
include h

lemma entry (hv : d.graph.Entry i k v) : d'.graph.Entry i k v := by
  obtain ⟨es, hes, hmem⟩ := hv
  rcases h.node i with heq | ⟨fs, fs', hfs, hfs', hperm⟩
  · exact ⟨es, by rw [entries?, heq, ← entries?, hes], hmem⟩
  · have hnode := node_eq_of_entries? hes
    rw [hfs, Layer.map.injEq] at hnode
    subst hnode
    exact ⟨fs', by rw [entries?, hfs']; rfl, hperm.mem_iff.2 hmem⟩

lemma entry_iff : d'.graph.Entry i k v ↔ d.graph.Entry i k v :=
  ⟨h.symm.entry, h.entry⟩

lemma isSome_entries? : (d'.graph.entries? i).isSome = (d.graph.entries? i).isSome := by
  rcases h.node i with heq | ⟨es, es', hes, hes', -⟩
  · rw [entries?, heq, entries?]
  · rw [entries?, entries?, hes, hes']
    rfl

lemma items?_eq : d'.graph.items? i = d.graph.items? i := by
  rcases h.node i with heq | ⟨es, es', hes, hes', -⟩
  · rw [items?, heq, items?]
  · rw [items?, items?, hes, hes']
    rfl

lemma text?_eq : d'.graph.text? i = d.graph.text? i := by
  rcases h.node i with heq | ⟨es, es', hes, hes', -⟩
  · rw [text?, heq, text?]
  · rw [text?, text?, hes, hes']
    rfl

lemma mem_keys_iff : k ∈ d'.graph.keys i ↔ k ∈ d.graph.keys i := by
  simp only [Graph.mem_keys_iff, h.entry_iff]

lemma isReference_iff : d'.graph.IsReference i ↔ d.graph.IsReference i := by
  rw [Graph.isReference_iff, Graph.isReference_iff, h.mem_keys_iff]

/-- Keys that all differ do so in any order. -/
lemma keyed (hk : d.graph.Keyed) : d'.graph.Keyed := by
  intro i
  rcases h.node i with heq | ⟨es, es', hes, hes', hperm⟩
  · rw [Graph.keys, entries?, heq, ← entries?, ← Graph.keys]
    exact hk i
  · have keys := hk i
    simp only [Graph.keys, entries?, hes, hes', Layer.entries?, Option.getD_some] at keys ⊢
    refine (hperm.map _).symm.pairwise keys fun hne => ?_
    rwa [Scalar.same_comm]

lemma isSound (hd : d.IsSound) : d'.IsSound where
  keyed := h.keyed hd.keyed
  closed i v hv := by
    rw [h.size]
    refine hd.closed i v ?_
    rcases h.node i with heq | ⟨es, es', hes, hes', hperm⟩
    · rwa [heq] at hv
    · rw [hes', Layer.parts] at hv
      rw [hes, Layer.parts]
      exact (hperm.map _).mem_iff.1 hv
  root := by
    rw [h.root, h.size]
    exact hd.root

variable (hd : d.IsSound)
include hd

lemma field?_eq {name : String} : d'.graph.field? i name = d.graph.field? i name := by
  refine Option.ext fun v => ?_
  rw [(h.isSound hd).keyed.field?_iff, hd.keyed.field?_iff, h.entry_iff]

/-! ### What does not depend on the order -/

lemma step_eq (target segment : String) :
    Pointer.step d'.graph target i segment = Pointer.step d.graph target i segment := by
  rcases h.node i with heq | ⟨es, es', hes, hes', -⟩
  · rw [Pointer.step, heq, Pointer.step]
  · have hfield : d'.graph.field? i segment = d.graph.field? i segment := h.field?_eq hd
    simp only [Graph.field?, hes, hes', Layer.field?, Layer.entries?, Option.bind_some] at hfield
    simp only [Pointer.step, hes, hes', hfield]

lemma locate_eq (target : String) : d'.locate target = d.locate target := by
  have hstep : Pointer.step d'.graph target = Pointer.step d.graph target :=
    funext fun i => funext fun segment => h.step_eq hd target segment
  rw [locate, locate, hstep, h.root]

lemma target?_eq : target? d'.graph i = target? d.graph i := by
  have htext : d'.graph.text? = d.graph.text? := funext fun r => h.text?_eq
  rw [target?, target?, reference?, reference?, h.field?_eq hd, htext]

lemma next?_eq : d'.next? i = d.next? i := by
  rw [next?, next?, h.target?_eq hd]
  simp only [h.locate_eq hd]

lemma leads (hl : d.Leads v w) : d'.Leads v w := by
  induction hl with
  | here hn => exact .here (by rwa [h.isReference_iff])
  | step hi _ ih => exact .step (by rwa [h.next?_eq hd]) ih

lemma leads_iff : d'.Leads v w ↔ d.Leads v w :=
  ⟨h.symm.leads (h.isSound hd), h.leads hd⟩

lemma holds {p : Place} (hv : d.Holds p v) : d'.Holds p v := by
  cases hv with
  | entry hv => exact .entry (h.entry hv)
  | parameter hp his hv =>
    exact .parameter (by rwa [h.field?_eq hd]) (by rwa [h.items?_eq]) hv

lemma completes {p : Place} (hp : d.Completes p) : d'.Completes p := by
  intro v hv
  obtain ⟨w, hw⟩ := hp v (h.symm.holds (h.isSound hd) hv)
  exact ⟨w, h.leads hd hw⟩

lemma inOperation {o : NodeId} {p : Place} (hp : d.InOperation o p) : d'.InOperation o p := by
  cases hp with
  | parameters => exact .parameters
  | body => exact .body
  | response hr hk => exact .response (by rwa [h.field?_eq hd]) (h.mem_keys_iff.2 hk)

lemma inPathItem {p : Place} (hp : d.InPathItem i p) : d'.InPathItem i p := by
  cases hp with
  | parameters => exact .parameters
  | operation ho hmap hp =>
    exact .operation (by rwa [h.field?_eq hd]) (by rwa [h.isSome_entries?]) (h.inOperation hd hp)

lemma isPlace {p : Place} (hp : d.IsPlace paths p) : d'.IsPlace paths p := by
  obtain ⟨k, hk, hp⟩ := hp
  refine ⟨k, h.mem_keys_iff.2 hk, ?_⟩
  cases hp with
  | self => exact .self
  | item hv hi hmap hp =>
    exact .item (h.entry hv) (h.leads hd hi) (by rwa [h.isSome_entries?]) (h.inPathItem hd hp)

lemma isPlace_iff {p : Place} : d'.IsPlace paths p ↔ d.IsPlace paths p :=
  ⟨h.symm.isPlace (h.isSound hd), h.isPlace hd⟩

lemma isMet (hv : d.IsMet paths v) : d'.IsMet paths v := by
  induction hv with
  | held hp hv => exact .held (h.isPlace hd hp) (h.holds hd hv)
  | next _ hn ih => exact ih.next (by rwa [h.next?_eq hd])

lemma isDirectFrom_eq (target : String) (segments : List String) :
    isDirectFrom d'.graph target i segments = isDirectFrom d.graph target i segments := by
  induction segments generalizing i with
  | nil => rw [isDirectFrom, isDirectFrom, h.items?_eq]
  | cons s segments ih =>
    simp only [isDirectFrom, reference?, h.field?_eq hd, h.step_eq hd, ih]

lemma isStraight (hs : d.IsStraight paths) : d'.IsStraight paths where
  direct v target hv ht := by
    have hdirect := hs.direct v target (h.symm.isMet (h.isSound hd) hv)
      (by rwa [← h.target?_eq hd])
    unfold isDirect at hdirect ⊢
    rw [h.root]
    simp only [h.isDirectFrom_eq hd]
    exact hdirect
  names i name v hp hv hr := by
    refine hs.names i name v ((h.isPlace_iff hd).1 hp) ?_ (h.isReference_iff.1 hr)
    rwa [← h.field?_eq hd]

end Parts

end Reordered

/-! ### Finished documents -/

section Finished

variable {d d' r r' : Document} {paths i j v w w' : NodeId} {k : Scalar}

/-- What the result of resolving is, beside the document as it was before. -/
structure Finished (d : Document) (paths : NodeId) (r : Document) : Prop
    extends d.Rewritten paths r where
  keyed : r.graph.Keyed
  done : ∀ p, d.IsPlace paths p → d.Done r p

lemma resolve_finished (hd : d.IsSound) (hp : d.field? "paths" = some paths)
    (hs : d.IsStraight paths) (h : d.resolve = .ok r) :
    d.Finished paths r ∧ r.root = d.root ∧ ∀ i, r.graph.keys i = d.graph.keys i := by
  have hdoes := resolve_does hd hp hs
  have hstage := hdoes.stage r h
  have hdone (p : Place) (hp : d.IsPlace paths p) : d.Done r p := (hdoes.done r h p hp).2
  exact ⟨⟨hstage.toRewritten, hstage.keyed hd.keyed, hdone⟩, hstage.root, hstage.keys⟩

/-- The order of the entries before does not matter. -/
lemma Reordered.finished_of (h : Reordered d d') (hd : d.IsSound) (hf : d'.Finished paths r) :
    d.Finished paths r where
  keyed := hf.keyed
  maps i := by rw [hf.maps, h.isSome_entries?]
  others i hi hn := by
    have hn' : d'.graph.entries? i = none := entries?_eq_none_of_isSome h.isSome_entries? hn
    rw [hf.others i (by rwa [h.size]) hn']
    rcases h.node i with heq | ⟨es, -, hes, -⟩
    · exact heq
    · rw [entries?, hes] at hn
      cases hn
  entries i k w hw := by
    obtain ⟨v, hv, hb⟩ := hf.entries i k w hw
    refine ⟨v, h.entry_iff.1 hv, ?_⟩
    cases hb with
    | same => exact .same
    | led hp hl => exact .led ((h.isPlace_iff hd).1 hp) ((h.leads_iff hd).1 hl)
    | listed hp hl =>
      obtain ⟨is, js, his, hle, hjs, hll⟩ := hl
      rw [h.items?_eq] at his
      rw [h.size] at hle
      exact .listed ((h.isPlace_iff hd).1 hp)
        ⟨is, js, his, hle, hjs, hll.imp fun _ _ => (h.leads_iff hd).1⟩
  apart i j k l q hq := hf.apart i j k l q (by rwa [h.size])
  done p hp := by
    have hdone := hf.done p ((h.isPlace_iff hd).2 hp)
    cases p with
    | entry i k =>
      intro w hw
      rw [← h.isReference_iff]
      exact hdone w hw
    | parameters o =>
      intro p is hp his
      obtain ⟨q, hq, hle⟩ := hdone p is (by rwa [h.field?_eq hd]) (by rwa [h.items?_eq])
      exact ⟨q, hq, by rwa [← h.size]⟩

namespace Finished

/-- The order of the entries in the result does not matter. -/
lemma reordered (hf : d.Finished paths r) (h : Reordered r r') : d.Finished paths r' where
  keyed := h.keyed hf.keyed
  maps i := by rw [h.isSome_entries?, hf.maps]
  others i hi hn := by
    rcases h.node i with heq | ⟨es, -, hes, -⟩
    · rw [heq, hf.others i hi hn]
    · rw [entries?, ← hf.others i hi hn, hes] at hn
      cases hn
  entries i k w hw := by
    obtain ⟨v, hv, hb⟩ := hf.entries i k w (h.entry_iff.1 hw)
    exact ⟨v, hv, hb.mono fun q is his => by rwa [h.items?_eq]⟩
  apart i j k l q hq hi hj := hf.apart i j k l q hq (h.entry_iff.1 hi) (h.entry_iff.1 hj)
  done p hp := by
    have hdone := hf.done p hp
    cases p with
    | entry i k => exact fun w hw => hdone w (h.entry_iff.1 hw)
    | parameters o =>
      intro p is hp his
      obtain ⟨q, hq, hle⟩ := hdone p is hp his
      exact ⟨q, h.entry hq, hle⟩

/-! ### Two results -/

/-- Nodes of two results that go together: those that were there before with themselves, and the
lists of parameters of the same map. -/
inductive Twin (d r r' : Document) : NodeId → NodeId → Prop
  | same {i : NodeId} (hi : i < d.graph.nodes.size) : Twin d r r' i i
  | listed {o q q' : NodeId} (hq : d.graph.nodes.size ≤ q) (hq' : d.graph.nodes.size ≤ q')
      (he : r.graph.Entry o (.text "parameters") q)
      (he' : r'.graph.Entry o (.text "parameters") q') : Twin d r r' q q'

variable (hd : d.IsSound) (hf : d.Finished paths r) (hf' : d.Finished paths r')
include hd hf

/-- A list that was added is one of parameters. -/
lemma listed_of_size_le (hw : r.graph.Entry i k w) (hle : d.graph.nodes.size ≤ w) :
    k = .text "parameters" ∧ d.IsPlace paths (.parameters i) ∧
      ∃ v, d.graph.Entry i k v ∧ d.Listed r.graph v w := by
  obtain ⟨v, hv, hb⟩ := hf.entries i k w hw
  cases hb with
  | same => exact absurd (hd.closed.lt_of_entry hv) (Nat.not_lt.2 hle)
  | led _ hl => exact absurd (hl.lt_size hd (hd.closed.lt_of_entry hv)) (Nat.not_lt.2 hle)
  | listed hp hl => exact ⟨rfl, hp, v, hv, hl⟩

/-- What stands in a place in the end is what the references there lead to. -/
lemma leads_of_lt_size (hp : d.IsPlace paths (.entry i k)) (hv : d.graph.Entry i k v)
    (hw : r.graph.Entry i k w) (hlt : w < d.graph.nodes.size) : d.Leads v w := by
  obtain ⟨v', hv', hb⟩ := hf.entries i k w hw
  obtain rfl := hd.keyed.entry_unique hv hv'
  cases hb with
  | same => exact .here (hf.done _ hp _ hw)
  | led _ hl => exact hl
  | listed _ hl =>
    obtain ⟨-, -, -, hle, -⟩ := hl
    exact absurd hlt (Nat.not_lt.2 hle)

include hf'

lemma size_le_of_size_le (hw : r.graph.Entry i k w) (hw' : r'.graph.Entry i k w')
    (hle : d.graph.nodes.size ≤ w) : d.graph.nodes.size ≤ w' := by
  obtain ⟨rfl, hp, v, hv, is, -, his, -⟩ := hf.listed_of_size_le hd hw hle
  obtain ⟨q, hq, hle'⟩ := hf'.done _ hp v is (hd.keyed.field?_iff.2 hv) his
  rwa [hf'.keyed.entry_unique hw' hq]

lemma twin (hw : r.graph.Entry i k w) (hw' : r'.graph.Entry i k w') : Twin d r r' w w' := by
  -- A list that was added for one result was added for the other; the rest was there before.
  by_cases hle : d.graph.nodes.size ≤ w
  · obtain ⟨rfl, -⟩ := hf.listed_of_size_le hd hw hle
    exact .listed hle (hf.size_le_of_size_le hd hf' hw hw' hle) hw hw'
  · have hlt : w < d.graph.nodes.size := Nat.lt_of_not_le hle
    have hlt' : w' < d.graph.nodes.size :=
      Nat.lt_of_not_le fun hle' => hle (hf'.size_le_of_size_le hd hf hw' hw hle')
    obtain ⟨v, hv, hb⟩ := hf.entries i k w hw
    obtain ⟨v', hv', hb'⟩ := hf'.entries i k w' hw'
    obtain rfl := hd.keyed.entry_unique hv hv'
    have placed (hp : d.IsPlace paths (.entry i k)) : w = w' :=
      (hf.leads_of_lt_size hd hp hv hw hlt).unique (hf'.leads_of_lt_size hd hp hv hw' hlt')
    suffices heq : w = w' by
      subst heq
      exact .same hlt
    cases hb with
    | led hp => exact placed hp
    | listed _ hl =>
      obtain ⟨-, -, -, hle', -⟩ := hl
      exact absurd hle' hle
    | same =>
      cases hb' with
      | led hp => exact placed hp
      | listed _ hl =>
        obtain ⟨-, -, -, hle', -⟩ := hl
        exact absurd hlt' (Nat.not_lt.2 hle')
      | same => rfl

/-- The same list of parameters was added for the same map. -/
lemma alike_of_listed {o q q' : NodeId} (hle : d.graph.nodes.size ≤ q)
    (hle' : d.graph.nodes.size ≤ q') (he : r.graph.Entry o (.text "parameters") q)
    (he' : r'.graph.Entry o (.text "parameters") q') :
    (r.graph.node q).Alike (Twin d r r') (r'.graph.node q') := by
  obtain ⟨-, -, v, hv, is, js, his, -, hjs, hl⟩ := hf.listed_of_size_le hd he hle
  obtain ⟨-, -, v', hv', is', js', his', -, hjs', hl'⟩ := hf'.listed_of_size_le hd he' hle'
  obtain rfl := hd.keyed.entry_unique hv hv'
  obtain rfl := Option.some.inj (his.symm.trans his')
  have leads_unique : Relator.RightUnique d.Leads := fun _ _ _ => Leads.unique
  obtain rfl : js = js' := List.right_unique_forall₂' leads_unique hl hl'
  rw [node_eq_of_items? hjs, node_eq_of_items? hjs']
  refine .list (List.forall₂_same.2 fun j hj => .same ?_)
  obtain ⟨i, hi, hij⟩ := exists_of_mem_right hl hj
  exact hij.lt_size hd (hd.closed.lt_of_item his hi)

lemma alike_of_lt_size (hkeys : r.graph.keys i = r'.graph.keys i) (hi : i < d.graph.nodes.size) :
    (r.graph.node i).Alike (Twin d r r') (r'.graph.node i) := by
  cases hn : d.graph.entries? i with
  | none =>
    rw [hf.others i hi hn, hf'.others i hi hn]
    exact .refl fun j hj => .same (hd.closed i j hj)
  | some es =>
    obtain ⟨fs, hfs⟩ := exists_entries?_of_isSome (hf.maps i) hn
    obtain ⟨fs', hfs'⟩ := exists_entries?_of_isSome (hf'.maps i) hn
    rw [Graph.keys, Graph.keys, hfs, hfs', Option.getD_some, Option.getD_some] at hkeys
    rw [node_eq_of_entries? hfs, node_eq_of_entries? hfs']
    refine .map (forall₂_of_keys hkeys fun k w w' hw hw' => ?_)
    exact hf.twin hd hf' ⟨fs, hfs, hw⟩ ⟨fs', hfs', hw'⟩

lemma twins (hkeys : ∀ i, r.graph.keys i = r'.graph.keys i) :
    Graph.Twins r.graph r'.graph (Twin d r r') where
  same i i' j j' hi hj := by
    cases hi with
    | same hi =>
      cases hj with
      | same hj => rfl
      | listed hj hj' =>
        exact ⟨fun heq => absurd hi (Nat.not_lt.2 (heq ▸ hj)),
          fun heq => absurd hi (Nat.not_lt.2 (heq ▸ hj'))⟩
    | listed hi hi' he he' =>
      cases hj with
      | same hj =>
        exact ⟨fun heq => absurd hj (Nat.not_lt.2 (heq ▸ hi)),
          fun heq => absurd hj (Nat.not_lt.2 (heq ▸ hi'))⟩
      | listed hj hj' hf₂ hf₂' =>
        -- A list that was added stands in one map only.
        constructor
        · rintro rfl
          obtain rfl := hf.apart _ _ _ _ _ hi he hf₂
          exact hf'.keyed.entry_unique he' hf₂'
        · rintro rfl
          obtain rfl := hf'.apart _ _ _ _ _ hi' he' hf₂'
          exact hf.keyed.entry_unique he hf₂
  node i i' hi := by
    cases hi with
    | same hi => exact hf.alike_of_lt_size hd hf' (hkeys i) hi
    | listed hq hq' he he' => exact hf.alike_of_listed hd hf' hq hq' he he'

/-- Two results with the entries in the same order are the same as trees. -/
lemma toValue_eq (hkeys : ∀ i, r.graph.keys i = r'.graph.keys i) (hroot : r.root = d.root)
    (hroot' : r'.root = d.root) : r.toValue = r'.toValue := by
  rw [toValue, toValue, hroot, hroot']
  exact (hf.twins hd hf' hkeys).unfold_eq (.same hd.root)

end Finished

end Finished

/-! ### Paths in another order -/

/-- The document with other entries in a map. -/
def withEntries (d : Document) (i : NodeId) (es : List (Scalar × NodeId)) : Document :=
  { d with graph := d.graph.put i (.map es) }

variable {d : Document} {paths i : NodeId} {es es' : List (Scalar × NodeId)}

lemma node_withEntries (hes : d.graph.entries? i = some es) (j : NodeId) :
    (d.withEntries i es').graph.node j = if j = i then .map es' else d.graph.node j :=
  node_put d.graph (lt_size_of_entries? hes) _ j

lemma reordered_withEntries (hes : d.graph.entries? i = some es) (hperm : es'.Perm es) :
    Reordered d (d.withEntries i es') where
  root := rfl
  size := by simp [withEntries, Graph.put]
  node j := by
    rw [node_withEntries hes]
    by_cases hj : j = i
    · subst hj
      exact .inr ⟨es, es', node_eq_of_entries? hes, if_pos rfl, hperm⟩
    · exact .inl (if_neg hj)

lemma keys_withEntries (hes : d.graph.entries? i = some es) (j : NodeId) :
    (d.withEntries i es').graph.keys j = if j = i then es'.map (·.1) else d.graph.keys j := by
  rw [Graph.keys, Graph.entries?, node_withEntries hes]
  split
  · rfl
  · rfl

/-- Whether a straight document is resolved does not depend on the order of its paths, and the
results are the same with the paths in the same order. -/
theorem resolve_withEntries (hd : d.IsSound) (hp : d.field? "paths" = some paths)
    (hes : d.graph.entries? paths = some es) (hs : d.IsStraight paths) (hperm : es'.Perm es) :
    ((∃ r, d.resolve = .ok r) ↔ ∃ r', (d.withEntries paths es').resolve = .ok r') ∧
      ∀ r r', d.resolve = .ok r → (d.withEntries paths es').resolve = .ok r' →
        ∃ fs fs', r.graph.entries? paths = some fs ∧ fs.map (·.1) = es.map (·.1) ∧
          fs'.Perm fs ∧ fs'.map (·.1) = es'.map (·.1) ∧
          r'.toValue = (r.withEntries paths fs').toValue := by
  have h := reordered_withEntries hes hperm
  have hd' := h.isSound hd
  have hp' : (d.withEntries paths es').field? "paths" = some paths := by
    rw [field?, h.root, h.field?_eq hd]
    exact hp
  have hs' := h.isStraight hd hs
  refine ⟨?_, fun r r' hr hr' => ?_⟩
  · rw [resolve_returns_iff hd hp hs, resolve_returns_iff hd' hp' hs']
    exact ⟨fun hall p hp => h.completes hd (hall p ((h.isPlace_iff hd).1 hp)),
      fun hall p hp => h.symm.completes hd' (hall p (h.isPlace hd hp))⟩
  · obtain ⟨hf, hroot, hkeys⟩ := resolve_finished hd hp hs hr
    obtain ⟨hf', hroot', hkeys'⟩ := resolve_finished hd' hp' hs' hr'
    have hf' := h.finished_of hd hf'
    obtain ⟨fs, hfs⟩ := exists_entries?_of_isSome (hf.maps paths) hes
    have hmap : fs.map (·.1) = es.map (·.1) := by
      have := hkeys paths
      rwa [Graph.keys, Graph.keys, hfs, hes] at this
    obtain ⟨fs', hmap', hperm'⟩ : ∃ fs' : List (Scalar × NodeId),
        fs'.map (·.1) = es'.map (·.1) ∧ fs'.Perm fs := by
      have hkeys : (es'.map (·.1)).Perm (fs.map (·.1)) := by
        rw [hmap]
        exact hperm.map _
      have hcomp := congrFun₂ (List.eq_map_comp_perm fun e : Scalar × NodeId => e.1)
        (es'.map (·.1)) fs
      obtain ⟨fs', hfs', hperm'⟩ := hcomp.mpr hkeys
      exact ⟨fs', hfs'.symm, hperm'⟩
    refine ⟨fs, fs', hfs, hmap, hperm', hmap', ?_⟩
    have hr := hf.reordered (reordered_withEntries hfs hperm')
    refine hf'.toValue_eq hd hr (fun i => ?_) hroot' hroot
    rw [hkeys', keys_withEntries hes, keys_withEntries hfs, hmap', hkeys]

/-- A document in which a path and parts of operations are given by references. -/
def sharing : Document :=
  ofValue (.ofFields [
    ("paths", .ofFields [
      ("/cats", .ofFields [("$ref", .text "#/components/pathItems/Pets")]),
      ("/dogs", .ofFields [("post", .ofFields [
        ("requestBody", .ofFields [("$ref", .text "#/components/requestBodies/Pet")])])])]),
    ("components", .ofFields [
      ("pathItems", .ofFields [("Pets", .ofFields [("get", .ofFields [
        ("parameters", .list [.ofFields [("$ref", .text "#/components/parameters/Limit")]])])])]),
      ("parameters", .ofFields [("Limit", .ofFields [("name", .text "limit")])]),
      ("requestBodies", .ofFields [("Pet", .ofFields [("required", .bool true)])])])])

/-- The references are replaced as well when the paths change places. -/
theorem resolve_withEntries_sharing :
    ∃ r r', sharing.resolve = .ok r ∧
      (sharing.withEntries 6 [(.text "/dogs", 5), (.text "/cats", 1)]).resolve = .ok r' ∧
      ∃ fs fs', r.graph.entries? 6 = some fs ∧ fs.map (·.1) = [.text "/cats", .text "/dogs"] ∧
        fs'.Perm fs ∧ fs'.map (·.1) = [.text "/dogs", .text "/cats"] ∧
        r'.toValue = (r.withEntries 6 fs').toValue := by
  have sound : sharing.IsSound := ofValue_isSound (by decide +kernel)
  have straight : sharing.IsStraight 6 := .of_nodes (by decide +kernel) (by decide +kernel)
  have hp : sharing.field? "paths" = some 6 := by decide +kernel
  have hes : sharing.graph.entries? 6 = some [(.text "/cats", 1), (.text "/dogs", 5)] := by
    decide +kernel
  obtain ⟨hiff, hsame⟩ := resolve_withEntries sound hp hes straight (.swap _ _ [])
  obtain ⟨r, hr⟩ : ∃ r, sharing.resolve = .ok r := by
    have hok : sharing.resolve.isOk = true := by decide +kernel
    cases h : sharing.resolve with
    | ok r => exact ⟨r, rfl⟩
    | error e => simp [h, Except.isOk, Except.toBool] at hok
  obtain ⟨r', hr'⟩ := hiff.1 ⟨r, hr⟩
  exact ⟨r, r', hr, hr', hsame r r' hr hr'⟩

/-- A path refers to a parameter below another path, and that path is a reference itself. -/
def straying : Document :=
  ofValue (.ofFields [
    ("paths", .ofFields [
      ("/cats", .ofFields [("$ref", .text "#/components/pathItems/Pets")]),
      ("/dogs", .ofFields [("get", .ofFields [
        ("parameters", .list [.ofFields [("$ref", .text "#/paths/~1cats/get/parameters/0")]])])])]),
    ("components", .ofFields [
      ("pathItems", .ofFields [("Pets", .ofFields [("get", .ofFields [
        ("parameters", .list [.ofFields [("name", .text "limit")]])])])])])])

/-- Where a pointer goes through a reference, it matters which of the paths comes first. -/
example : straying.resolve.isOk = true ∧
    (straying.withEntries 7 [(.text "/dogs", 6), (.text "/cats", 1)]).resolve.isOk = false := by
  decide +kernel

end Document

end ApiBridge
