import ApiBridge.Proofs.Document.Stages

/-!
# When a document is resolved

Each function of resolving goes through certain places: where it returns, what stands in them leads
somewhere and has been followed, and where what stands in them leads somewhere, it returns. Put
together, a straight document is resolved exactly when what stands in its places leads somewhere.
-/

namespace ApiBridge

namespace Graph

variable {g : Graph} {i j u v w : NodeId} {k l : Scalar}

/-! ### Changes of graphs -/

lemma Entry.isSome_entries? (h : g.Entry i k w) : (g.entries? i).isSome := by
  obtain ⟨es, hes, -⟩ := h
  simp [hes]

lemma entry_setEntry (hk : g.Keyed) (h : g.Entry i k w) :
    (g.setEntry i k u).Entry j l v ↔
      (j = i ∧ l = k ∧ v = u) ∨ ¬(j = i ∧ l = k) ∧ g.Entry j l v := by
  obtain ⟨es, hes, hmem⟩ := h
  have keys := hk i
  rw [Graph.keys, hes, Option.getD_some] at keys
  by_cases hj : j = i
  · subst hj
    have entries : (g.setEntry j k u).entries? j = some (insertKey k u es) :=
      entries?_setEntry k u hes
    simp only [Entry, entries, hes, Option.some.injEq, exists_eq_left',
      mem_insertKey hmem keys, Prod.mk.injEq, true_and]
  · rw [Entry, entries?, setEntry, node_eq_of_entries? hes, node_put_of_ne hes hj]
    simp [hj, Entry, entries?]

lemma node_setEntry_of_ne (h : g.Entry i k w) (hj : j ≠ i) :
    (g.setEntry i k u).node j = g.node j := by
  obtain ⟨es, hes, -⟩ := h
  rw [setEntry, node_eq_of_entries? hes, node_put_of_ne hes hj]

lemma keys_setEntry (hk : g.Keyed) (h : g.Entry i k w) :
    (g.setEntry i k u).keys j = g.keys j := by
  obtain ⟨es, hes, hmem⟩ := h
  rw [setEntry, node_eq_of_entries? hes]
  exact keys_put hes (map_fst_insertKey (hk.lookupKey_of_mem hes hmem)) j

lemma isSome_entries?_setEntry (h : g.Entry i k w) :
    ((g.setEntry i k u).entries? j).isSome = (g.entries? j).isSome := by
  by_cases hj : j = i
  · subst hj
    obtain ⟨es, hes, -⟩ := h
    rw [entries?_setEntry k u hes, hes]
    rfl
  · rw [entries?, node_setEntry_of_ne h hj, ← entries?]

lemma size_setEntry : (g.setEntry i k u).nodes.size = g.nodes.size := by
  unfold setEntry
  split
  · simp [put]
  · rfl

lemma entries?_push_list (js : List NodeId) (i : NodeId) :
    (g.push (.list js)).2.entries? i = g.entries? i := by
  rw [entries?, node_push]
  split
  case isTrue heq =>
    rw [heq, entries?, node_of_size_le (Nat.le_refl _)]
    rfl
  case isFalse => rfl

lemma entry_push_list (js : List NodeId) :
    (g.push (.list js)).2.Entry i k v ↔ g.Entry i k v := by
  rw [Entry, entries?_push_list, Entry]

end Graph

namespace Document

open ApiBridge.Graph

variable {d d₁ d₂ : Document} {paths i j o u v w : NodeId} {k : Scalar}

/-! ### The next stage -/

lemma Listed.mono {g g' : Graph} (hg : ∀ q is, g.items? q = some is → g'.items? q = some is)
    {p q : NodeId} (h : d.Listed g p q) : d.Listed g' p q := by
  obtain ⟨is, js, his, hq, hjs, hl⟩ := h
  exact ⟨is, js, his, hq, hg q js hjs, hl⟩

lemma Became.mono {g g' : Graph} (hg : ∀ q is, g.items? q = some is → g'.items? q = some is)
    (h : d.Became paths g i k v w) : d.Became paths g' i k v w := by
  cases h with
  | same => exact .same
  | led hp h => exact .led hp h
  | listed hp h => exact .listed hp (h.mono hg)

namespace Stage

/-- An entry leads to a node that was there before, or to a list that was added. -/
lemma lt_size (hd : d.IsSound) (h : d.Stage paths d₁) (hw : d₁.graph.Entry i k w) :
    w < d₁.graph.nodes.size := by
  obtain ⟨v, hv, hb⟩ := h.entries i k w hw
  have hlt := hd.closed.lt_of_entry hv
  cases hb with
  | same => exact Nat.lt_of_lt_of_le hlt h.size
  | led _ hl => exact Nat.lt_of_lt_of_le (hl.lt_size hd hlt) h.size
  | listed _ hl =>
    obtain ⟨-, js, -, -, hjs, -⟩ := hl
    exact lt_size_of_items? hjs

/-- An entry of a map may come to lead to what it may become. -/
lemma setEntry (hd : d.IsSound) (h : d.Stage paths d₁) (hv : d.graph.Entry i k v)
    (hw : d₁.graph.Entry i k w) (hb : d.Became paths d₁.graph i k v u)
    (hu : u < d.graph.nodes.size ∨ u = w ∨ ∀ j l, ¬d₁.graph.Entry j l u) :
    d.Stage paths { d₁ with graph := d₁.graph.setEntry i k u } where
  root := h.root
  size := by
    rw [size_setEntry]
    exact h.size
  keys j := by rw [keys_setEntry (h.keyed hd.keyed) hw, h.keys]
  maps j := by rw [isSome_entries?_setEntry hw, h.maps]
  others j hj hn := by
    rw [node_setEntry_of_ne hw, h.others j hj hn]
    rintro rfl
    have := hv.isSome_entries?
    simp [hn] at this
  entries j l x hx := by
    have lists (q : NodeId) (is : List NodeId) (his : d₁.graph.items? q = some is) :
        (d₁.graph.setEntry i k u).items? q = some is := by
      rw [items?, node_setEntry_of_ne hw, ← items?, his]
      rintro rfl
      have := hw.isSome_entries?
      simp [entries?_eq_none_of_items? his] at this
    rcases (entry_setEntry (h.keyed hd.keyed) hw).1 hx with ⟨rfl, rfl, rfl⟩ | ⟨-, hx⟩
    · exact ⟨v, hv, hb.mono lists⟩
    · obtain ⟨y, hy, hb⟩ := h.entries j l x hx
      exact ⟨y, hy, hb.mono lists⟩
  apart a b la lb q hq ha hb := by
    have unused (x : NodeId) (lx : Scalar) (hx : d₁.graph.Entry x lx u)
        (hu' : d.graph.nodes.size ≤ u) : x = i := by
      rcases hu with hu | rfl | hu
      · exact absurd hu (Nat.not_lt.2 hu')
      · exact h.apart _ _ _ _ _ hu' hx hw
      · exact absurd hx (hu x lx)
    rcases (entry_setEntry (h.keyed hd.keyed) hw).1 ha with ⟨hai, -, hqu⟩ | ⟨-, ha'⟩
    · rcases (entry_setEntry (h.keyed hd.keyed) hw).1 hb with ⟨hbi, -⟩ | ⟨-, hb'⟩
      · exact hai.trans hbi.symm
      · rw [hqu] at hb' hq
        exact hai.trans (unused b lb hb' hq).symm
    · rcases (entry_setEntry (h.keyed hd.keyed) hw).1 hb with ⟨hbi, -, hqu⟩ | ⟨-, hb'⟩
      · rw [hqu] at ha' hq
        exact (unused a la ha' hq).trans hbi.symm
      · exact h.apart _ _ _ _ _ hq ha' hb'

/-- A list may be added. -/
lemma push (h : d.Stage paths d₁) (js : List NodeId) :
    d.Stage paths { d₁ with graph := (d₁.graph.push (.list js)).2 } where
  root := h.root
  size := by
    refine Nat.le_trans h.size ?_
    simp [Graph.push]
  keys i := by rw [Graph.keys, entries?_push_list, ← Graph.keys, h.keys]
  maps i := by rw [entries?_push_list, h.maps]
  others i hi hn := by
    rw [node_push_of_ne _ (Nat.ne_of_lt (Nat.lt_of_lt_of_le hi h.size)), h.others i hi hn]
  entries i k w hw := by
    obtain ⟨v, hv, hb⟩ := h.entries i k w ((entry_push_list js).1 hw)
    refine ⟨v, hv, hb.mono fun q is his => ?_⟩
    have hne : q ≠ d₁.graph.nodes.size := by
      rintro rfl
      simp [items?, node_of_size_le (Nat.le_refl _), Layer.items?] at his
    rw [items?, node_push_of_ne _ hne, ← items?, his]
  apart i j k l q hq hi hj :=
    h.apart i j k l q hq ((entry_push_list js).1 hi) ((entry_push_list js).1 hj)

end Stage

/-! ### What is done -/

/-- A place is done: what stands there is no reference, or the list of parameters was replaced. -/
def Done (d d₁ : Document) : Place → Prop
  | .entry i k => ∀ w, d₁.graph.Entry i k w → ¬d.graph.IsReference w
  | .parameters o => ∀ p is, d.graph.field? o "parameters" = some p →
      d.graph.items? p = some is →
        ∃ q, d₁.graph.Entry o (.text "parameters") q ∧ d.graph.nodes.size ≤ q

/-- A computation goes through some places: it returns if what stands there leads somewhere, and
then the places are done, besides those that were. -/
structure Does (d : Document) (paths : NodeId) (places : Place → Prop) (d₁ : Document)
    (x : Except ReferenceError Document) : Prop where
  returns : (∀ p, places p → d.Completes p) → ∃ d₂, x = .ok d₂
  stage : ∀ d₂, x = .ok d₂ → d.Stage paths d₂
  keeps : ∀ d₂, x = .ok d₂ → ∀ p, d.Done d₁ p → d.Done d₂ p
  done : ∀ d₂, x = .ok d₂ → ∀ p, places p → d.Completes p ∧ d.Done d₂ p

namespace Does

variable {S T : Place → Prop} {x : Except ReferenceError Document}
  {f : Document → Except ReferenceError Document}

lemma congr (h : d.Does paths S d₁ x) (hST : ∀ p, S p ↔ T p) : d.Does paths T d₁ x := by
  obtain rfl : S = T := funext fun p => propext (hST p)
  exact h

/-- Nothing is to be done where nothing stands. -/
lemma nothing (h : d.Stage paths d₁) (hS : ∀ p, S p → (∀ v, ¬d.Holds p v) ∧ d.Done d₁ p) :
    d.Does paths S d₁ (.ok d₁) where
  returns _ := ⟨d₁, rfl⟩
  stage d₂ h₂ := by
    cases h₂
    exact h
  keeps d₂ h₂ p hp := by
    cases h₂
    exact hp
  done d₂ h₂ p hp := by
    cases h₂
    exact ⟨fun v hv => absurd hv ((hS p hp).1 v), (hS p hp).2⟩

/-- A computation that goes through one place. -/
lemma place {p₀ : Place} (hreturns : d.Completes p₀ → ∃ d₂, x = .ok d₂)
    (h : ∀ d₂, x = .ok d₂ → d.Stage paths d₂ ∧ (∀ p, d.Done d₁ p → d.Done d₂ p) ∧
      d.Completes p₀ ∧ d.Done d₂ p₀) : d.Does paths (· = p₀) d₁ x where
  returns hc := hreturns (hc p₀ rfl)
  stage d₂ h₂ := (h d₂ h₂).1
  keeps d₂ h₂ := (h d₂ h₂).2.1
  done d₂ h₂ p hp := by
    subst hp
    exact (h d₂ h₂).2.2

lemma bind (hx : d.Does paths S d₁ x)
    (hf : ∀ d₂, d.Stage paths d₂ → x = .ok d₂ → d.Does paths T d₂ (f d₂)) :
    d.Does paths (fun p => S p ∨ T p) d₁ (x >>= f) where
  returns hc := by
    obtain ⟨d₂, h₂⟩ := hx.returns fun p hp => hc p (.inl hp)
    obtain ⟨d₃, h₃⟩ := (hf d₂ (hx.stage d₂ h₂) h₂).returns fun p hp => hc p (.inr hp)
    exact ⟨d₃, bind_eq_ok_iff.2 ⟨d₂, h₂, h₃⟩⟩
  stage d₃ h₃ := by
    obtain ⟨d₂, h₂, h₃⟩ := bind_eq_ok_iff.1 h₃
    exact (hf d₂ (hx.stage d₂ h₂) h₂).stage d₃ h₃
  keeps d₃ h₃ p hp := by
    obtain ⟨d₂, h₂, h₃⟩ := bind_eq_ok_iff.1 h₃
    exact (hf d₂ (hx.stage d₂ h₂) h₂).keeps d₃ h₃ p (hx.keeps d₂ h₂ p hp)
  done d₃ h₃ p hp := by
    obtain ⟨d₂, h₂, h₃⟩ := bind_eq_ok_iff.1 h₃
    have hf := hf d₂ (hx.stage d₂ h₂) h₂
    rcases hp with hp | hp
    · obtain ⟨hc, hdone⟩ := hx.done d₂ h₂ p hp
      exact ⟨hc, hf.keeps d₃ h₃ p hdone⟩
    · exact hf.done d₃ h₃ p hp

/-- One after another, all places are gone through. -/
lemma foldlM {α : Type} {f : Document → α → Except ReferenceError Document}
    {S : α → Place → Prop} {xs : List α}
    (hf : ∀ a ∈ xs, ∀ d₁, d.Stage paths d₁ → d.Does paths (S a) d₁ (f d₁ a))
    (h : d.Stage paths d₁) : d.Does paths (fun p => ∃ a ∈ xs, S a p) d₁ (xs.foldlM f d₁) := by
  induction xs generalizing d₁ with
  | nil => exact nothing h (by simp)
  | cons a xs ih =>
    rw [List.foldlM_cons]
    refine ((hf a (by simp) d₁ h).bind fun d₂ h₂ _ =>
      ih (fun b hb => hf b (by simp [hb])) h₂).congr fun p => ?_
    simp

end Does

/-! ### Methods -/

/-- The operation of a path item with a given method is resolved, if there is one. -/
def resolveMethod (item : NodeId) (d : Document) (m : Method) : Except ReferenceError Document :=
  match d.graph.field? item m.key with
  | some o => if (d.graph.entries? o).isSome then d.resolveOperation o else .ok d
  | none => .ok d

lemma resolvePathItem_eq (d : Document) (item : NodeId) :
    d.resolvePathItem item = d.resolveParameters item >>= Method.all.foldlM (resolveMethod item) :=
  rfl

/-! ### Single places -/

section Straight

variable (hd : d.IsSound) (hs : d.IsStraight paths) (h : d.Stage paths d₁)
include hd hs h

/-- What has become of an entry leads where the entry led. -/
lemma Stage.leads_of_became (hp : d.IsPlace paths (.entry i k)) (hv : d.graph.Entry i k v)
    (hb : d.Became paths d₁.graph i k v w) :
    (∀ u, d₁.Leads w u → d.Became paths d₁.graph i k v u ∧ (u = w ∨ d.Leads v u) ∧
      ∃ x, d.Leads v x) ∧ ∀ x, d.Leads v x → ∃ u, d₁.Leads w u := by
  cases hb with
  | same =>
    have hmet : d.IsMet paths v := .held hp (.entry hv)
    refine ⟨fun u hu => ?_, fun x hx => ⟨x, (h.leads_iff hd hs hmet).2 hx⟩⟩
    have hu := (h.leads_iff hd hs hmet).1 hu
    exact ⟨.led hp hu, .inr hu, u, hu⟩
  | led hp' hl =>
    have hw : ¬d₁.graph.IsReference w := by
      rw [h.isReference_iff]
      exact hl.not_isReference
    refine ⟨fun u hu => ?_, fun _ _ => ⟨w, .here hw⟩⟩
    obtain rfl := hu.eq_of_not_isReference hw
    exact ⟨.led hp hl, .inl rfl, u, hl⟩
  | listed hp' hl =>
    obtain ⟨is, js, his, -, hjs, -⟩ := id hl
    have hw : ¬d₁.graph.IsReference w :=
      not_isReference_of_entries? (entries?_eq_none_of_items? hjs)
    have hv : ¬d.graph.IsReference v :=
      not_isReference_of_entries? (entries?_eq_none_of_items? his)
    refine ⟨fun u hu => ?_, fun _ _ => ⟨w, .here hw⟩⟩
    obtain rfl := hu.eq_of_not_isReference hw
    exact ⟨.listed hp' hl, .inl rfl, v, .here hv⟩

omit hs in
/-- An update of an entry by what is no reference keeps places done. -/
lemma Stage.done_setEntry {p : Place} (hw : d₁.graph.Entry i k w) (hu : ¬d.graph.IsReference u)
    (hle : d.graph.nodes.size ≤ w → d.graph.nodes.size ≤ u) (hp : d.Done d₁ p) :
    d.Done { d₁ with graph := d₁.graph.setEntry i k u } p := by
  have entry {j : NodeId} {l : Scalar} {x : NodeId} :=
    entry_setEntry (j := j) (l := l) (v := x) (u := u) (h.keyed hd.keyed) hw
  cases p with
  | entry j l =>
    intro x hx
    rcases entry.1 hx with ⟨-, -, rfl⟩ | ⟨-, hx⟩
    · exact hu
    · exact hp x hx
  | parameters o =>
    intro p is hf his
    obtain ⟨q, hq, hle'⟩ := hp p is hf his
    by_cases heq : o = i ∧ .text "parameters" = k
    · refine ⟨u, entry.2 (.inl ⟨heq.1, heq.2, rfl⟩), hle ?_⟩
      obtain ⟨rfl, rfl⟩ := heq
      rwa [← (h.keyed hd.keyed).entry_unique hq hw]
    · exact ⟨q, entry.2 (.inr ⟨heq, hq⟩), hle'⟩

/-- An entry is made to lead where what it has become leads. -/
lemma Stage.replaceEntry (hp : d.IsPlace paths (.entry i k)) (hv : d.graph.Entry i k v)
    (hw : d₁.graph.Entry i k w) (hb : d.Became paths d₁.graph i k v w) (hu : d₁.Leads w u)
    {d₂ : Document} (h₂ : d₂ = { d₁ with graph := d₁.graph.setEntry i k u }) :
    d.Stage paths d₂ ∧ (∀ p, d.Done d₁ p → d.Done d₂ p) ∧
      d.Completes (.entry i k) ∧ d.Done d₂ (.entry i k) := by
  subst h₂
  obtain ⟨hb', hu', x, hx⟩ := (h.leads_of_became hd hs hp hv hb).1 u hu
  have hn : ¬d.graph.IsReference u := by
    rw [← h.isReference_iff]
    exact hu.not_isReference
  refine ⟨?_, fun p => h.done_setEntry hd hw hn fun hle => ?_, fun v' hv' => ?_, fun y hy => ?_⟩
  · refine h.setEntry hd hv hw hb' ?_
    rcases hu' with rfl | hl
    · exact .inr (.inl rfl)
    · exact .inl (hl.lt_size hd (hd.closed.lt_of_entry hv))
  · have hw' : ¬d₁.graph.IsReference w := by
      rw [h.isReference_iff]
      exact (settled_of_size_le hle).self
    rwa [hu.eq_of_not_isReference hw']
  · cases hv' with
    | entry hv' =>
      rw [hd.keyed.entry_unique hv' hv]
      exact ⟨x, hx⟩
  · rcases (entry_setEntry (h.keyed hd.keyed) hw).1 hy with ⟨-, -, rfl⟩ | ⟨hne, -⟩
    · exact hn
    · exact absurd ⟨rfl, rfl⟩ hne

lemma resolveEntry_does (hp : d.IsPlace paths (.entry i k))
    (hlook : ∀ w, (d₁.graph.entries? i).bind (lookupKey k) = some w ↔ d₁.graph.Entry i k w) :
    d.Does paths (· = .entry i k) d₁ (d₁.resolveEntry i k) := by
  unfold resolveEntry
  split
  case h_1 hn =>
    have none (w : NodeId) : ¬d₁.graph.Entry i k w := by
      rw [← hlook, hn]
      simp
    refine .nothing h fun p hp => ?_
    subst hp
    refine ⟨fun v hv => ?_, fun w hw => absurd hw (none w)⟩
    cases hv with
    | entry hv =>
      obtain ⟨w, hw, -⟩ := h.entry hd.keyed hv
      exact none w hw
  case h_2 w hw =>
    have hw := (hlook w).1 hw
    obtain ⟨v, hv, hb⟩ := h.entries i k w hw
    refine .place (fun hc => ?_) fun d₂ h₂ => ?_
    · obtain ⟨x, hx⟩ := hc v (.entry hv)
      obtain ⟨u, hu⟩ := (h.leads_of_became hd hs hp hv hb).2 x hx
      exact ⟨_, bind_eq_ok_iff.2 ⟨u, follow_eq_ok_iff.2 hu, rfl⟩⟩
    · obtain ⟨u, hu, h₂⟩ := bind_eq_ok_iff.1 h₂
      cases h₂
      exact h.replaceEntry hd hs hp hv hw hb (follow_eq_ok_iff.1 hu) rfl

/-! ### Lists of parameters -/

omit hd hs in
lemma Stage.items?_of_same {p : NodeId} {is : List NodeId} (hp : p < d.graph.nodes.size) :
    d₁.graph.items? p = some is ↔ d.graph.items? p = some is := by
  cases hn : d.graph.entries? p with
  | none => rw [items?, h.others p hp hn, items?]
  | some es =>
    obtain ⟨es', hes'⟩ := exists_entries?_of_isSome (h.maps p) hn
    simp [items?, node_eq_of_entries? hn, node_eq_of_entries? hes', Layer.items?]

omit h in
/-- What are parameters at a stage has come from parameters. -/
lemma Became.parameters {p : NodeId} (hp : d.graph.Entry o (.text "parameters") p)
    (hb : d.Became paths d₁.graph o (.text "parameters") p w) :
    w = p ∨ d.Listed d₁.graph p w := by
  cases hb with
  | same => exact .inl rfl
  | led hpl hl =>
    refine .inl (hl.eq_of_not_isReference fun hr => ?_)
    exact hs.names o "parameters" p hpl (hd.keyed.field?_iff.2 hp) hr (by decide)
  | listed _ hl => exact .inr hl

/-- The list of parameters at a stage holds the parameters, or what they lead to. -/
lemma Stage.items?_of_parameters {p : NodeId} {is : List NodeId}
    (hp : d.graph.Entry o (.text "parameters") p) (his : d.graph.items? p = some is)
    (hw : d₁.graph.Entry o (.text "parameters") w) :
    ∃ js, d₁.graph.items? w = some js ∧ List.Forall₂ (fun v w => w = v ∨ d.Leads v w) is js := by
  obtain ⟨p', hp', hb⟩ := h.entries _ _ _ hw
  obtain rfl := hd.keyed.entry_unique hp hp'
  rcases hb.parameters hd hs hp with rfl | hl
  · refine ⟨is, (h.items?_of_same (hd.closed.lt_of_entry hp)).2 his, ?_⟩
    exact List.forall₂_same.2 fun _ _ => .inl rfl
  · obtain ⟨is', js, his', -, hjs, hll⟩ := hl
    obtain rfl := Option.some.inj (his.symm.trans his')
    exact ⟨js, hjs, hll.imp fun _ _ => .inr⟩

/-- Followed from what they have become, parameters lead where they led. -/
lemma Stage.mapM_follow_iff {p : NodeId} {is js found : List NodeId}
    (hpl : d.IsPlace paths (.parameters o)) (hp : d.graph.field? o "parameters" = some p)
    (his : d.graph.items? p = some is)
    (hjs : List.Forall₂ (fun v w => w = v ∨ d.Leads v w) is js) :
    js.mapM d₁.follow = .ok found ↔ List.Forall₂ d.Leads is found := by
  have held (v : NodeId) (hv : v ∈ is) : d.IsMet paths v := .held hpl (.parameter hp his hv)
  clear his
  rw [mapM_eq_ok_iff]
  simp only [follow_eq_ok_iff]
  induction hjs generalizing found with
  | nil => simp only [List.forall₂_nil_left_iff]
  | @cons v w is js hvw _ ih =>
    have hmet : d.IsMet paths v := held v (by simp)
    have head (u : NodeId) : d₁.Leads w u ↔ d.Leads v u := by
      rcases hvw with rfl | hl
      · exact h.leads_iff hd hs hmet
      · constructor
        · intro hu
          rwa [hu.eq_of_not_isReference (by
            rw [h.isReference_iff]
            exact hl.not_isReference)]
        · intro hu
          obtain rfl := hl.unique hu
          refine .here ?_
          rw [h.isReference_iff]
          exact hl.not_isReference
    simp only [List.forall₂_cons_left_iff, head, ih fun v hv => held v (by simp [hv])]

omit hs in
/-- The list of parameters is replaced by what they lead to. -/
lemma Stage.replaceParameters {p : NodeId} {is found : List NodeId}
    (hpl : d.IsPlace paths (.parameters o)) (hp : d.graph.Entry o (.text "parameters") p)
    (his : d.graph.items? p = some is) (hfound : List.Forall₂ d.Leads is found)
    {d₂ : Document} (h₂ : d₂ =
      { d₁ with
        graph := (d₁.graph.push (.list found)).2.setEntry o (.text "parameters")
          d₁.graph.nodes.size }) :
    d.Stage paths d₂ ∧ (∀ p, d.Done d₁ p → d.Done d₂ p) ∧
      d.Completes (.parameters o) ∧ d.Done d₂ (.parameters o) := by
  obtain ⟨w, hw, -⟩ := h.entry hd.keyed hp
  have hpush := h.push found
  have hw' := (entry_push_list found).2 hw
  have listed : (d₁.graph.push (.list found)).2.items? d₁.graph.nodes.size = some found := by
    rw [items?, node_push, if_pos rfl]
    rfl
  have unused (j : NodeId) (l : Scalar) :
      ¬(d₁.graph.push (.list found)).2.Entry j l d₁.graph.nodes.size := by
    intro hj
    exact absurd (h.lt_size hd ((entry_push_list found).1 hj)) (Nat.lt_irrefl _)
  subst h₂
  refine ⟨?_, fun p' hp' => ?_, fun v hv => ?_, fun p' is' _ _ => ?_⟩
  · exact hpush.setEntry hd hp hw' (.listed hpl ⟨is, found, his, h.size, listed, hfound⟩)
      (.inr (.inr unused))
  · refine hpush.done_setEntry hd hw' (settled_of_size_le h.size).self (fun _ => h.size) ?_
    cases p' with
    | entry j l => exact fun x hx => hp' x ((entry_push_list found).1 hx)
    | parameters o' =>
      intro p'' is'' hp'' his''
      obtain ⟨q, hq, hle⟩ := hp' p'' is'' hp'' his''
      exact ⟨q, (entry_push_list found).2 hq, hle⟩
  · cases hv with
    | parameter hf his' hv =>
      obtain rfl := hd.keyed.entry_unique hp (hd.keyed.field?_iff.1 hf)
      obtain rfl := Option.some.inj (his.symm.trans his')
      obtain ⟨u, -, hu⟩ := exists_of_mem_left hfound hv
      exact ⟨u, hu⟩
  · exact ⟨_, (entry_setEntry (hpush.keyed hd.keyed) hw').2 (.inl ⟨rfl, rfl, rfl⟩), h.size⟩

lemma resolveParameters_does (hpl : d.IsPlace paths (.parameters o)) :
    d.Does paths (· = .parameters o) d₁ (d₁.resolveParameters o) := by
  unfold resolveParameters
  split
  case h_1 hn =>
    have none {p : NodeId} {is : List NodeId} (hp : d.graph.field? o "parameters" = some p)
        (his : d.graph.items? p = some is) : False := by
      have hp := hd.keyed.field?_iff.1 hp
      obtain ⟨w, hw, -⟩ := h.entry hd.keyed hp
      obtain ⟨js, hjs, -⟩ := h.items?_of_parameters hd hs hp his hw
      rw [(h.keyed hd.keyed).field?_iff.2 hw, Option.bind_some, hjs] at hn
      cases hn
    refine .nothing h fun p hp => ?_
    subst hp
    refine ⟨fun v hv => ?_, fun p is hp his => (none hp his).elim⟩
    cases hv with
    | parameter hp his => exact none hp his
  case h_2 js hjs =>
    obtain ⟨w, hw, hjs⟩ := Option.bind_eq_some_iff.1 hjs
    have hw := (h.keyed hd.keyed).field?_iff.1 hw
    obtain ⟨p, hp, hb⟩ := h.entries _ _ _ hw
    have hf := hd.keyed.field?_iff.2 hp
    obtain ⟨is, his⟩ : ∃ is, d.graph.items? p = some is := by
      rcases hb.parameters hd hs hp with rfl | ⟨is, -, his, -⟩
      · exact ⟨js, (h.items?_of_same (hd.closed.lt_of_entry hp)).1 hjs⟩
      · exact ⟨is, his⟩
    obtain ⟨js', hjs', hrel⟩ := h.items?_of_parameters hd hs hp his hw
    obtain rfl := Option.some.inj (hjs.symm.trans hjs')
    have follows (found : List NodeId) :
        js.mapM d₁.follow = .ok found ↔ List.Forall₂ d.Leads is found :=
      h.mapM_follow_iff hd hs hpl hf his hrel
    refine .place (fun hc => ?_) fun d₂ h₂ => ?_
    · obtain ⟨found, hfound⟩ : ∃ found, List.Forall₂ d.Leads is found :=
        exists_forall₂ fun v hv => hc v (.parameter hf his hv)
      exact ⟨_, bind_eq_ok_iff.2 ⟨found, (follows found).2 hfound, rfl⟩⟩
    · obtain ⟨found, hfound, h₂⟩ := bind_eq_ok_iff.1 h₂
      cases h₂
      exact h.replaceParameters hd hpl hp his ((follows found).1 hfound) rfl

/-! ### Operations, path items and paths -/

lemma resolveEntries_does {r : NodeId}
    (hp : ∀ k ∈ d.graph.keys r, d.IsPlace paths (.entry r k)) :
    d.Does paths (fun p => ∃ k ∈ d.graph.keys r, p = .entry r k) d₁ (d₁.resolveEntries r) := by
  unfold resolveEntries
  rw [← Graph.keys, h.keys]
  refine .foldlM (fun k hk d₂ h₂ => resolveEntry_does hd hs h₂ (hp k hk) fun w => ?_) h
  exact (h₂.keyed hd.keyed).lookup_iff_of_mem (by rwa [h₂.keys])

lemma resolveOperation_does (hp : ∀ p, d.InOperation o p → d.IsPlace paths p) :
    d.Does paths (d.InOperation o) d₁ (d₁.resolveOperation o) := by
  refine ((resolveParameters_does hd hs h (hp _ .parameters)).bind fun d₂ h₂ _ =>
    (resolveEntry_does hd hs h₂ (hp _ .body) fun w => (h₂.keyed hd.keyed).field?_iff).bind
      (T := fun p => ∃ r, d.graph.field? o "responses" = some r ∧
        ∃ k ∈ d.graph.keys r, p = .entry r k) fun d₃ h₃ _ => ?_).congr fun p => ?_
  · rw [h₃.field?_eq hd hs (by decide) (by decide)]
    cases hr : d.graph.field? o "responses" with
    | none => exact .nothing h₃ (by simp)
    | some r =>
      refine (resolveEntries_does hd hs h₃ fun k hk => hp _ (.response hr hk)).congr fun p => ?_
      simp
  constructor
  · rintro (rfl | rfl | ⟨r, hr, k, hk, rfl⟩)
    · exact .parameters
    · exact .body
    · exact .response hr hk
  · intro hp
    cases hp with
    | parameters => exact .inl rfl
    | body => exact .inr (.inl rfl)
    | response hr hk => exact .inr (.inr ⟨_, hr, _, hk, rfl⟩)

lemma resolveMethod_does {m : Method} (hp : ∀ p, d.InPathItem i p → d.IsPlace paths p) :
    d.Does paths (fun p => ∃ o, d.graph.field? i m.key = some o ∧ (d.graph.entries? o).isSome ∧
      d.InOperation o p) d₁ (d₁.resolveMethod i m) := by
  have hname : m.key ∈ partNames ∧ m.key ≠ "parameters" := by
    cases m with
    | _ => decide
  unfold resolveMethod
  rw [h.field?_eq hd hs hname.1 hname.2]
  cases ho : d.graph.field? i m.key with
  | none => exact .nothing h (by simp)
  | some o =>
    simp only [h.maps]
    split
    case isTrue hmap =>
      refine (resolveOperation_does hd hs h fun p ho' => hp p (.operation ho hmap ho')).congr
        fun p => ?_
      simp [hmap]
    case isFalse hmap => exact .nothing h (by simp [hmap])

lemma resolvePathItem_does (hp : ∀ p, d.InPathItem i p → d.IsPlace paths p) :
    d.Does paths (d.InPathItem i) d₁ (d₁.resolvePathItem i) := by
  rw [resolvePathItem_eq]
  refine ((resolveParameters_does hd hs h (hp _ .parameters)).bind fun d₂ h₂ _ =>
    Does.foldlM (fun m _ d₃ h₃ => resolveMethod_does hd hs h₃ hp) h₂).congr fun p => ?_
  constructor
  · rintro (rfl | ⟨m, -, o, ho, hmap, hp⟩)
    · exact .parameters
    · exact .operation ho hmap hp
  · intro hp
    cases hp with
    | parameters => exact .inl rfl
    | @operation m o _ ho hmap hp => exact .inr ⟨m, by cases m <;> decide, o, ho, hmap, hp⟩

omit hd hs h in
/-- Where an entry leads to a map, that is what it has become once it is followed: no list of
parameters is a map. -/
lemma Became.leads_iff_of_map {g' : Graph} (hb : d.Became paths g' i k v w)
    (hw : ¬d.graph.IsReference w) (hmap : (d.graph.entries? j).isSome) :
    d.Leads v j ↔ j = w := by
  constructor
  · intro hj
    cases hb with
    | same => exact hj.eq_of_not_isReference hw
    | led _ hl => exact hj.unique hl
    | listed _ hl =>
      obtain ⟨is, -, his, -⟩ := hl
      have hlist : d.graph.entries? v = none := entries?_eq_none_of_items? his
      rw [hj.eq_of_not_isReference (not_isReference_of_entries? hlist), hlist] at hmap
      cases hmap
  · rintro rfl
    cases hb with
    | same => exact .here hw
    | led _ hl => exact hl
    | listed _ hl =>
      obtain ⟨-, js, -, hle, -⟩ := hl
      simp [entries?, node_of_size_le hle, Layer.entries?] at hmap

lemma resolvePath_does (hk : k ∈ d.graph.keys paths) :
    d.Does paths (d.InPath paths k) d₁ (d₁.resolvePath paths k) := by
  have hplace : ∀ p, d.InPath paths k p → d.IsPlace paths p := fun p hp => ⟨k, hk, hp⟩
  have look (d₂ : Document) (h₂ : d.Stage paths d₂) (w : NodeId) :
      (d₂.graph.entries? paths).bind (lookupKey k) = some w ↔ d₂.graph.Entry paths k w :=
    (h₂.keyed hd.keyed).lookup_iff_of_mem (by rwa [h₂.keys])
  have hself := resolveEntry_does hd hs h (hplace _ .self) (look d₁ h)
  refine (hself.bind (T := fun p => ∃ v i, d.graph.Entry paths k v ∧ d.Leads v i ∧
    (d.graph.entries? i).isSome ∧ d.InPathItem i p) fun d₂ h₂ hx => ?_).congr fun p => ?_
  · obtain ⟨v, hv⟩ := mem_keys_iff.1 hk
    obtain ⟨w, hw, hb⟩ := h₂.entry hd.keyed hv
    have hw' : ¬d.graph.IsReference w := (hself.done d₂ hx _ rfl).2 w hw
    rw [(look d₂ h₂ w).2 hw]
    simp only [h₂.maps]
    split
    case isTrue hmap =>
      have hl : d.Leads v w := (hb.leads_iff_of_map hw' hmap).2 rfl
      refine (resolvePathItem_does hd hs h₂ fun p hp => hplace p (.item hv hl hmap hp)).congr
        fun p => ⟨fun hp => ⟨v, w, hv, hl, hmap, hp⟩, ?_⟩
      rintro ⟨v', i, hv', hi, hmap', hp⟩
      obtain rfl := hd.keyed.entry_unique hv hv'
      obtain rfl := (hb.leads_iff_of_map hw' hmap').1 hi
      exact hp
    case isFalse hmap =>
      refine .nothing h₂ ?_
      rintro p ⟨v', i, hv', hi, hmap', -⟩
      obtain rfl := hd.keyed.entry_unique hv hv'
      obtain rfl := (hb.leads_iff_of_map hw' hmap').1 hi
      exact absurd hmap' hmap
  · constructor
    · rintro (rfl | ⟨v, i, hv, hi, hmap, hp⟩)
      · exact .self
      · exact .item hv hi hmap hp
    · intro hp
      cases hp with
      | self => exact .inl rfl
      | item hv hi hmap hp => exact .inr ⟨_, _, hv, hi, hmap, hp⟩

end Straight

/-- Resolving a straight document goes through all its places. -/
theorem resolve_does (hd : d.IsSound) (hp : d.field? "paths" = some paths)
    (hs : d.IsStraight paths) : d.Does paths (d.IsPlace paths) d d.resolve := by
  obtain ⟨es, hes, -⟩ := Option.bind_eq_some_iff.1 hp
  have hes : d.graph.entries? d.root = some es := hes
  unfold resolve
  simp only [hes, hp]
  refine (Does.foldlM (fun e he d₁ h₁ => resolvePath_does hd hs h₁ ?_) (stage_self hd)).congr
    fun p => ?_
  · exact List.mem_map_of_mem he
  · simp only [IsPlace, Graph.keys, List.mem_map, exists_exists_and_eq_and]

/-- A straight document is resolved exactly when what stands in its places leads somewhere. -/
theorem resolve_returns_iff (hd : d.IsSound) (hp : d.field? "paths" = some paths)
    (hs : d.IsStraight paths) :
    (∃ d', d.resolve = .ok d') ↔ ∀ p, d.IsPlace paths p → d.Completes p := by
  have hdoes := resolve_does hd hp hs
  constructor
  · rintro ⟨d', h'⟩ p hp
    exact (hdoes.done d' h' p hp).1
  · exact hdoes.returns

end Document

end ApiBridge
