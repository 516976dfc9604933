import ApiBridge.Proofs.Document.Detour

/-!
# Resolving with a detour

Two documents that differ by a detour are resolved side by side: each step that the first one takes
the second one takes as well, and the results go together. So where the first document can be
resolved, the second can.
-/

namespace ApiBridge

namespace Document

open ApiBridge.Graph

variable {d d' e e' : Document} {paths n q i j o p v v' w : NodeId} {key : Scalar}
  {fixed ends : NodeId → Prop} {spot : Place}

/-! ### References that are gone -/

lemma not_holds_of_resolveParameters (h : d.resolveParameters o = .ok e)
    (hr : e.graph.IsReference v) : ¬e.Holds (.parameters o) v := by
  intro hv
  cases hv with
  | parameter hp his hv => exact (resolveParameters_eq_ok h).2 _ _ hp his v hv hr

lemma not_holds_of_resolveEntry (h : d.resolveEntry i key = .ok e) (hk : e.graph.Keyed)
    (hr : e.graph.IsReference v) : ¬e.Holds (.entry i key) v := by
  intro hv
  cases hv with
  | entry hv =>
    obtain ⟨es, hes, hl⟩ := Option.bind_eq_some_iff.1 (hk.lookup_entry hv)
    exact (resolveEntry_eq_ok h).2 es v hes hl hr

lemma not_holds_of_resolveEntries (h : d.resolveEntries i = .ok e) (hk : d.graph.Keyed)
    (hr : e.graph.IsReference v) : ¬e.Holds (.entry i key) v := by
  intro hv
  cases hv with
  | entry hv =>
    obtain ⟨es, hes, hmem⟩ := hv
    exact (resolveEntries_eq_ok h).2 hk es hes _ hmem hr

lemma resolveMethod_eq_ok {m : Method} (h : resolveMethod i d m = .ok e) : Evolves d e := by
  unfold resolveMethod at h
  split at h
  case h_1 o ho =>
    split at h
    case isTrue => exact (resolveOperation_eq_ok h).1
    case isFalse =>
      cases h
      exact .refl _
  case h_2 =>
    cases h
    exact .refl _

section Runs

variable (hD : Detour d d' paths n q fixed spot)
  (hfix : ∀ i, fixed i → ends i) (h : Abreast d d' paths n q fixed ends e e')
include hD h

omit h in
/-- The detour does not stand where operations and their responses do. -/
lemma Detour.spot_ne {name : String} (hr : ¬d.AreResponses paths o) (hname : name ≠ "requestBody") :
    spot ≠ .entry o (.text name) := by
  intro hs
  rcases (hD.spot_kind _ _ hs).2 with hk | ⟨hr', -⟩
  · exact hname (Scalar.text.inj hk)
  · exact hr hr'

namespace Abreast

/-! ### Single changes -/

/-- An entry is made to lead to the same in both documents. -/
lemma setEntry (hv : e.graph.Entry i key v) (hv' : e'.graph.Entry i key v') (hf : ¬fixed i)
    (hb : d.Becomes paths n ends { e with graph := e.graph.setEntry i key w })
    (he : Evolves d' { e' with graph := e'.graph.setEntry i key (d.shift d' w) })
    (hr : ¬e'.graph.IsReference (d.shift d' w)) :
    Abreast d d' paths n q fixed ends { e with graph := e.graph.setEntry i key w }
      { e' with graph := e'.graph.setEntry i key (d.shift d' w) } := by
  have hi : i < d.graph.nodes.size := h.lt_of_isMap hD hv.isSome_entries?
  refine ⟨hb, he, ?_, fun j hj => ?_, fun j hj => ?_, fun j hj hfj => ?_, fun j pos hj => ?_⟩
  · rw [size_setEntry, size_setEntry, h.size]
  · rw [node_setEntry_of_ne hv, h.kept j hj]
    rintro rfl
    exact hf hj
  · rw [node_setEntry_of_ne hv', h.kept' j hj]
    rintro rfl
    rcases hj with hj | ⟨hj, -⟩
    · exact hf hj
    · exact absurd hi (Nat.not_lt.2 hj)
  · rw [size_setEntry] at hj
    have hnode := h.node j hj hfj
    by_cases heq : j = i
    · subst heq
      obtain ⟨es, hes, -⟩ := hv
      obtain ⟨es', hes', -⟩ := hv'
      rw [shift_of_lt hi] at hnode ⊢
      rw [node_setEntry hes, node_setEntry hes', if_pos rfl, if_pos rfl]
      rw [node_eq_of_entries? hes, node_eq_of_entries? hes'] at hnode
      cases hnode with
      | map hl => exact .map (forall₂_insertKey_both hl key .same)
    · have hne : d.shift d' j ≠ i := by
        have hshift : d.shift d' i = i := shift_of_lt hi
        rw [← hshift, ne_eq, hD.shift_inj]
        exact heq
      rwa [node_setEntry_of_ne hv heq, node_setEntry_of_ne hv' hne]
  · rcases (part_setEntry (h.keyed' hD) hv').1 hj with ⟨-, -, rfl⟩ | ⟨-, hj⟩
    · exact absurd (h.reference hD) hr
    · exact h.slot j pos hj

/-- A list of parameters is replaced by the same list in both documents. -/
lemma withParameters {js : List NodeId} {p' : NodeId} (hp : e.graph.Entry o (.text "parameters") p)
    (hp' : e'.graph.Entry o (.text "parameters") p') (hf : ¬fixed o)
    (hb : d.Becomes paths n ends { e with graph := e.graph.withParameters o js })
    (he : Evolves d' { e' with graph := e'.graph.withParameters o (js.map (d.shift d')) })
    (hr : ∀ j ∈ js, ¬e'.graph.IsReference (d.shift d' j)) :
    Abreast d d' paths n q fixed ends { e with graph := e.graph.withParameters o js }
      { e' with graph := e'.graph.withParameters o (js.map (d.shift d')) } := by
  have ho : o < d.graph.nodes.size := h.lt_of_isMap hD hp.isSome_entries?
  have hle := h.le_size hD
  have hsize := h.size
  have hle' : d'.graph.nodes.size ≤ e'.graph.nodes.size := h.evolves.graph.size
  obtain ⟨es, hes, -⟩ := id hp
  obtain ⟨es', hes', -⟩ := id hp'
  refine ⟨hb, he, ?_, fun j hj => ?_, fun j hj => ?_, fun j hj hfj => ?_, fun j pos hj => ?_⟩
  · rw [size_withParameters, size_withParameters, hsize, shift_of_le hle,
      shift_of_le (Nat.le_succ_of_le hle)]
    omega
  · have hjo : j ≠ o := by
      rintro rfl
      exact hf hj
    have hjs : j ≠ e.graph.nodes.size :=
      Nat.ne_of_lt (Nat.lt_of_lt_of_le (hD.fixed_lt j hj) hle)
    rw [node_withParameters hes, if_neg hjo, if_neg hjs, h.kept j hj]
  · have hjo : j ≠ o := by
      rintro rfl
      rcases hj with hj | ⟨hj, -⟩
      · exact hf hj
      · exact absurd ho (Nat.not_lt.2 hj)
    have hjs : j ≠ e'.graph.nodes.size := by
      rcases hj with hj | ⟨-, hj⟩
      · exact Nat.ne_of_lt (Nat.lt_of_lt_of_le (hD.fixed_lt j hj) (Nat.le_trans hD.size hle'))
      · exact Nat.ne_of_lt (Nat.lt_of_lt_of_le hj hle')
    rw [node_withParameters hes', if_neg hjo, if_neg hjs, h.kept' j hj]
  · rw [size_withParameters] at hj
    rw [node_withParameters hes, node_withParameters hes']
    have shifted {i j : NodeId} : d.shift d' i = d.shift d' j ↔ i = j := hD.shift_inj
    by_cases hjo : j = o
    · subst hjo
      have hnode := h.node j (Nat.lt_of_lt_of_le ho hle) hfj
      rw [shift_of_lt ho, if_pos rfl, if_pos rfl, hsize]
      rw [shift_of_lt ho, node_eq_of_entries? hes, node_eq_of_entries? hes'] at hnode
      cases hnode with
      | map hl => exact .map (forall₂_insertKey_both hl _ .same)
    · have hjo' : d.shift d' j ≠ o := by
        have hshift : d.shift d' o = o := shift_of_lt ho
        rw [← hshift, ne_eq, shifted]
        exact hjo
      rw [if_neg hjo, if_neg hjo', hsize]
      by_cases hjs : j = e.graph.nodes.size
      · subst hjs
        rw [if_pos rfl, if_pos rfl]
        refine .list (List.forall₂_map_right_iff.2 (List.forall₂_same.2 fun _ _ => .same))
      · rw [if_neg hjs, if_neg (shifted.not.2 hjs)]
        exact h.node j (Nat.lt_of_le_of_ne (Nat.le_of_lt_succ hj) hjs) hfj
  · rcases (part_withParameters (h.keyed' hD) hp').1 hj with ⟨-, -, rfl⟩ | ⟨-, ⟨-, -, hmem⟩ | hj⟩
    · exact absurd (h.reference hD) (settled_of_size_le (Nat.le_refl _)).self
    · obtain ⟨i, hi, rfl⟩ := List.mem_map.1 hmem
      exact absurd (h.reference hD) (hr i hi)
    · exact h.slot j pos hj

/-! ### Single places -/

include hfix

lemma resolveEntry (hp : d.IsPlace paths (.entry i key))
    (hc : ∀ v, e.graph.Entry i key v → e.IsClear n ends v) (hi : i < d.graph.nodes.size)
    (hf : ¬fixed i) (hlook : ∀ w, (e.graph.entries? i).bind (lookupKey key) = some w →
      e.graph.Entry i key w) :
    Follows (Abreast d d' paths n q fixed ends) (e.resolveEntry i key) (e'.resolveEntry i key) := by
  have hlt := Nat.lt_of_lt_of_le hi (h.le_size hD)
  have hrel : Option.Rel (Across d d' n q) ((e.graph.entries? i).bind (lookupKey key))
      ((e'.graph.entries? i).bind (lookupKey key)) := by
    have hrel := (h.node i hlt hf).lookupKey key
    rwa [shift_of_lt hi] at hrel
  intro e₂ h₂
  unfold Document.resolveEntry at h₂
  generalize hx' : (e'.graph.entries? i).bind (lookupKey key) = x' at hrel
  split at h₂
  case h_1 hn =>
    rw [hn] at hrel
    cases h₂
    cases hrel with
    | none =>
      refine ⟨e', ?_, h⟩
      unfold Document.resolveEntry
      rw [hx']
  case h_2 v hv =>
    rw [hv] at hrel
    obtain ⟨w, hw, h₂⟩ := bind_eq_ok_iff.1 h₂
    cases h₂
    have hentry : e.graph.Part i (some key) v := hlook v hv
    have hw := follow_eq_ok_iff.1 hw
    cases hrel with
    | @some _ v' hvv' =>
      have hw' : e'.Leads v' (d.shift d' w) :=
        h.leads hD hfix (hc v hentry) (h.not_fixed hD hfix hf hentry)
          ((h.isSound hD).closed.lt_of_entry hentry) hw hvv'
      have hrun : e'.resolveEntry i key =
          .ok { e' with graph := e'.graph.setEntry i key (d.shift d' w) } := by
        unfold Document.resolveEntry
        rw [hx']
        exact bind_eq_ok_iff.2 ⟨_, follow_eq_ok_iff.2 hw', rfl⟩
      have hentry' : e'.graph.Entry i key v' := by
        refine ((h.keyed' hD).lookup_iff_of_mem ?_).1 hx'
        have hkeys := h.keys_eq hlt hf
        rw [shift_of_lt hi] at hkeys
        rw [hkeys]
        exact hentry.mem_keys
      exact ⟨_, hrun, h.setEntry hD hentry hentry' hf (.entry h.becomes hp hentry (hc v hentry) hw)
        (h.evolves.trans (resolveEntry_eq_ok hrun).1) hw'.not_isReference⟩

lemma leads_items {is is' js : List NodeId}
    (his : ∀ v ∈ is, e.IsClear n ends v ∧ ¬fixed v ∧ v < e.graph.nodes.size)
    (hrel : List.Forall₂ (Across d d' n q) is is') (hjs : List.Forall₂ e.Leads is js) :
    List.Forall₂ e'.Leads is' (js.map (d.shift d')) := by
  induction hrel generalizing js with
  | nil =>
    cases hjs
    exact .nil
  | cons hv _ ih =>
    cases hjs with
    | cons hw hjs =>
      obtain ⟨hc, hf, hlt⟩ := his _ List.mem_cons_self
      refine .cons (h.leads hD hfix hc hf hlt hw hv) (ih (fun v hv => ?_) hjs)
      exact his v (List.mem_cons_of_mem _ hv)

lemma resolveParameters (hc : ∀ v, e.Holds (.parameters o) v → e.IsClear n ends v)
    (ho : o < d.graph.nodes.size) (hf : ¬fixed o) (hr : ¬d.AreResponses paths o) :
    Follows (Abreast d d' paths n q fixed ends) (e.resolveParameters o) (e'.resolveParameters o) := by
  have hlt := Nat.lt_of_lt_of_le ho (h.le_size hD)
  have hfield : e'.graph.field? o "parameters" =
      (e.graph.field? o "parameters").map (d.shift d') := by
    have hname : "parameters" ≠ "requestBody" := by decide
    have hfield := h.field?_eq hD hlt hf (h.not_part hD (hD.spot_ne hr hname))
    rwa [shift_of_lt ho] at hfield
  have hrel : Option.Rel (List.Forall₂ (Across d d' n q))
      ((e.graph.field? o "parameters").bind e.graph.items?)
      ((e'.graph.field? o "parameters").bind e'.graph.items?) := by
    rw [hfield]
    cases hp : e.graph.field? o "parameters" with
    | none => exact .none
    | some p =>
      have hp : e.graph.Part o (some (.text "parameters")) p :=
        (h.isSound hD).keyed.field?_iff.1 hp
      exact (h.node p ((h.isSound hD).closed.lt_of_entry hp) (h.not_fixed hD hfix hf hp)).items?
  intro e₂ h₂
  unfold Document.resolveParameters at h₂
  generalize hx' : (e'.graph.field? o "parameters").bind e'.graph.items? = x' at hrel
  split at h₂
  case h_1 hn =>
    rw [hn] at hrel
    cases h₂
    cases hrel with
    | none =>
      refine ⟨e', ?_, h⟩
      unfold Document.resolveParameters
      rw [hx']
  case h_2 is his =>
    rw [his] at hrel
    obtain ⟨js, hjs, h₂⟩ := bind_eq_ok_iff.1 h₂
    cases h₂
    obtain ⟨p, hp, his⟩ := Option.bind_eq_some_iff.1 his
    have hentry : e.graph.Part o (some (.text "parameters")) p :=
      (h.isSound hD).keyed.field?_iff.1 hp
    have hjs : List.Forall₂ e.Leads is js :=
      (mapM_eq_ok_iff.1 hjs).imp fun _ _ => follow_eq_ok_iff.1
    cases hrel with
    | @some _ is' hrel =>
      have hjs' : List.Forall₂ e'.Leads is' (js.map (d.shift d')) := by
        refine h.leads_items hD hfix (fun v hv => ⟨?_, ?_, ?_⟩) hrel hjs
        · exact hc v (.parameter hp his hv)
        · exact h.not_fixed hD hfix (h.not_fixed hD hfix hf hentry) (part_item his hv)
        · exact (h.isSound hD).closed.lt_of_item his hv
      have hrun : e'.resolveParameters o =
          .ok { e' with graph := e'.graph.withParameters o (js.map (d.shift d')) } := by
        unfold Document.resolveParameters
        rw [hx']
        refine bind_eq_ok_iff.2 ⟨_, mapM_eq_ok_iff.2 ?_, rfl⟩
        exact hjs'.imp fun _ _ => follow_eq_ok_iff.2
      have hentry' : e'.graph.Entry o (.text "parameters") (d.shift d' p) := by
        refine (h.keyed' hD).field?_iff.1 ?_
        rw [hfield, hp]
        rfl
      refine ⟨_, hrun, h.withParameters hD hentry hentry' hf
        (.parameters h.becomes hp his (fun v hv => hc v (.parameter hp his hv)) hjs)
        (h.evolves.trans (resolveParameters_eq_ok hrun).1) fun j hj => ?_⟩
      obtain ⟨v', -, hv'⟩ := exists_of_mem_right hjs' (List.mem_map_of_mem hj)
      exact hv'.not_isReference

/-! ### Operations, path items and paths -/

lemma resolveEntries {r : NodeId} (hp : ∀ k ∈ e.graph.keys r, d.IsPlace paths (.entry r k))
    (hc : ∀ k e₁, ComesTo (Document.resolveEntry r) (e.graph.keys r) e k e₁ →
      e₁.IsClearAt n ends (.entry r k))
    (hlt : r < e.graph.nodes.size) (hf : ¬fixed r) :
    Follows (Abreast d d' paths n q fixed ends) (e.resolveEntries r)
      (e'.resolveEntries (d.shift d' r)) := by
  unfold Document.resolveEntries
  rw [← Graph.keys, ← Graph.keys, h.keys_eq hlt hf]
  cases hn : e.graph.entries? r with
  | none =>
    have hkeys : e.graph.keys r = [] := by rw [Graph.keys, hn, Option.getD_none, List.map_nil]
    rw [hkeys]
    exact .ok h
  | some es =>
    have hr : r < d.graph.nodes.size := h.lt_of_isMap hD (Option.isSome_of_mem hn)
    rw [shift_of_lt hr]
    refine .foldlM (fun k e₁ hk e₁' h₁ => ?_) h
    refine h₁.resolveEntry hD hfix (hp k hk.mem) (fun v hv => hc k e₁ hk v (.entry hv)) hr hf
      fun w => ((h₁.isSound hD).keyed.lookup_iff_of_mem ?_).1
    rw [(h₁.becomes.advances.evolves hD.sound).graph.keys_eq,
      ← (h.becomes.advances.evolves hD.sound).graph.keys_eq]
    exact hk.mem

/-- With an operation is resolved what stands in its places, the detour among it. -/
lemma resolveOperation {item op : NodeId} {m : Method} (hk : d.graph.Entry paths key item)
    (hitem : (d.graph.entries? item).isSome) (ho : d.graph.field? item m.key = some op)
    (hmap : (d.graph.entries? op).isSome)
    (hc : ∀ e₁ p, e.VisitsOperation op e₁ p → e₁.IsClearAt n ends p) (hf : ¬fixed op) :
    Follows (fun e e' => Abreast d d' paths n q fixed ends e e' ∧
        (d.InOperation op spot → ¬e'.Holds spot q))
      (e.resolveOperation op) (e'.resolveOperation op) := by
  have hlt := lt_size_of_entries? (Option.isSome_iff_exists.1 hmap).choose_spec
  have hop : ¬d.AreResponses paths op := fun hr =>
    (hD.ordered.apart _ hr).2 ⟨hmap, item, m, ⟨_, hk⟩, ho⟩
  have place (p : Place) (hp : d.InOperation op p) : d.IsPlace paths p :=
    hD.ordered.isPlace hk hitem (.operation ho hmap hp)
  unfold Document.resolveOperation
  refine (h.resolveParameters hD hfix (hc e _ .parameters) hlt hf hop).bind
    fun e₁ e₁' hx₁ hx₁' h₁ => ?_
  refine (h₁.resolveEntry hD hfix (place _ .body) (fun v hv => hc e₁ _ (.body hx₁) v (.entry hv))
    hlt hf fun w => (h₁.isSound hD).keyed.field?_iff.1).bind fun e₂ e₂' hx₂ hx₂' h₂ => ?_
  have hresponses : e₂.graph.field? op "responses" = d.graph.field? op "responses" :=
    h₂.becomes.advances.field?_eq hD.sound hD.ordered (by decide) hop
  have hfield : e₂'.graph.field? op "responses" =
      (d.graph.field? op "responses").map (d.shift d') := by
    have hname : "responses" ≠ "requestBody" := by decide
    have hfield := h₂.field?_eq hD (Nat.lt_of_lt_of_le hlt (h₂.le_size hD)) hf
      (h₂.not_part hD (hD.spot_ne hop hname))
    rwa [shift_of_lt hlt, hresponses] at hfield
  have hev₁ := (resolveEntry_eq_ok hx₂').1
  have parameters (hs : spot = .parameters op) : ¬e₂'.Holds spot q := by
    refine hD.not_holds h₁.evolves hev₁ ?_
    subst hs
    exact not_holds_of_resolveParameters hx₁' (h₁.reference hD)
  have body (hs : spot = .entry op (.text "requestBody")) : ¬e₂'.Holds spot q := by
    subst hs
    exact not_holds_of_resolveEntry hx₂' (h₂.keyed' hD) (h₂.reference hD)
  rw [hfield, hresponses]
  cases hr : d.graph.field? op "responses" with
  | none =>
    refine .ok ⟨h₂, fun hs => ?_⟩
    cases hs with
    | parameters => exact parameters rfl
    | body => exact body rfl
    | response hr' =>
      rw [hr] at hr'
      cases hr'
  | some r =>
    have hpart : e₂.graph.Part op (some (.text "responses")) r :=
      (h₂.isSound hD).keyed.field?_iff.1 (hresponses.trans hr)
    have hrun : Follows (Abreast d d' paths n q fixed ends) (e₂.resolveEntries r)
        (e₂'.resolveEntries (d.shift d' r)) := by
      refine h₂.resolveEntries hD hfix (fun k hk => place _ (.response hr ?_))
        (fun k e₃ hk => hc e₃ _ (.response hx₁ hx₂ (hresponses.trans hr) hk))
        ((h₂.isSound hD).closed.lt_of_entry hpart) (h₂.not_fixed hD hfix hf hpart)
      rwa [← (h₂.becomes.advances.evolves hD.sound).graph.keys_eq]
    intro e₃ hx₃
    obtain ⟨e₃', hx₃', h₃⟩ := hrun e₃ hx₃
    have hev₂ := (resolveEntries_eq_ok hx₃').1
    refine ⟨e₃', hx₃', h₃, fun hs => ?_⟩
    cases hs with
    | parameters => exact hD.not_holds h₂.evolves hev₂ (parameters rfl)
    | body => exact hD.not_holds h₂.evolves hev₂ (body rfl)
    | response hr' =>
      obtain rfl := Option.some.inj (hr.symm.trans hr')
      rw [shift_of_lt (hD.sound.closed.lt_of_entry (hD.sound.keyed.field?_iff.1 hr))] at hx₃'
      exact not_holds_of_resolveEntries hx₃' (h₂.keyed' hD) (h₃.reference hD)

lemma resolvePathItem {item : NodeId} (hk : d.graph.Entry paths key item)
    (hitem : (d.graph.entries? item).isSome)
    (hc : ∀ e₁ p, e.VisitsPathItem item e₁ p → e₁.IsClearAt n ends p) :
    Follows (fun e e' => Abreast d d' paths n q fixed ends e e' ∧ ∀ m ∈ Method.all, ∀ op,
        d.graph.field? item m.key = some op → (d.graph.entries? op).isSome →
          d.InOperation op spot → ¬e'.Holds spot q)
      (e.resolvePathItem item) (e'.resolvePathItem item) := by
  have hlt := hD.sound.closed.lt_of_entry hk
  have hf : ¬fixed item := fun hf => hD.fixed_paths (hD.fixed_part paths (some key) item hf hk).1
  have hop : ¬d.AreResponses paths item := fun hr => (hD.ordered.apart _ hr).1 ⟨_, hk⟩
  rw [resolvePathItem_eq, resolvePathItem_eq]
  refine (h.resolveParameters hD hfix (hc e _ .parameters) hlt hf hop).bind
    fun e₁ e₁' hx₁ _ h₁ => .foldlM_all (fun m e₂ hm e₂' h₂ => ?_) ?_ h₁
  · have hlt₂ := Nat.lt_of_lt_of_le hlt (h₂.le_size hD)
    have hm' : m.key ≠ "parameters" ∧ m.key ≠ "requestBody" := by cases m <;> decide
    have hmethod : e₂.graph.field? item m.key = d.graph.field? item m.key :=
      h₂.becomes.advances.field?_eq hD.sound hD.ordered hm' hop
    have hfield : e₂'.graph.field? item m.key =
        (d.graph.field? item m.key).map (d.shift d') := by
      have hfield := h₂.field?_eq hD hlt₂ hf (h₂.not_part hD (hD.spot_ne hop hm'.2))
      rwa [shift_of_lt hlt, hmethod] at hfield
    unfold resolveMethod
    rw [hfield, hmethod]
    cases ho : d.graph.field? item m.key with
    | none => exact .ok ⟨h₂, by simp⟩
    | some op =>
      have hpart : e₂.graph.Part item (some (.text m.key)) op :=
        (h₂.isSound hD).keyed.field?_iff.1 (hmethod.trans ho)
      have hfo := h₂.not_fixed hD hfix hf hpart
      have hlto := hD.sound.closed.lt_of_entry (hD.sound.keyed.field?_iff.1 ho)
      have hmap : (e₂.graph.entries? op).isSome = (d.graph.entries? op).isSome :=
        (h₂.becomes.advances.evolves hD.sound).graph.isSome_entries?_eq op
      have hmap' := h₂.isSome_entries?_eq (Nat.lt_of_lt_of_le hlto (h₂.le_size hD)) hfo
      rw [shift_of_lt hlto] at hmap'
      simp only [Option.map_some, shift_of_lt hlto, hmap', hmap]
      split
      case isTrue hmapo =>
        refine (h₂.resolveOperation hD hfix hk hitem ho hmapo (fun e₃ p hp => ?_) hfo).imp
          fun e₃ e₃' h₃ => ⟨h₃.1, fun op' hop' _ hs => ?_⟩
        · exact hc e₃ p (.operation hx₁ hm (hmethod.trans ho) (hmap.trans hmapo) hp)
        · cases hop'
          exact h₃.2 hs
      case isFalse hmapo =>
        refine .ok ⟨h₂, fun op' hop' hmapo' _ => ?_⟩
        cases hop'
        exact absurd hmapo' hmapo
  · intro m m' e₂ e₂' e₃' h₂ hx hd op ho hmap hs
    exact hD.not_holds h₂.evolves (resolveMethod_eq_ok hx) (hd op ho hmap hs)

/-- With the path under a key, the path item that stands there is resolved, if it is a map. -/
lemma resolvePath {item : NodeId} (hk : d.graph.Entry paths key item)
    (hc : e.IsClearAt n ends (.entry paths key))
    (hitem : ∀ e₁ i, e.resolveEntry paths key = .ok e₁ →
      (e₁.graph.entries? paths).bind (lookupKey key) = some i → (e₁.graph.entries? i).isSome →
        ∀ e₂ p, e₁.VisitsPathItem i e₂ p → e₂.IsClearAt n ends p) :
    Follows (fun e e' => Abreast d d' paths n q fixed ends e e' ∧
        ((d.graph.entries? item).isSome → ∀ m ∈ Method.all, ∀ op,
          d.graph.field? item m.key = some op → (d.graph.entries? op).isSome →
            d.InOperation op spot → ¬e'.Holds spot q))
      (e.resolvePath paths key) (e'.resolvePath paths key) := by
  have hpaths : paths < d.graph.nodes.size := lt_size_of_entries? hk.choose_spec.1
  have keys (e₁ : Document) (h₁ : d.Becomes paths n ends e₁) : key ∈ e₁.graph.keys paths := by
    rw [(h₁.advances.evolves hD.sound).graph.keys_eq]
    exact hk.mem_keys
  unfold Document.resolvePath
  refine (h.resolveEntry hD hfix ⟨key, hk.mem_keys, .self⟩ (fun v hv => hc v (.entry hv)) hpaths
    hD.fixed_paths fun w => ((h.isSound hD).keyed.lookup_iff_of_mem (keys e h.becomes)).1).bind
    fun e₁ e₁' hx₁ hx₁' h₁ => ?_
  obtain ⟨v, hv⟩ := mem_keys_iff.1 (keys e₁ h₁.becomes)
  have hlook := (h₁.isSound hD).keyed.lookup_entry hv
  have hlt₁ := Nat.lt_of_lt_of_le hpaths (h₁.le_size hD)
  obtain ⟨v', hlook', hvv'⟩ : ∃ v', (e₁'.graph.entries? paths).bind (lookupKey key) = some v' ∧
      Across d d' n q v v' := by
    have hrel := (h₁.node paths hlt₁ hD.fixed_paths).lookupKey key
    rw [shift_of_lt hpaths] at hrel
    have hlook₁ : (e₁.graph.node paths).entries?.bind (lookupKey key) = some v := hlook
    rw [hlook₁] at hrel
    generalize hx : (e₁'.graph.node paths).entries?.bind (lookupKey key) = x at hrel
    cases hrel with
    | some hvv' => exact ⟨_, hx, hvv'⟩
  -- What stands under the path is followed by now, so it is not the reference.
  have hv' : v' = d.shift d' v := by
    cases hvv' with
    | same => rfl
    | detour =>
      obtain ⟨es', hes', hl'⟩ := Option.bind_eq_some_iff.1 hlook'
      exact absurd (h₁.reference hD) ((resolveEntry_eq_ok hx₁').2 es' q hes' hl')
  subst hv'
  have hpart : e₁.graph.Part paths (some key) v := hv
  have hf : ¬fixed v := h₁.not_fixed hD hfix hD.fixed_paths hpart
  have hevolves := (h₁.becomes.advances.evolves hD.sound).graph
  simp only [hlook, hlook', h₁.isSome_entries?_eq ((h₁.isSound hD).closed.lt_of_entry hv) hf]
  split
  case isTrue hmap =>
    have hv₀ : v = item := by
      obtain ⟨es, hes, hl⟩ := Option.bind_eq_some_iff.1 hlook
      obtain ⟨es₀, k, v₀, hes₀, hl₀, -, hm⟩ := hevolves.lookup hes hl
      have hlook₀ := hD.sound.keyed.lookup_entry hk
      rw [hes₀, Option.bind_some, hl₀, Option.some.injEq] at hlook₀
      subst hlook₀
      cases hm with
      | kept => rfl
      | followed hr => exact absurd hr (hD.ordered.inline _ ⟨_, hk⟩)
      | listed hj => simp [hj] at hmap
    subst hv₀
    rw [shift_of_lt (hD.sound.closed.lt_of_entry hk)]
    refine (h₁.resolvePathItem hD hfix hk ?_ (hitem e₁ v hx₁ hlook hmap)).imp fun _ _ h₂ =>
      ⟨h₂.1, fun _ => h₂.2⟩
    rwa [← hevolves.isSome_entries?_eq]
  case isFalse hmap =>
    refine .ok ⟨h₁, fun hitem => absurd ?_ hmap⟩
    have hv₀ := h₁.becomes.advances.entry_of_isMap hD.sound hk (hD.ordered.inline _ ⟨_, hk⟩) hitem
    rw [(h₁.isSound hD).keyed.entry_unique hv hv₀, hevolves.isSome_entries?_eq]
    exact hitem

end Abreast

/-! ### Whole documents -/

omit h in
include hfix in
/-- Where a document can be resolved, the one with the detour can, and the results go together. The
detour does not stand in its spot any more. -/
theorem Detour.resolve {r : Document} {item op : NodeId} {m : Method}
    (hc : ∀ e p, d.Visits paths e p → e.IsClearAt n ends p) (hr : d.resolve = .ok r)
    (hk : d.graph.Entry paths key item) (hitem : (d.graph.entries? item).isSome)
    (ho : d.graph.field? item m.key = some op) (hop : (d.graph.entries? op).isSome)
    (hs : d.InOperation op spot) :
    ∃ r', d'.resolve = .ok r' ∧ Abreast d d' paths n q fixed ends r r' ∧ ¬r'.Holds spot q := by
  have hpaths : paths < d.graph.nodes.size := lt_size_of_entries? hk.choose_spec.1
  have hkeys : d'.graph.keys paths = d.graph.keys paths := by
    have hA : Abreast d d' paths n q fixed ends d d' := hD.abreast
    have hkeys := hA.keys_eq hpaths hD.fixed_paths
    rwa [shift_of_lt hpaths] at hkeys
  -- The keys of the paths are gone through.
  have run (e : Document) (hp : e.field? "paths" = some paths) :
      e.resolve = (e.graph.keys paths).foldlM (resolvePath paths) e := by
    obtain ⟨es, hes, -⟩ := Option.bind_eq_some_iff.1 hp
    have hes : e.graph.entries? e.root = some es := hes
    unfold Document.resolve
    simp only [hes, hp]
    rw [Graph.keys, List.foldlM_map]
  rw [run d hD.field] at hr
  rw [run d' hD.field', hkeys]
  have hfollows : Follows (fun e e' => Abreast d d' paths n q fixed ends e e' ∧
      ∀ key ∈ d.graph.keys paths, ∀ item, d.graph.Entry paths key item →
        (d.graph.entries? item).isSome → ∀ m ∈ Method.all, ∀ op,
          d.graph.field? item m.key = some op → (d.graph.entries? op).isSome →
            d.InOperation op spot → ¬e'.Holds spot q)
      ((d.graph.keys paths).foldlM (resolvePath paths) d)
      ((d.graph.keys paths).foldlM (resolvePath paths) d') := by
    refine Follows.foldlM_all (fun key e hk e' h => ?_) ?_ hD.abreast
    · obtain ⟨item, hitem⟩ := mem_keys_iff.1 hk.mem
      refine (h.resolvePath hD hfix hitem (hc e _ (.path hk)) fun e₁ i hx hi hmap e₂ p hp =>
        hc e₂ p (.item hk hx hi hmap hp)).imp fun e₁ e₁' h₁ => ⟨h₁.1, fun item' hitem' => ?_⟩
      obtain rfl := hD.sound.keyed.entry_unique hitem hitem'
      exact h₁.2
    · intro key key' e e' e'' h hx hd item hk hitem m hm op ho hop hs
      exact hD.not_holds h.evolves (resolvePath_eq_ok hx).1 (hd item hk hitem m hm op ho hop hs)
  obtain ⟨r', hr', hA, hdone⟩ := hfollows r hr
  exact ⟨r', hr', hA, hdone key hk.mem_keys item hk hitem m (by cases m <;> decide) op ho hop hs⟩

end Runs

end Document

end ApiBridge
