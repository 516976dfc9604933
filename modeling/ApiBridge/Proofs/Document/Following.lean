import ApiBridge.Proofs.Document.Resolution
import ApiBridge.Proofs.Walk

/-!
# Where references lead

A reference leads to one node in one step, or nowhere. Following one returns exactly where there is
a node at the end of the steps that is no reference: the targets on such a way are all different,
and there are no more of them than nodes.
-/

namespace ApiBridge

namespace Document

open ApiBridge.Graph

variable {d : Document} {i j k : NodeId}

/-! ### Steps of references -/

/-- The target of a reference, if it is a text. -/
def target? (g : Graph) (i : NodeId) : Option String :=
  (reference? g i).bind g.text?

/-- The node that a reference leads to in one step. -/
def next? (d : Document) (i : NodeId) : Option NodeId :=
  (target? d.graph i).bind fun target => (d.locate target).toOption

/-- References lead from a node to one that is none. -/
inductive Leads (d : Document) : NodeId → NodeId → Prop
  | here {i : NodeId} (h : ¬d.graph.IsReference i) : Leads d i i
  | step {i k j : NodeId} (h : d.next? i = some k) (hk : Leads d k j) : Leads d i j

lemma next?_eq_some_iff : d.next? i = some k ↔
    ∃ r target, reference? d.graph i = some r ∧ d.graph.text? r = some target ∧
      d.locate target = .ok k := by
  have located (target : String) :
      (d.locate target).toOption = some k ↔ d.locate target = .ok k := by
    cases d.locate target with
    | ok a => simp [Except.toOption]
    | error e => simp [Except.toOption]
  simp only [next?, target?, Option.bind_eq_some_iff, located]
  grind

lemma isReference_of_next? (h : d.next? i = some k) : d.graph.IsReference i := by
  obtain ⟨r, -, hr, -⟩ := next?_eq_some_iff.1 h
  simp [IsReference, hr]

lemma next?_eq_none (h : ¬d.graph.IsReference i) : d.next? i = none := by
  cases hi : d.next? i with
  | none => rfl
  | some k => exact absurd (isReference_of_next? hi) h

namespace Leads

lemma not_isReference (h : d.Leads i j) : ¬d.graph.IsReference j := by
  induction h with
  | here h => exact h
  | step _ _ ih => exact ih

lemma eq_of_not_isReference (h : d.Leads i j) (hi : ¬d.graph.IsReference i) : j = i := by
  cases h with
  | here => rfl
  | step h => exact absurd (isReference_of_next? h) hi

lemma unique (h : d.Leads i j) (h' : d.Leads i k) : j = k := by
  induction h with
  | here hi => exact (h'.eq_of_not_isReference hi).symm
  | step h _ ih =>
    cases h' with
    | here hi => exact absurd (isReference_of_next? h) hi
    | step h' hk' =>
      obtain rfl := Option.some.inj (h.symm.trans h')
      exact ih hk'

/-- The way to a node that is no reference meets, besides it, references only. -/
lemma walk (h : d.Leads i j) :
    ∃ way, Walk d.next? i way ∧ way ⊆ j :: List.range d.graph.nodes.size := by
  induction h with
  | here hi => exact ⟨_, .stop (next?_eq_none hi), by simp⟩
  | @step i k j hi _ ih =>
    obtain ⟨way, hway, hsub⟩ := ih
    obtain ⟨r, -, hr, -⟩ := next?_eq_some_iff.1 hi
    obtain ⟨es, hes, -⟩ := Option.bind_eq_some_iff.1 hr
    have hlt : i < d.graph.nodes.size := lt_size_of_entries? hes
    refine ⟨_, .step hi hway, List.cons_subset.2 ⟨?_, hsub⟩⟩
    exact List.mem_cons_of_mem _ (List.mem_range.2 hlt)

end Leads

/-! ### Following -/

lemma leads_of_followFrom {fuel : Nat} {seen : List String}
    (h : d.followFrom fuel seen i = .ok j) (hj : ¬d.graph.IsReference j) : d.Leads i j := by
  induction fuel generalizing seen i with
  | zero =>
    cases h
    exact .here hj
  | succ fuel ih =>
    rw [followFrom] at h
    split at h
    case h_1 =>
      cases h
      exact .here hj
    case h_2 r hr =>
      split at h
      case h_1 => simp [bind_eq_ok_iff] at h
      case h_2 target ht =>
        split at h
        case isTrue => simp at h
        case isFalse =>
          obtain ⟨k, hk, h⟩ := bind_eq_ok_iff.1 h
          exact .step (next?_eq_some_iff.2 ⟨r, target, hr, ht, hk⟩) (ih h)

/-- From what each target seen so far leads to, the node is met on the way. -/
lemma followFrom_of_leads {fuel : Nat} {seen : List String} {way : List NodeId}
    (h : d.Leads i j) (hway : Walk d.next? i way) (hlen : way.length ≤ fuel + 1)
    (hs : ∀ t ∈ seen, ∃ k way, d.locate t = .ok k ∧ Walk d.next? k way ∧ i ∈ way) :
    d.followFrom fuel seen i = .ok j := by
  induction h generalizing fuel seen way with
  | here hi =>
    cases fuel with
    | zero => rfl
    | succ fuel =>
      have hr : reference? d.graph _ = none := Option.not_isSome_iff_eq_none.1 hi
      simp only [followFrom, hr]
  | @step i k j hi _ ih =>
    cases hway with
    | stop hn => simp [hi] at hn
    | @step _ k' way hk' hway =>
      obtain rfl := Option.some.inj (hi.symm.trans hk')
      obtain ⟨r, target, hr, ht, hk⟩ := next?_eq_some_iff.1 hi
      cases fuel with
      | zero =>
        have := hway.length_pos
        simp only [List.length_cons] at hlen
        omega
      | succ fuel =>
        -- A target that was seen would lead back to the node, which is not met again.
        have hfresh : target ∉ seen := by
          intro hmem
          obtain ⟨k', way', hloc, hway', hi'⟩ := hs target hmem
          obtain rfl := Except.ok.inj (hk.symm.trans hloc)
          obtain rfl := hway.unique hway'
          exact (List.nodup_cons.1 (Walk.step hi hway).nodup).1 hi'
        simp only [followFrom, hr, ht, List.contains_iff_mem, hfresh, if_false, hk, bind,
          Except.bind]
        refine ih hway (by simpa using hlen) fun t hmem => ?_
        rcases List.mem_append.1 hmem with hmem | hmem
        · obtain ⟨k', way', hloc, hway', hi'⟩ := hs t hmem
          exact ⟨k', way', hloc, hway', hway'.next_mem hi' hi⟩
        · rw [List.mem_singleton.1 hmem]
          exact ⟨k, way, hk, hway, hway.mem_self⟩

/-- Following returns exactly the node that the references lead to. -/
theorem follow_eq_ok_iff : d.follow i = .ok j ↔ d.Leads i j := by
  constructor
  · intro h
    exact leads_of_followFrom h (follow_eq_ok h).1
  · intro h
    obtain ⟨way, hway, hsub⟩ := h.walk
    have hlen : way.length ≤ d.graph.nodes.size + 1 := by simpa using hway.length_le hsub
    exact followFrom_of_leads h hway (Nat.le_succ_of_le hlen) (by simp)

end Document

end ApiBridge
