import ApiBridge.Proofs.Document.Becoming

/-!
# References that keep clear

In a straight document it can be told from the document as it is whether the references that are
followed, while it is resolved, keep clear of a node and of certain ends: places are come to at
stages, and what is met there leads where it led before.
-/

namespace ApiBridge

namespace Document

open ApiBridge.Graph

variable {d d₁ e : Document} {paths i n o p v w x x' z : NodeId} {place : Place}
  {ends : NodeId → Prop}

/-- No reference that is met leads to somewhere inside of the node `n`, and none leads to an end. -/
def KeepsClear (d : Document) (paths n : NodeId) (ends : NodeId → Prop) : Prop :=
  ∀ v target, d.IsMet paths v → target? d.graph v = some target →
    d.passes n target = false ∧ ∀ j, d.locate target = .ok j → ¬ends j

/-- It is enough to look at each node once, whether it is met or not. -/
lemma KeepsClear.of_nodes {l : List NodeId} (hl : ∀ j, ends j → j ∈ l)
    (h : ∀ i < d.graph.nodes.size, (target? d.graph i).all (fun target =>
      !d.passes n target && (d.locate target).toOption.all (!l.contains ·)) = true) :
    d.KeepsClear paths n ends := by
  intro v target _ ht
  obtain ⟨r, hr, -⟩ := Option.bind_eq_some_iff.1 ht
  obtain ⟨es, hes, -⟩ := Option.bind_eq_some_iff.1 hr
  have hall := h v (lt_size_of_entries? hes)
  rw [ht, Option.all_some, Bool.and_eq_true_iff, Bool.not_eq_true'] at hall
  refine ⟨hall.1, fun j hj hend => ?_⟩
  have hall := hall.2
  rw [hj, Except.toOption, Option.all_some, List.contains_iff_mem.2 (hl j hend)] at hall
  cases hall

lemma ComesTo.stage {α : Type} {f : Document → α → Except ReferenceError Document} {xs : List α}
    {a : α} {S : α → Place → Prop} (hc : ComesTo f xs d₁ a e) (h : d.Stage paths d₁)
    (hf : ∀ b ∈ xs, ∀ d₂, d.Stage paths d₂ → d.Does paths (S b) d₂ (f d₂ b)) :
    d.Stage paths e := by
  obtain ⟨before, after, rfl, hrun⟩ := hc
  exact (Does.foldlM (fun b hb => hf b (List.mem_append_left _ hb)) h).stage e hrun

/-- References that keep clear end nowhere else. -/
lemma KeepsClear.not_ends (hc : d.KeepsClear paths n ends) (hv : d.IsMet paths v)
    (hl : d.Leads v w) (hne : ¬ends v) : ¬ends w := by
  induction hl with
  | here => exact hne
  | @step v z w hz _ ih =>
    obtain ⟨r, target, hr, ht, hloc⟩ := next?_eq_some_iff.1 hz
    have htarget : target? d.graph v = some target := Option.bind_eq_some_iff.2 ⟨r, hr, ht⟩
    exact ih (hv.next hz) ((hc v target hv htarget).2 z hloc)

section Straight

variable (hd : d.IsSound) (hs : d.IsStraight paths) (h : d.Stage paths d₁)
include hd hs h

/-! ### Stages at which places are come to -/

lemma VisitsOperation.stage (hp : ∀ p, d.InOperation o p → d.IsPlace paths p)
    (hv : d₁.VisitsOperation o e place) : d.Stage paths e ∧ d.InOperation o place := by
  cases hv with
  | parameters => exact ⟨h, .parameters⟩
  | body h₁ => exact ⟨(resolveParameters_does hd hs h (hp _ .parameters)).stage _ h₁, .body⟩
  | @response e₁ e₂ _ r k h₁ h₂ hr hk =>
    have hs₁ := (resolveParameters_does hd hs h (hp _ .parameters)).stage _ h₁
    have hs₂ := (resolveEntry_does hd hs hs₁ (hp _ .body)
      fun w => (hs₁.keyed hd.keyed).field?_iff).stage _ h₂
    rw [hs₂.field?_eq hd hs (by decide) (by decide)] at hr
    have keys : e₂.graph.keys r = d.graph.keys r := hs₂.keys r
    rw [keys] at hk
    refine ⟨hk.stage (S := fun l p => p = .entry r l) hs₂ fun l hl d₂ hd₂ => ?_,
      .response hr hk.mem⟩
    refine resolveEntry_does hd hs hd₂ (hp _ (.response hr hl)) fun w => ?_
    exact (hd₂.keyed hd.keyed).lookup_iff_of_mem (by rwa [hd₂.keys])

lemma VisitsPathItem.stage (hp : ∀ p, d.InPathItem i p → d.IsPlace paths p)
    (hv : d₁.VisitsPathItem i e place) : d.Stage paths e ∧ d.InPathItem i place := by
  cases hv with
  | parameters => exact ⟨h, .parameters⟩
  | @operation e₁ e₂ _ m o _ h₁ hm ho hmap hv =>
    have hs₁ := (resolveParameters_does hd hs h (hp _ .parameters)).stage _ h₁
    have hs₂ := hm.stage hs₁ fun m _ d₂ hd₂ => resolveMethod_does hd hs hd₂ hp
    have hname : m.key ∈ partNames ∧ m.key ≠ "parameters" := by
      cases m with
      | _ => decide
    rw [hs₂.field?_eq hd hs hname.1 hname.2] at ho
    rw [hs₂.maps] at hmap
    obtain ⟨hse, hop⟩ := VisitsOperation.stage hd hs hs₂
      (fun p hop => hp p (.operation ho hmap hop)) hv
    exact ⟨hse, .operation ho hmap hop⟩

omit h in
/-- A place is come to at a stage, and it is a place of the document. -/
theorem Visits.stage (hv : d.Visits paths e place) : d.Stage paths e ∧ d.IsPlace paths place := by
  have start {k : Scalar} {e : Document}
      (hk : ComesTo (resolvePath paths) (d.graph.keys paths) d k e) : d.Stage paths e :=
    hk.stage (stage_self hd) fun l hl d₂ hd₂ => resolvePath_does hd hs hd₂ hl
  cases hv with
  | path hk => exact ⟨start hk, _, hk.mem, .self⟩
  | @item e₁ e₂ _ k item _ hk h₂ hi hmap hv =>
    have hs₁ := start hk
    have hplace : d.IsPlace paths (.entry paths k) := ⟨k, hk.mem, .self⟩
    have hdoes := resolveEntry_does hd hs hs₁ hplace fun w =>
      (hs₁.keyed hd.keyed).lookup_iff_of_mem (by rw [hs₁.keys]; exact hk.mem)
    have hs₂ := hdoes.stage _ h₂
    have hitem : e₂.graph.Entry paths k item :=
      ((hs₂.keyed hd.keyed).lookup_iff_of_mem (by rw [hs₂.keys]; exact hk.mem)).1 hi
    obtain ⟨v, hv₀, hb⟩ := hs₂.entries _ _ _ hitem
    rw [hs₂.maps] at hmap
    have hl : d.Leads v item :=
      (hb.leads_iff_of_map ((hdoes.done _ h₂ _ rfl).2 item hitem) hmap).2 rfl
    obtain ⟨hse, hin⟩ := VisitsPathItem.stage hd hs hs₂
      (fun p hp => ⟨k, hk.mem, .item hv₀ hl hmap hp⟩) hv
    exact ⟨hse, k, hk.mem, .item hv₀ hl hmap hin⟩

/-! ### What is met at a stage -/

/-- What stands in a place at a stage was met before, or it is no reference. -/
lemma Stage.isMet_of_holds (hp : d.IsPlace paths place) (hv : d₁.Holds place v) :
    d.IsMet paths v ∨ ¬d.graph.IsReference v := by
  cases hv with
  | entry hv =>
    obtain ⟨v₀, hv₀, hb⟩ := h.entries _ _ _ hv
    cases hb with
    | same => exact .inl (.held hp (.entry hv₀))
    | led _ hl => exact .inr hl.not_isReference
    | listed _ hl =>
      obtain ⟨-, -, -, hle, -⟩ := hl
      exact .inr (settled_of_size_le hle).self
  | @parameter o q _ js hq hjs hv =>
    have hq := (h.keyed hd.keyed).field?_iff.1 hq
    obtain ⟨p, hp₀, hb⟩ := h.entries _ _ _ hq
    obtain ⟨is, his⟩ : ∃ is, d.graph.items? p = some is := by
      rcases hb.parameters hd hs hp₀ with rfl | ⟨is, -, his, -⟩
      · exact ⟨js, (h.items?_of_same (hd.closed.lt_of_entry hp₀)).1 hjs⟩
      · exact ⟨is, his⟩
    obtain ⟨js', hjs', hrel⟩ := h.items?_of_parameters hd hs hp₀ his hq
    obtain rfl := Option.some.inj (hjs.symm.trans hjs')
    obtain ⟨v₀, hv₀, rfl | hl⟩ := exists_of_mem_right hrel hv
    · exact .inl (.held hp (.parameter (hd.keyed.field?_iff.2 hp₀) his hv₀))
    · exact .inr hl.not_isReference

/-- So it is with what is met from there. -/
lemma Stage.isMet_of_meets (hv : d.IsMet paths v ∨ ¬d.graph.IsReference v) (hz : d₁.Meets v z) :
    d.IsMet paths z ∨ ¬d.graph.IsReference z := by
  induction hz with
  | self => exact hv
  | @next v w z hw _ ih =>
    have hr := isReference_of_next? hw
    rw [h.isReference_iff] at hr
    have hmet := hv.resolve_right (not_not_intro hr)
    obtain ⟨y, hy, rfl | hl⟩ := (h.next?_alike hd hs hmet).2 w hw
    · exact ih (.inl (hmet.next hy))
    · exact ih (.inr hl.not_isReference)

omit hs in
lemma Stage.passesFrom_eq_false {target : String} {segments : List String}
    (hn : n < d.graph.nodes.size) (hx : x < d.graph.nodes.size) (ht : d.Turned d₁.graph x x')
    (hseg : isDirectFrom d.graph target x segments = true)
    (hpass : passesFrom d.graph n target x segments = false) :
    passesFrom d₁.graph n target x' segments = false := by
  induction segments generalizing x x' with
  | nil => rfl
  | cons s segments ih =>
    obtain ⟨hr, hseg⟩ := Bool.and_eq_true_iff.1 hseg
    have hr : ¬d.graph.IsReference x := by
      rw [IsReference, Option.isNone_iff_eq_none.1 hr]
      decide
    obtain ⟨hne, hpass⟩ := Bool.or_eq_false_iff.1 hpass
    have hne' : x' ≠ n := by
      cases ht with
      | same => exact beq_eq_false_iff_ne.1 hne
      | led hl =>
        rw [hl.eq_of_not_isReference hr]
        exact beq_eq_false_iff_ne.1 hne
      | listed hl =>
        obtain ⟨-, -, -, hle, -⟩ := hl
        exact (Nat.ne_of_lt (Nat.lt_of_lt_of_le hn hle)).symm
    rw [passesFrom, beq_eq_false_iff_ne.2 hne', Bool.false_or]
    have hstep := h.step_alike hd hx hr ht target s
    generalize Pointer.step d.graph target x s = y, Pointer.step d₁.graph target x' s = y'
      at hstep hseg hpass
    cases hstep with
    | ok hyy' => exact ih hyy'.1 hyy'.2 hseg hpass
    | error => rfl

omit hs in
lemma Stage.passes_eq_false {target : String} (hn : n < d.graph.nodes.size)
    (ht : d.isDirect target = true) (hpass : d.passes n target = false) :
    d₁.passes n target = false := by
  unfold passes isDirect at *
  rw [h.root]
  cases hseg : Pointer.segments? target with
  | none => rfl
  | some segments =>
    rw [hseg] at ht hpass
    exact h.passesFrom_eq_false hd hn hd.root .same ht hpass

omit h in
/-- Where references keep clear in the document as it is, they do while it is resolved. -/
theorem KeepsClear.isClearAt (hn : n < d.graph.nodes.size) (hc : d.KeepsClear paths n ends)
    (hv : d.Visits paths e place) : e.IsClearAt n ends place := by
  obtain ⟨h, hp⟩ := hv.stage hd hs
  intro v hv z target hz ht
  have hmet := h.isMet_of_meets hd hs (h.isMet_of_holds hd hs hp hv) hz
  rw [h.target?_eq hd hs] at ht
  have hr : d.graph.IsReference z := by
    obtain ⟨r, hr, -⟩ := Option.bind_eq_some_iff.1 ht
    exact Option.isSome_of_mem hr
  have hmet := hmet.resolve_right (not_not_intro hr)
  obtain ⟨hpass, hends⟩ := hc z target hmet ht
  have hdirect := hs.direct z target hmet ht
  refine ⟨h.passes_eq_false hd hn hdirect hpass, fun j hj => ?_⟩
  have hloc := h.locate_alike hd hdirect
  rw [hj] at hloc
  generalize hy : d.locate target = y at hloc
  cases hloc with
  | @ok y _ hyj =>
    rcases hyj with rfl | hl
    · exact hends j hy
    · have hnext : d.next? z = some y := by
        obtain ⟨r, hr, ht⟩ := Option.bind_eq_some_iff.1 ht
        exact next?_eq_some_iff.2 ⟨r, target, hr, ht, hy⟩
      exact hc.not_ends (hmet.next hnext) hl (hends y hy)

end Straight

end Document

end ApiBridge
