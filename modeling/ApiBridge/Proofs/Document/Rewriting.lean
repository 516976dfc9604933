import ApiBridge.Proofs.Document.Detour

/-!
# Places that are settled

Resolving rewrites a document place by place: what stands in a place is followed, and what is found
takes its place. In this a place is settled, so that nothing in it is a reference any more, and it
stays settled whatever place is rewritten next, if no map of responses is at the same time the
document, a path item or an operation. `Document.Resolves` says of a computation which places it
rewrites.
-/

namespace ApiBridge

namespace Graph

/-- An entry of a map is what has become of an entry with its key. -/
lemma Evolves.exists_entry {g g' : Graph} {i w : NodeId} {k : Scalar} (h : Evolves g g')
    (hw : g'.Entry i k w) : ∃ v, g.Entry i k v ∧ Moved g g' (k, v) (k, w) := by
  obtain ⟨es', hes', hmem⟩ := hw
  cases hes : g.entries? i with
  | none => simp [h.entries?_eq_none hes] at hes'
  | some es =>
    obtain ⟨fs, hfs, hm⟩ := h.maps i es hes
    obtain rfl : fs = es' := Option.some.inj (hfs.symm.trans hes')
    obtain ⟨⟨k', v⟩, he, hmoved⟩ := exists_of_mem_right hm hmem
    obtain rfl : k' = k := hmoved.key_eq
    exact ⟨v, ⟨es, hes, he⟩, hmoved⟩

end Graph

namespace Document

open ApiBridge.Graph

variable {d e e' : Document} {paths i o v w : NodeId} {k : Scalar} {p q : Place}
  {ps qs : List Place}

/-! ### Single places -/

/-- The map that a place belongs to. -/
def Place.owner : Place → NodeId
  | entry i _ => i
  | parameters o => o

/-- Nothing that stands in a place is a reference. -/
def IsSettled (d : Document) (p : Place) : Prop :=
  ∀ v, d.Holds p v → ¬d.graph.IsReference v

/-- What stands in a place is followed, and what is found takes its place. -/
inductive Replaces (e : Document) : Place → Document → Prop
  | entry {i v w : NodeId} {k : Scalar} (hv : e.graph.Entry i k v) (hw : e.Leads v w) :
      Replaces e (.entry i k) { e with graph := e.graph.setEntry i k w }
  | parameters {o p : NodeId} {is js : List NodeId}
      (hf : e.graph.field? o "parameters" = some p) (his : e.graph.items? p = some is)
      (hjs : List.Forall₂ e.Leads is js) :
      Replaces e (.parameters o) { e with graph := e.graph.withParameters o js }
  | nothing {p : Place} (h : ∀ v, ¬e.Holds p v) : Replaces e p e

/-- One place after another is rewritten. -/
inductive Rewrites : Document → List Place → Document → Prop
  | nil {e : Document} : Rewrites e [] e
  | cons {e e' e'' : Document} {p : Place} {ps : List Place} (h : e.Replaces p e')
      (hr : Rewrites e' ps e'') : Rewrites e (p :: ps) e''

lemma Rewrites.append {e'' : Document} (h : e.Rewrites ps e') (h' : e'.Rewrites qs e'') :
    e.Rewrites (ps ++ qs) e'' := by
  induction h with
  | nil => exact h'
  | cons h _ ih => exact .cons h (ih h')

lemma Rewrites.single (h : e.Replaces p e') : e.Rewrites [p] e' :=
  .cons h .nil

/-- No map of responses is at the same time the document, a path item or an operation, and path
items stand where they are. -/
structure IsSeparate (d : Document) (paths : NodeId) : Prop extends d.IsOrdered paths where
  root : ¬d.AreResponses paths d.root

namespace Replaces

/-- What is no map with a place keeps its parts. -/
lemma node (h : e.Replaces p e') (hi : i < e.graph.nodes.size) (hp : i ≠ p.owner) :
    e'.graph.node i = e.graph.node i := by
  cases h with
  | entry hv => exact node_setEntry_of_ne hv hp
  | @parameters o _ _ _ hf =>
    obtain ⟨es, hes, -⟩ := Option.bind_eq_some_iff.1 hf
    have hp : i ≠ o := hp
    rw [node_withParameters hes, if_neg hp, if_neg (Nat.ne_of_lt hi)]
  | nothing => rfl

/-- An entry was there before, or it leads to what has been found, or to a new list. -/
lemma entry_cases (h : e.Replaces q e') (hk : e.graph.Keyed) (hw : e'.graph.Entry i k w) :
    e.graph.Entry i k w ∨
      (q = .entry i k ∧ ∃ v, e.graph.Entry i k v ∧ e.Leads v w) ∨
      (q = .parameters i ∧ k = .text "parameters" ∧ w = e.graph.nodes.size) := by
  cases h with
  | entry hv hlead =>
    rcases (entry_setEntry hk hv).1 hw with ⟨rfl, rfl, rfl⟩ | ⟨-, hw⟩
    · exact .inr (.inl ⟨rfl, _, hv, hlead⟩)
    · exact .inl hw
  | parameters hf =>
    have hw : (e.graph.withParameters _ _).Part i (some k) w := hw
    rcases (part_withParameters hk (hk.field?_iff.1 hf)).1 hw with ⟨rfl, hk, rfl⟩ | ⟨-, h | hw⟩
    · exact .inr (.inr ⟨rfl, Option.some.inj hk, rfl⟩)
    · cases h.2.1
    · exact .inl hw
  | nothing => exact .inl hw

/-- A list was there before, or it is the new one, of what parameters lead to. -/
lemma items?_cases {js : List NodeId} (h : e.Replaces q e') (hjs : e'.graph.items? w = some js) :
    e.graph.items? w = some js ∨
      (w = e.graph.nodes.size ∧ ∃ is, List.Forall₂ e.Leads is js) := by
  cases h with
  | entry hv =>
    obtain ⟨es, hes, -⟩ := id hv
    rw [items?, node_setEntry hes] at hjs
    split at hjs
    case isTrue => cases hjs
    case isFalse => exact .inl hjs
  | @parameters o _ is js' hf _ hlead =>
    obtain ⟨es, hes, -⟩ := Option.bind_eq_some_iff.1 hf
    rw [items?, node_withParameters hes] at hjs
    split at hjs
    case isTrue => cases hjs
    case isFalse =>
      split at hjs
      case isTrue hsize =>
        cases hjs
        exact .inr ⟨hsize, is, hlead⟩
      case isFalse => exact .inl hjs
  | nothing => exact .inl hjs

/-- Behind the last node there is no list. -/
lemma items?_size : e.graph.items? e.graph.nodes.size = none := by
  rw [items?, node_of_size_le (Nat.le_refl _)]
  rfl

/-- What is in a new list is no reference. -/
lemma not_isReference_of_items? {js : List NodeId} (h : e.Replaces q e')
    (hjs : e'.graph.items? e.graph.nodes.size = some js) (hv : v ∈ js) :
    ¬e.graph.IsReference v := by
  rcases h.items?_cases hjs with hjs | ⟨-, is, hlead⟩
  · rw [items?_size] at hjs
    cases hjs
  · obtain ⟨u, -, hu⟩ := exists_of_mem_right hlead hv
    exact hu.not_isReference

end Replaces

namespace Advances

variable (he : d.Advances paths e)
include he

lemma isReference_iff (hd : d.IsSound) : e.graph.IsReference v ↔ d.graph.IsReference v :=
  (he.evolves hd).graph.isReference_iff

lemma replaces (hp : d.IsPlace paths p) (h : e.Replaces p e') : d.Advances paths e' := by
  cases h with
  | entry hv hw => exact .entry he hp hv hw
  | parameters hf his hjs => exact .parameters he hf his hjs
  | nothing => exact he

lemma rewrites (hps : ∀ p ∈ ps, d.IsPlace paths p) (h : e.Rewrites ps e') :
    d.Advances paths e' := by
  induction h with
  | nil => exact he
  | cons h _ ih =>
    rw [List.forall_mem_cons] at hps
    exact ih (he.replaces hps.1 h) hps.2

end Advances

/-! ### Runs through places -/

section Separate

variable (hd : d.IsSound) (hs : d.IsSeparate paths) (he : d.Advances paths e)
include hd he

/-- The place that is rewritten is settled. -/
lemma Replaces.isSettled (hp : d.IsPlace paths p) (h : e.Replaces p e') : e'.IsSettled p := by
  have he' := he.replaces hp h
  intro v hv
  rw [he'.isReference_iff hd, ← he.isReference_iff hd]
  cases h with
  | @entry i u w k hu hlead =>
    cases hv with
    | entry hv =>
      rcases (entry_setEntry (he.isSound hd).keyed hu).1 hv with ⟨-, -, rfl⟩ | ⟨hne, -⟩
      · exact hlead.not_isReference
      · exact absurd ⟨rfl, rfl⟩ hne
  | @parameters o p is js hf his hlead =>
    have hk := (he.isSound hd).keyed
    cases hv with
    | @parameter _ q _ js' hq hjs hv =>
      have hq : (e.graph.withParameters o js).Part o (some (.text "parameters")) q :=
        (he'.isSound hd).keyed.field?_iff.1 hq
      rcases (part_withParameters hk (hk.field?_iff.1 hf)).1 hq with ⟨-, -, rfl⟩ | ⟨hne, -⟩
      · exact (Replaces.parameters hf his hlead).not_isReference_of_items? hjs hv
      · exact absurd ⟨rfl, rfl⟩ hne
  | nothing h => exact absurd hv (h v)

include hs

/-- What stands under the key of parameters is followed only where it is no reference. -/
lemma Advances.eq_of_leads (hp : d.IsPlace paths (.parameters o))
    (hq : d.IsPlace paths (.entry o (.text "parameters")))
    (hv : e.graph.Entry o (.text "parameters") v) (hw : e.Leads v w) : w = v := by
  rcases hs.place_cases hq with rfl | hk | hr
  · exact hw.eq_of_not_isReference (he.not_isReference_of_path hd hs.toIsOrdered hv)
  · exact absurd (Scalar.text.inj hk) (by decide)
  · obtain ⟨hitem, hop⟩ := hs.apart o hr
    cases hs.belongs hp with
    | parameters h => exact (h.elim hitem hop).elim

/-- A place stays settled when another one is rewritten. -/
lemma IsSettled.replaces (hset : e.IsSettled p) (hp : d.IsPlace paths p) (hq : d.IsPlace paths q)
    (h : e.Replaces q e') : e'.IsSettled p := by
  have he' := he.replaces hq h
  have hk := (he.isSound hd).keyed
  intro v hv
  rw [he'.isReference_iff hd, ← he.isReference_iff hd]
  cases hv with
  | entry hv =>
    rcases h.entry_cases hk hv with hv | ⟨-, u, -, hu⟩ | ⟨-, -, rfl⟩
    · exact hset v (.entry hv)
    · exact hu.not_isReference
    · exact (settled_of_size_le (Nat.le_refl _)).self
  | @parameter o f _ is hf his hv =>
    have held (hf : e.graph.Entry o (.text "parameters") f) : ¬e.graph.IsReference v := by
      rcases h.items?_cases his with his | ⟨rfl, -⟩
      · exact hset v (.parameter (hk.field?_iff.2 hf) his hv)
      · exact h.not_isReference_of_items? his hv
    rcases h.entry_cases hk ((he'.isSound hd).keyed.field?_iff.1 hf) with
      hf | ⟨rfl, u, hu, hlead⟩ | ⟨-, -, rfl⟩
    · exact held hf
    · rw [he.eq_of_leads hd hs hp hq hu hlead] at held
      exact held hu
    · exact h.not_isReference_of_items? his hv

lemma IsSettled.rewrites (hset : e.IsSettled p) (hp : d.IsPlace paths p)
    (hps : ∀ q ∈ ps, d.IsPlace paths q) (h : e.Rewrites ps e') : e'.IsSettled p := by
  induction h with
  | nil => exact hset
  | cons h _ ih =>
    rw [List.forall_mem_cons] at hps
    exact ih (he.replaces hps.1 h) (hset.replaces hd hs he hp hps.1 h) hps.2

/-- All places that are rewritten are settled in the end. -/
theorem Rewrites.isSettled (hps : ∀ p ∈ ps, d.IsPlace paths p) (h : e.Rewrites ps e') :
    ∀ p ∈ ps, e'.IsSettled p := by
  induction h with
  | nil => simp
  | @cons e e₁ e' p ps h hrest ih =>
    rw [List.forall_mem_cons] at hps
    have he₁ := he.replaces hps.1 h
    refine List.forall_mem_cons.2 ⟨?_, ih he₁ hps.2⟩
    exact (h.isSettled hd he hps.1).rewrites hd hs he₁ hps.1 hps.2 hrest

end Separate

/-! ### Computations -/

/-- A computation rewrites some places, one after another, and it returns where they are settled
before. -/
structure Resolves (d : Document) (paths : NodeId) (S : Place → Prop) (e : Document)
    (x : Except ReferenceError Document) : Prop where
  places : ∀ p, S p → d.IsPlace paths p
  rewrites : ∀ e', x = .ok e' → ∃ ps, (∀ p, p ∈ ps ↔ S p) ∧ e.Rewrites ps e'
  returns : (∀ p, S p → e.IsSettled p) → ∃ e', x = .ok e'

namespace Resolves

variable {S T : Place → Prop} {x : Except ReferenceError Document}
  {f : Document → Except ReferenceError Document}

lemma congr (h : d.Resolves paths S e x) (hST : ∀ p, S p ↔ T p) : d.Resolves paths T e x := by
  obtain rfl : S = T := funext fun p => propext (hST p)
  exact h

lemma none (hS : ∀ p, ¬S p) : d.Resolves paths S e (.ok e) where
  places p hp := absurd hp (hS p)
  rewrites e' h := by
    cases h
    exact ⟨[], by simpa using hS, .nil⟩
  returns _ := ⟨e, rfl⟩

/-- A computation that rewrites one place. -/
lemma place (hp : d.IsPlace paths p) (h : ∀ e', x = .ok e' → e.Replaces p e')
    (hreturns : e.IsSettled p → ∃ e', x = .ok e') : d.Resolves paths (· = p) e x where
  places q hq := by rwa [hq]
  rewrites e' h' := ⟨[p], by simp, .single (h e' h')⟩
  returns hset := hreturns (hset p rfl)

lemma advances (h : d.Resolves paths S e x) (he : d.Advances paths e) (hx : x = .ok e') :
    d.Advances paths e' := by
  obtain ⟨ps, hps, hrun⟩ := h.rewrites e' hx
  exact he.rewrites (fun p hp => h.places p ((hps p).1 hp)) hrun

section Separate

variable (hd : d.IsSound) (hs : d.IsSeparate paths) (he : d.Advances paths e)
include hd hs he

lemma bind (hx : d.Resolves paths S e x) (hT : ∀ p, T p → d.IsPlace paths p)
    (hf : ∀ e', d.Advances paths e' → x = .ok e' → d.Resolves paths T e' (f e')) :
    d.Resolves paths (fun p => S p ∨ T p) e (x >>= f) where
  places p hp := hp.elim (hx.places p) (hT p)
  rewrites e'' h'' := by
    obtain ⟨e', h', h''⟩ := bind_eq_ok_iff.1 h''
    obtain ⟨ps, hps, hrun⟩ := hx.rewrites e' h'
    obtain ⟨qs, hqs, hrun'⟩ := (hf e' (hx.advances he h') h').rewrites e'' h''
    exact ⟨ps ++ qs, fun p => by rw [List.mem_append, hps, hqs], hrun.append hrun'⟩
  returns hset := by
    obtain ⟨e', h'⟩ := hx.returns fun p hp => hset p (.inl hp)
    obtain ⟨ps, hps, hrun⟩ := hx.rewrites e' h'
    obtain ⟨e'', h''⟩ := (hf e' (hx.advances he h') h').returns fun p hp =>
      (hset p (.inr hp)).rewrites hd hs he (hT p hp) (fun q hq => hx.places q ((hps q).1 hq)) hrun
    exact ⟨e'', bind_eq_ok_iff.2 ⟨e', h', h''⟩⟩

lemma foldlM {α : Type} {f : Document → α → Except ReferenceError Document}
    {S : α → Place → Prop} {xs : List α} (hS : ∀ a ∈ xs, ∀ p, S a p → d.IsPlace paths p)
    (hf : ∀ a ∈ xs, ∀ e, d.Advances paths e → d.Resolves paths (S a) e (f e a)) :
    d.Resolves paths (fun p => ∃ a ∈ xs, S a p) e (xs.foldlM f e) := by
  induction xs generalizing e with
  | nil => exact none (by simp)
  | cons a xs ih =>
    rw [List.foldlM_cons]
    refine (bind hd hs he (T := fun p => ∃ a ∈ xs, S a p) (hf a (by simp) e he) ?_
      fun e' he' _ => ih he' ?_ ?_).congr fun p => ?_
    · rintro p ⟨b, hb, hp⟩
      exact hS b (by simp [hb]) p hp
    · exact fun b hb => hS b (by simp [hb])
    · exact fun b hb => hf b (by simp [hb])
    · simp

end Separate

end Resolves

/-! ### Functions of resolving -/

lemma follow_of_not_isReference (h : ¬e.graph.IsReference v) : e.follow v = .ok v :=
  follow_eq_ok_iff.2 (.here h)

lemma resolveEntry_resolves (hp : d.IsPlace paths (.entry i k))
    (hlook : ∀ w, (e.graph.entries? i).bind (lookupKey k) = some w ↔ e.graph.Entry i k w) :
    d.Resolves paths (· = .entry i k) e (e.resolveEntry i k) := by
  unfold resolveEntry
  split
  case h_1 hn =>
    refine .place hp (fun e' h => ?_) fun _ => ⟨e, rfl⟩
    cases h
    refine .nothing fun v hv => ?_
    cases hv with
    | entry hv =>
      rw [(hlook v).2 hv] at hn
      cases hn
  case h_2 v hv =>
    have hv := (hlook v).1 hv
    refine .place hp (fun e' h => ?_) fun hset => ?_
    · obtain ⟨w, hw, h⟩ := bind_eq_ok_iff.1 h
      cases h
      exact .entry hv (follow_eq_ok_iff.1 hw)
    · exact ⟨_, bind_eq_ok_iff.2 ⟨v, follow_of_not_isReference (hset v (.entry hv)), rfl⟩⟩

lemma resolveParameters_resolves (hp : d.IsPlace paths (.parameters o)) :
    d.Resolves paths (· = .parameters o) e (e.resolveParameters o) := by
  unfold resolveParameters
  split
  case h_1 hn =>
    refine .place hp (fun e' h => ?_) fun _ => ⟨e, rfl⟩
    cases h
    refine .nothing fun v hv => ?_
    cases hv with
    | parameter hf his =>
      rw [hf, Option.bind_some, his] at hn
      cases hn
  case h_2 is his =>
    obtain ⟨p, hf, his⟩ := Option.bind_eq_some_iff.1 his
    refine .place hp (fun e' h => ?_) fun hset => ?_
    · obtain ⟨js, hjs, h⟩ := bind_eq_ok_iff.1 h
      cases h
      exact .parameters hf his ((mapM_eq_ok_iff.1 hjs).imp fun _ _ => follow_eq_ok_iff.1)
    · obtain ⟨js, hjs⟩ := mapM_returns fun v hv =>
        ⟨v, follow_of_not_isReference (hset v (.parameter hf his hv))⟩
      exact ⟨_, bind_eq_ok_iff.2 ⟨js, hjs, rfl⟩⟩

section Separate

variable (hd : d.IsSound) (hs : d.IsSeparate paths) (he : d.Advances paths e)
include hd hs he

lemma resolveEntries_resolves {r : NodeId}
    (hp : ∀ k ∈ d.graph.keys r, d.IsPlace paths (.entry r k)) :
    d.Resolves paths (fun p => ∃ k ∈ d.graph.keys r, p = .entry r k) e (e.resolveEntries r) := by
  unfold resolveEntries
  rw [← Graph.keys, (he.evolves hd).graph.keys_eq]
  refine .foldlM hd hs he (fun k hk p => ?_) fun k hk e₁ he₁ => ?_
  · rintro rfl
    exact hp k hk
  · refine resolveEntry_resolves (hp k hk) fun w => ?_
    exact (he₁.isSound hd).keyed.lookup_iff_of_mem (by rwa [(he₁.evolves hd).graph.keys_eq])

lemma resolveOperation_resolves (ho : d.IsOperation paths o)
    (hp : ∀ p, d.InOperation o p → d.IsPlace paths p) :
    d.Resolves paths (d.InOperation o) e (e.resolveOperation o) := by
  have hr : ¬d.AreResponses paths o := fun hr => (hs.apart o hr).2 ho
  refine (Resolves.bind hd hs he (resolveParameters_resolves (hp _ .parameters))
    (T := fun p => p = .entry o (.text "requestBody") ∨ ∃ r,
      d.graph.field? o "responses" = some r ∧ ∃ k ∈ d.graph.keys r, p = .entry r k)
    ?_ fun e₁ he₁ _ => Resolves.bind hd hs he₁ (resolveEntry_resolves (hp _ .body) fun w =>
      (he₁.isSound hd).keyed.field?_iff) ?_ fun e₂ he₂ _ => ?_).congr fun p => ?_
  · rintro p (rfl | ⟨r, hr, k, hk, rfl⟩)
    · exact hp _ .body
    · exact hp _ (.response hr hk)
  · rintro p ⟨r, hr, k, hk, rfl⟩
    exact hp _ (.response hr hk)
  · rw [he₂.field?_eq hd hs.toIsOrdered (by decide) hr]
    cases hr : d.graph.field? o "responses" with
    | none => exact .none (by simp)
    | some r =>
      refine (resolveEntries_resolves hd hs he₂ fun k hk => hp _ (.response hr hk)).congr
        fun p => ?_
      simp
  constructor
  · rintro (rfl | rfl | ⟨r, hr, k, hk, rfl⟩)
    · exact .parameters
    · exact .body
    · exact .response hr hk
  · intro hp
    cases hp with
    | parameters => exact .inl rfl
    | body => exact .inr (.inl rfl)
    | response hr hk => exact .inr (.inr ⟨_, hr, _, hk, rfl⟩)

lemma resolveMethod_resolves {m : Method} (hi : d.IsPathItem paths i)
    (hp : ∀ p, d.InPathItem i p → d.IsPlace paths p) :
    d.Resolves paths (fun p => ∃ o, d.graph.field? i m.key = some o ∧
      (d.graph.entries? o).isSome ∧ d.InOperation o p) e (e.resolveMethod i m) := by
  have hname : m.key ≠ "parameters" ∧ m.key ≠ "requestBody" := by
    cases m with
    | _ => decide
  unfold resolveMethod
  rw [he.field?_eq hd hs.toIsOrdered hname fun hr => (hs.apart i hr).1 hi]
  cases ho : d.graph.field? i m.key with
  | none => exact .none (by simp)
  | some o =>
    simp only [(he.evolves hd).graph.isSome_entries?_eq]
    split
    case isTrue hmap =>
      refine (resolveOperation_resolves hd hs he ⟨hmap, i, m, hi, ho⟩
        fun p hop => hp p (.operation ho hmap hop)).congr fun p => ?_
      simp [hmap]
    case isFalse hmap => exact .none (by simp [hmap])

lemma resolvePathItem_resolves (hi : d.IsPathItem paths i)
    (hp : ∀ p, d.InPathItem i p → d.IsPlace paths p) :
    d.Resolves paths (d.InPathItem i) e (e.resolvePathItem i) := by
  rw [resolvePathItem_eq]
  refine (Resolves.bind hd hs he (resolveParameters_resolves (hp _ .parameters))
    (T := fun p => ∃ m ∈ Method.all, ∃ o, d.graph.field? i m.key = some o ∧
      (d.graph.entries? o).isSome ∧ d.InOperation o p) ?_ fun e₁ he₁ _ =>
      .foldlM hd hs he₁ (fun m _ p => ?_) fun m _ e₂ he₂ =>
        resolveMethod_resolves hd hs he₂ hi hp).congr fun p => ?_
  · rintro p ⟨m, -, o, ho, hmap, hop⟩
    exact hp p (.operation ho hmap hop)
  · rintro ⟨o, ho, hmap, hop⟩
    exact hp p (.operation ho hmap hop)
  · constructor
    · rintro (rfl | ⟨m, -, o, ho, hmap, hp⟩)
      · exact .parameters
      · exact .operation ho hmap hp
    · intro hp
      cases hp with
      | parameters => exact .inl rfl
      | @operation m o _ ho hmap hp => exact .inr ⟨m, by cases m <;> decide, o, ho, hmap, hp⟩

/-- Under a path there is the path item that was there before, or no map. -/
lemma Advances.entry_of_path (hv : d.graph.Entry paths k v) (hw : e.graph.Entry paths k w) :
    w = v ∨ e.graph.entries? w = none ∧ d.graph.entries? v = none := by
  obtain ⟨u, hu, hm⟩ := (he.evolves hd).graph.exists_entry hw
  obtain rfl := hd.keyed.entry_unique hv hu
  cases hm with
  | kept => exact .inl rfl
  | followed hr => exact absurd hr (hs.inline v ⟨k, hv⟩)
  | listed hn =>
    cases hmap : d.graph.entries? v with
    | none => exact .inr ⟨hn, rfl⟩
    | some es =>
      have hv' := he.entry_of_isMap hd hv (hs.inline v ⟨_, hv⟩) (by rw [hmap]; rfl)
      exact .inl ((he.isSound hd).keyed.entry_unique hw hv')

lemma resolvePath_resolves (hk : k ∈ d.graph.keys paths) :
    d.Resolves paths (d.InPath paths k) e (e.resolvePath paths k) := by
  have hplace : ∀ p, d.InPath paths k p → d.IsPlace paths p := fun p hp => ⟨k, hk, hp⟩
  have look (e₁ : Document) (he₁ : d.Advances paths e₁) (w : NodeId) :
      (e₁.graph.entries? paths).bind (lookupKey k) = some w ↔ e₁.graph.Entry paths k w :=
    (he₁.isSound hd).keyed.lookup_iff_of_mem (by rwa [(he₁.evolves hd).graph.keys_eq])
  obtain ⟨v, hv⟩ := mem_keys_iff.1 hk
  have hr : ¬d.graph.IsReference v := hs.inline v ⟨k, hv⟩
  refine (Resolves.bind hd hs he (resolveEntry_resolves (hplace _ .self) (look e he))
    (T := fun p => (d.graph.entries? v).isSome ∧ d.InPathItem v p) ?_
    fun e₁ he₁ _ => ?_).congr fun p => ?_
  · rintro p ⟨hmap, hp⟩
    exact hplace p (.item hv (.here hr) hmap hp)
  · obtain ⟨w, hw⟩ := mem_keys_iff.1 ((he₁.evolves hd).graph.keys_eq paths ▸ hk)
    rw [(look e₁ he₁ w).2 hw]
    rcases he₁.entry_of_path hd hs hv hw with rfl | ⟨hw, hv⟩
    · simp only [(he₁.evolves hd).graph.isSome_entries?_eq]
      split
      case isTrue hmap =>
        refine (resolvePathItem_resolves hd hs he₁ ⟨k, hv⟩ fun p hp =>
          hplace p (.item hv (.here hr) hmap hp)).congr fun p => ?_
        simp [hmap]
      case isFalse hmap => exact .none (by simp [hmap])
    · simp only [hw]
      exact .none (by simp [hv])
  · constructor
    · rintro (rfl | ⟨hmap, hp⟩)
      · exact .self
      · exact .item hv (.here hr) hmap hp
    · intro hp
      cases hp with
      | self => exact .inl rfl
      | item hv' hi hmap hp =>
        obtain rfl := hd.keyed.entry_unique hv hv'
        obtain rfl := hi.eq_of_not_isReference hr
        exact .inr ⟨hmap, hp⟩

/-- Resolving rewrites all places of the document, at whatever stage it is. -/
theorem resolve_resolves (hp : d.field? "paths" = some paths) :
    d.Resolves paths (d.IsPlace paths) e e.resolve := by
  have hp' : e.field? "paths" = some paths := by
    rw [field?, (he.evolves hd).root, he.field?_eq hd hs.toIsOrdered (by decide) hs.root]
    exact hp
  obtain ⟨es, hes, -⟩ := Option.bind_eq_some_iff.1 hp'
  have hes : e.graph.entries? e.root = some es := hes
  have hkeys : ((e.graph.entries? paths).getD []).map (·.1) = d.graph.keys paths :=
    (he.evolves hd).graph.keys_eq paths
  unfold resolve
  simp only [hes, hp']
  rw [← List.foldlM_map, hkeys]
  exact .foldlM hd hs he (fun k hk p hp => ⟨k, hk, hp⟩) fun k hk e₁ he₁ =>
    resolvePath_resolves hd hs he₁ hk

end Separate

end Document

end ApiBridge
