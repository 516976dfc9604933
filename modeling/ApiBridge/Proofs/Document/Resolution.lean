import ApiBridge.Proofs.Document.Evolution
import ApiBridge.Proofs.Outcome
import Mathlib.Data.List.Perm.Subperm

/-!
# What resolving a document achieves

Every step of resolving only lets the document evolve, so what one step has put in place stays in
place through all later ones. In the end no part of an operation is a reference, where the
operation stands under the key of a method and is written out, itself and its parts.
-/

namespace ApiBridge

namespace Graph

/-! ### Following references -/

lemma length_le_of_texts {g : Graph} {texts : List String} (hn : texts.Nodup)
    (h : ∀ s ∈ texts, ∃ i, g.text? i = some s) : texts.length ≤ g.nodes.size := by
  have hsub : texts ⊆ g.nodes.toList.filterMap Layer.text? := by
    intro s hs
    obtain ⟨i, hi⟩ := h s hs
    have hlt : i < g.nodes.size := by
      by_contra hlt
      simp [text?, node_of_size_le (Nat.not_lt.1 hlt), Layer.text?] at hi
    refine List.mem_filterMap.2 ⟨g.nodes[i], by simp, ?_⟩
    simpa [text?, node, hlt] using hi
  calc texts.length
    _ ≤ (g.nodes.toList.filterMap Layer.text?).length := (List.Nodup.subperm hn hsub).length_le
    _ ≤ g.nodes.toList.length := List.length_filterMap_le ..
    _ = g.nodes.size := by simp

end Graph

namespace Document

open ApiBridge.Graph

variable {d d' : Document}

/-- The targets on the way are texts of different nodes, so the way ends before the fuel does. -/
lemma followFrom_not_isReference {fuel : Nat} {seen : List String} {i j : NodeId}
    (hn : seen.Nodup) (hs : ∀ s ∈ seen, ∃ i, d.graph.text? i = some s)
    (hf : d.graph.nodes.size < fuel + seen.length) (h : d.followFrom fuel seen i = .ok j) :
    ¬d.graph.IsReference j := by
  induction fuel generalizing seen i with
  | zero =>
    have := length_le_of_texts hn hs
    omega
  | succ fuel ih =>
    rw [followFrom] at h
    split at h
    case h_1 hr =>
      cases h
      simp [IsReference, hr]
    case h_2 r hr =>
      split at h
      case h_1 => simp [bind_eq_ok_iff] at h
      case h_2 target ht =>
        split at h
        case isTrue => simp at h
        case isFalse hc =>
          obtain ⟨i', -, h⟩ := bind_eq_ok_iff.1 h
          refine ih ?_ ?_ ?_ h
          · exact List.nodup_append.2 ⟨hn, by simp, by simpa using fun a ha => by grind⟩
          · intro s hs'
            rcases List.mem_append.1 hs' with hs' | hs'
            · exact hs s hs'
            · exact ⟨r, by rw [ht, List.mem_singleton.1 hs']⟩
          · simp only [List.length_append, List.length_cons, List.length_nil]
            omega

/-- A node that is no reference is followed no further, and what is found is none. -/
lemma follow_eq_ok {i j : NodeId} (h : d.follow i = .ok j) :
    ¬d.graph.IsReference j ∧ (j = i ∨ d.graph.IsReference i) := by
  refine ⟨followFrom_not_isReference (by simp) (by simp) (by simp) h, ?_⟩
  cases hr : reference? d.graph i with
  | none =>
    simp only [follow, followFrom, hr, Except.ok.injEq] at h
    exact .inl h.symm
  | some r => exact .inr (by simp [IsReference, hr])

/-! ### Steps -/

/-- A document becomes another one while references are resolved. -/
structure Evolves (d d' : Document) : Prop where
  root : d'.root = d.root
  graph : d.graph.Evolves d'.graph

lemma Evolves.refl (d : Document) : Evolves d d :=
  ⟨rfl, .refl _⟩

lemma Evolves.trans {d'' : Document} (h : Evolves d d') (h' : Evolves d' d'') : Evolves d d'' :=
  ⟨h'.root.trans h.root, h.graph.trans h'.graph⟩

section Fold

variable {α : Type} {f : Document → α → Except ReferenceError Document} {xs : List α}

/-- All steps together let the document evolve, and what one step achieves holds in the end, if it
goes on to hold as the document evolves. -/
lemma foldlM_eq_ok (hf : ∀ d x d', f d x = .ok d' → Evolves d d') (h : xs.foldlM f d = .ok d') :
    Evolves d d' ∧ ∀ (P : Document → Prop) (x : α), x ∈ xs →
      (∀ d₁ d₂, Evolves d d₁ → Evolves d₁ d₂ → P d₁ → P d₂) →
      (∀ d₁ d₂, Evolves d d₁ → f d₁ x = .ok d₂ → P d₂) → P d' := by
  induction xs generalizing d with
  | nil =>
    cases h
    exact ⟨.refl _, fun P x hx => absurd hx List.not_mem_nil⟩
  | cons y xs ih =>
    rw [List.foldlM_cons] at h
    obtain ⟨d₁, hy, hrest⟩ := bind_eq_ok_iff.1 h
    have hd := hf d y d₁ hy
    obtain ⟨he, hall⟩ := ih hrest
    refine ⟨hd.trans he, fun P x hx hP hstep => ?_⟩
    rcases List.mem_cons.1 hx with rfl | hx
    · exact hP d₁ d' hd he (hstep d d₁ (.refl d) hy)
    · exact hall P x hx (fun e₁ e₂ h₁ => hP e₁ e₂ (hd.trans h₁))
        fun e₁ e₂ h₁ => hstep e₁ e₂ (hd.trans h₁)

end Fold

lemma resolveEntry_eq_ok {owner : NodeId} {key : Scalar}
    (h : d.resolveEntry owner key = .ok d') :
    Evolves d d' ∧ ∀ es i, d'.graph.entries? owner = some es → lookupKey key es = some i →
      ¬d'.graph.IsReference i := by
  unfold resolveEntry at h
  split at h
  case h_1 hn =>
    cases h
    refine ⟨.refl d, fun es i hes hi => ?_⟩
    simp [hes, hi] at hn
  case h_2 i hi =>
    obtain ⟨j, hj, h⟩ := bind_eq_ok_iff.1 h
    cases h
    obtain ⟨es, hes, hl⟩ := Option.bind_eq_some_iff.1 hi
    obtain ⟨hr, hij⟩ := follow_eq_ok hj
    have he : d.graph.Evolves (d.graph.setEntry owner key j) :=
      evolves_setEntry hes hl (hij.imp_right fun hi => .inl ⟨hi, hr⟩)
    refine ⟨⟨rfl, he⟩, fun es' i' hes' hi' => ?_⟩
    rw [entries?_setEntry key j hes] at hes'
    obtain rfl := Option.some.inj hes'
    rw [lookupKey_insertKey hl] at hi'
    obtain rfl := Option.some.inj hi'
    rwa [he.isReference_iff]

lemma resolveEntries_eq_ok {owner : NodeId} (h : d.resolveEntries owner = .ok d') :
    Evolves d d' ∧ (d.graph.Keyed → ∀ es, d'.graph.entries? owner = some es →
      ∀ e ∈ es, ¬d'.graph.IsReference e.2) := by
  obtain ⟨hd, hall⟩ := foldlM_eq_ok (fun _ _ _ h => (resolveEntry_eq_ok h).1) h
  refine ⟨hd, fun hk es hes e he => ?_⟩
  have hmem : e.1 ∈ d.graph.keys owner := by
    rw [← hd.graph.keys_eq, keys, hes]
    exact List.mem_map_of_mem he
  refine hall (fun d' => ∀ es i, d'.graph.entries? owner = some es →
    lookupKey e.1 es = some i → ¬d'.graph.IsReference i) e.1 hmem ?_ ?_ es e.2 hes
    ((hd.graph.keyed hk).lookupKey_of_mem hes he)
  · intro d₁ d₂ _ h₁₂ h₁ es i hes hi
    obtain ⟨es₁, k, i₁, hes₁, hi₁, -, hm⟩ := h₁₂.graph.lookup hes hi
    cases hm with
    | kept =>
      rw [h₁₂.graph.isReference_iff]
      exact h₁ es₁ i hes₁ hi₁
    | followed _ hj => exact hj
    | listed _ hs => exact hs.self
  · exact fun d₁ d₂ _ h₁ => (resolveEntry_eq_ok h₁).2

lemma resolveParameters_eq_ok {owner : NodeId} (h : d.resolveParameters owner = .ok d') :
    Evolves d d' ∧ ∀ p is, d'.graph.field? owner "parameters" = some p →
      d'.graph.items? p = some is → ∀ j ∈ is, ¬d'.graph.IsReference j := by
  unfold resolveParameters at h
  split at h
  case h_1 hn =>
    cases h
    refine ⟨.refl d, fun p is hp his => ?_⟩
    simp [hp, his] at hn
  case h_2 items hi =>
    obtain ⟨found, hf, h⟩ := bind_eq_ok_iff.1 h
    cases h
    obtain ⟨p, hp, -⟩ := Option.bind_eq_some_iff.1 hi
    obtain ⟨es, hes, hl⟩ := Option.bind_eq_some_iff.1 hp
    have hfound : ∀ j ∈ found, ¬d.graph.IsReference j := by
      intro j hj
      obtain ⟨i, -, hij⟩ := exists_of_mem_right (mapM_eq_ok_iff.1 hf) hj
      exact (follow_eq_ok hij).1
    have hpush := evolves_push hfound
    obtain ⟨hlist, hsettled⟩ := hpush.added d.graph.nodes.size (Nat.le_refl _)
    have hes' := entries?_push (.list found) hes
    have hset := evolves_setEntry hes' hl (.inr (.inr ⟨rfl, hlist, hsettled⟩))
    refine ⟨⟨rfl, hpush.trans hset⟩, fun p' is hp' his => ?_⟩
    obtain ⟨fs, hfs, hl'⟩ := Option.bind_eq_some_iff.1 hp'
    have hfs' := entries?_setEntry (.text "parameters") d.graph.nodes.size hes'
    obtain rfl : _ = fs := Option.some.inj (hfs'.symm.trans hfs)
    rw [lookupKey_insertKey hl] at hl'
    obtain rfl : _ = p' := Option.some.inj hl'
    exact (hset.settled hsettled).items is his

/-! ### Operations -/

end Document

namespace Graph

/-- The parameters and the responses of an operation are no references. -/
structure IsWrittenOut (g : Graph) (o : NodeId) : Prop where
  parameters : ∀ p, g.field? o "parameters" = some p → ¬g.IsReference p
  responses : ∀ r, g.field? o "responses" = some r → ¬g.IsReference r

/-- No part of an operation is a reference. -/
structure IsResolved (g : Graph) (o : NodeId) : Prop where
  parameters : ∀ p, g.field? o "parameters" = some p → g.Settled p
  requestBody : ∀ b, g.field? o "requestBody" = some b → ¬g.IsReference b
  responses : ∀ r, g.field? o "responses" = some r → ¬g.IsReference r ∧
    ∀ es, g.entries? r = some es → ∀ e ∈ es, ¬g.IsReference e.2

namespace Evolves

variable {g g' : Graph} {o : NodeId}

lemma not_isReference_field? (h : Evolves g g') {name : String}
    (hg : ∀ i, g.field? o name = some i → ¬g.IsReference i) {j : NodeId}
    (hj : g'.field? o name = some j) : ¬g'.IsReference j := by
  obtain ⟨i, hi, hm⟩ := h.field? hj
  cases hm with
  | kept =>
    rw [h.isReference_iff]
    exact hg _ hi
  | followed _ hj => exact hj
  | listed _ hs => exact hs.self

lemma isWrittenOut (h : Evolves g g') (ho : g.IsWrittenOut o) : g'.IsWrittenOut o :=
  ⟨fun _ => h.not_isReference_field? ho.parameters, fun _ => h.not_isReference_field? ho.responses⟩

/-- An operation that is resolved stays so, whatever else is resolved. -/
lemma isResolved (h : Evolves g g') (ho : g.IsResolved o) : g'.IsResolved o where
  parameters p hp := by
    obtain ⟨p₀, hp₀, hm⟩ := h.field? hp
    cases hm with
    | kept => exact h.settled (ho.parameters p hp₀)
    | followed hi => exact absurd hi (ho.parameters p₀ hp₀).self
    | listed _ hs => exact hs
  requestBody _ := h.not_isReference_field? ho.requestBody
  responses r hr := by
    obtain ⟨r₀, hr₀, -⟩ := h.field? hr
    obtain ⟨hself, hentries⟩ := ho.responses r₀ hr₀
    obtain rfl : r₀ = r := Option.some.inj ((h.field?_eq (by decide) hr₀ hself).symm.trans hr)
    refine ⟨by rwa [h.isReference_iff], fun es' hes' e' he' => ?_⟩
    cases hes : g.entries? r₀ with
    | none => simp [h.entries?_eq_none hes] at hes'
    | some es =>
      obtain ⟨fs, hfs, hm⟩ := h.maps r₀ es hes
      obtain rfl : fs = es' := Option.some.inj (hfs.symm.trans hes')
      obtain ⟨e, he, hmoved⟩ := exists_of_mem_right hm he'
      cases hmoved with
      | kept =>
        rw [h.isReference_iff]
        exact hentries es hes _ he
      | followed _ hj => exact hj
      | listed _ hs => exact hs.self

end Evolves

end Graph

namespace Document

lemma resolveOperation_eq_ok {o : NodeId} (h : d.resolveOperation o = .ok d') :
    Evolves d d' ∧ (d.graph.Keyed → d.graph.IsWrittenOut o → d'.graph.IsResolved o) := by
  obtain ⟨d₁, h₁, h⟩ := bind_eq_ok_iff.1 h
  obtain ⟨d₂, h₂, h⟩ := bind_eq_ok_iff.1 h
  obtain ⟨he₁, hp⟩ := resolveParameters_eq_ok h₁
  obtain ⟨he₂, hb⟩ := resolveEntry_eq_ok h₂
  -- What holds of the responses in the end, the other parts hold from their own step on.
  have resolved (he₃ : Evolves d₂ d') (hw : d.graph.IsWrittenOut o)
      (hr : ∀ r, d'.graph.field? o "responses" = some r → ∀ es, d'.graph.entries? r = some es →
        ∀ e ∈ es, ¬d'.graph.IsReference e.2) : d'.graph.IsResolved o := by
    have hw₁ := he₁.graph.isWrittenOut hw
    have hw₃ := (he₂.trans he₃).graph.isWrittenOut hw₁
    refine ⟨fun p hp₃ => ?_, fun b => ?_, fun r hr₃ => ⟨hw₃.responses r hr₃, hr r hr₃⟩⟩
    · obtain ⟨p₁, hp₁, hm⟩ := (he₂.trans he₃).graph.field? hp₃
      cases hm with
      | kept =>
        exact (he₂.trans he₃).graph.settled ⟨hw₁.parameters p hp₁, fun is => hp p is hp₁⟩
      | followed hi => exact absurd hi (hw₁.parameters p₁ hp₁)
      | listed _ hs => exact hs
    · refine he₃.graph.not_isReference_field? fun b hb₂ => ?_
      obtain ⟨es, hes, hl⟩ := Option.bind_eq_some_iff.1 hb₂
      exact hb es b hes hl
  split at h
  case h_1 r hr =>
    obtain ⟨he₃, hrs⟩ := resolveEntries_eq_ok h
    refine ⟨(he₁.trans he₂).trans he₃, fun hk hw => resolved he₃ hw fun r' hr' => ?_⟩
    have hw₂ := (he₁.trans he₂).graph.isWrittenOut hw
    have hkept := he₃.graph.field?_eq (by decide) hr (hw₂.responses r hr)
    obtain rfl : r = r' := Option.some.inj (hkept.symm.trans hr')
    exact hrs ((he₁.trans he₂).graph.keyed hk)
  case h_2 hn =>
    cases h
    exact ⟨he₁.trans he₂, fun _ hw => resolved (.refl _) hw fun r hr => by simp [hn] at hr⟩

/-- A path item has an operation under the key of a method, written out where it stands. -/
structure HasOperation (d : Document) (item : NodeId) (m : Method) (o : NodeId) : Prop where
  field : d.graph.field? item m.key = some o
  self : ¬d.graph.IsReference o
  parts : d.graph.IsWrittenOut o

lemma Evolves.hasOperation (h : Evolves d d') {item o : NodeId} {m : Method}
    (ho : d.HasOperation item m o) : d'.HasOperation item m o where
  field := h.graph.field?_eq (by cases m <;> decide) ho.field ho.self
  self := by
    rw [h.graph.isReference_iff]
    exact ho.self
  parts := h.graph.isWrittenOut ho.parts

lemma resolvePathItem_eq_ok {item : NodeId} (h : d.resolvePathItem item = .ok d') :
    Evolves d d' ∧ (d.graph.Keyed → ∀ m o, d.HasOperation item m o → d'.graph.IsResolved o) := by
  obtain ⟨d₁, h₁, h⟩ := bind_eq_ok_iff.1 h
  have he₁ := (resolveParameters_eq_ok h₁).1
  obtain ⟨he, hall⟩ := foldlM_eq_ok (fun e m e' hm => by
    split at hm
    case h_1 o ho =>
      split at hm
      case isTrue => exact (resolveOperation_eq_ok hm).1
      case isFalse =>
        cases hm
        exact .refl _
    case h_2 =>
      cases hm
      exact .refl _) h
  refine ⟨he₁.trans he, fun hk m o ho => ?_⟩
  refine hall (fun d => d.graph.IsResolved o) m (by cases m <;> decide)
    (fun _ _ _ h₁₂ => h₁₂.graph.isResolved) fun e₁ e₂ he₁' hm => ?_
  have ho₁ := (he₁.trans he₁').hasOperation ho
  simp only [ho₁.field] at hm
  split at hm
  case isTrue =>
    exact (resolveOperation_eq_ok hm).2 ((he₁.trans he₁').graph.keyed hk) ho₁.parts
  case isFalse hn =>
    cases hm
    -- What is no map has no parts.
    have none (name : String) : e₁.graph.field? o name = none :=
      Option.bind_eq_none_iff.2 fun es hes => absurd (Option.isSome_of_mem hes) hn
    exact ⟨fun p hp => by simp [none] at hp, fun b hb => by simp [none] at hb,
      fun r hr => by simp [none] at hr⟩

/-! ### Paths -/

/-- The operations of a path item are resolved where the document `d` has them written out. -/
def IsResolvedFor (d : Document) (g : Graph) (item : NodeId) : Prop :=
  ∀ m o, d.HasOperation item m o → g.IsResolved o

/-- The path item that the graph `g` has under a key is no reference, and its operations are
resolved in `g'`. -/
def IsResolvedPath (d : Document) (g g' : Graph) (paths : NodeId) (key : Scalar) : Prop :=
  ∀ es item, g.entries? paths = some es → lookupKey key es = some item →
    ¬g.IsReference item ∧ d.IsResolvedFor g' item

/-- The path item under a key stays the same one, or what is there in the end is no map. -/
lemma IsResolvedPath.of_evolves {d₁ : Document} {paths : NodeId} {key : Scalar}
    (h₁ : Evolves d d₁) (he : Evolves d₁ d')
    (h : d.IsResolvedPath d₁.graph d'.graph paths key) :
    d.IsResolvedPath d'.graph d'.graph paths key := by
  intro es item hes hl
  obtain ⟨es₁, k, item₁, hes₁, hl₁, -, hm⟩ := he.graph.lookup hes hl
  obtain ⟨hself, hres⟩ := h es₁ item₁ hes₁ hl₁
  cases hm with
  | kept =>
    refine ⟨?_, hres⟩
    rwa [he.graph.isReference_iff]
  | followed hi => exact absurd hi hself
  | listed hj hs =>
    refine ⟨hs.self, fun m o ho => ?_⟩
    obtain ⟨fs, hfs, -⟩ := Option.bind_eq_some_iff.1 ((h₁.trans he).hasOperation ho).field
    simp [show d'.graph.entries? item = some fs from hfs] at hj

lemma resolvePath_eq_ok {paths : NodeId} {key : Scalar} (h : d.resolvePath paths key = .ok d') :
    Evolves d d' ∧ (d.graph.Keyed → d.IsResolvedPath d'.graph d'.graph paths key) := by
  obtain ⟨d₁, h₁, h⟩ := bind_eq_ok_iff.1 h
  obtain ⟨he₁, hitem⟩ := resolveEntry_eq_ok h₁
  have visited (he : Evolves d₁ d') (hres : ∀ es item, d₁.graph.entries? paths = some es →
      lookupKey key es = some item → d₁.IsResolvedFor d'.graph item) :
      d.IsResolvedPath d'.graph d'.graph paths key :=
    .of_evolves he₁ he fun es item hes hl => ⟨hitem es item hes hl,
      fun m o ho => hres es item hes hl m o (he₁.hasOperation ho)⟩
  split at h
  case h_1 item hi =>
    obtain ⟨es, hes, hl⟩ := Option.bind_eq_some_iff.1 hi
    split at h
    case isTrue =>
      obtain ⟨he, hres⟩ := resolvePathItem_eq_ok h
      refine ⟨he₁.trans he, fun hk => visited he fun es' item' hes' hl' => ?_⟩
      obtain rfl : es = es' := Option.some.inj (hes.symm.trans hes')
      obtain rfl : item = item' := Option.some.inj (hl.symm.trans hl')
      exact hres (he₁.graph.keyed hk)
    case isFalse hn =>
      cases h
      refine ⟨he₁, fun _ => visited (.refl _) fun es' item' hes' hl' m o ho => ?_⟩
      obtain rfl : es = es' := Option.some.inj (hes.symm.trans hes')
      obtain rfl : item = item' := Option.some.inj (hl.symm.trans hl')
      obtain ⟨fs, hfs, -⟩ := Option.bind_eq_some_iff.1 ho.field
      exact absurd (Option.isSome_of_mem hfs) hn
  case h_2 hn =>
    cases h
    refine ⟨he₁, fun _ => visited (.refl _) fun es item hes hl => ?_⟩
    simp [hes, hl] at hn

/-- Resolving puts in place all parts of the operations that the paths have written out under the
keys of methods. -/
theorem resolve_eq_ok (h : d.resolve = .ok d') (hk : d.graph.Keyed) :
    Evolves d d' ∧ ∀ paths, d.field? "paths" = some paths → ¬d.graph.IsReference paths →
      d'.field? "paths" = some paths ∧ ∀ es, d'.graph.entries? paths = some es →
        ∀ e ∈ es, d.IsResolvedFor d'.graph e.2 := by
  unfold resolve at h
  split at h
  case h_1 => simp at h
  case h_2 =>
    split at h
    case h_1 hn =>
      cases h
      exact ⟨.refl d, fun paths hp => by simp [hn] at hp⟩
    case h_2 paths hp =>
      obtain ⟨he, hall⟩ := foldlM_eq_ok (fun _ _ _ h => (resolvePath_eq_ok h).1) h
      refine ⟨he, fun paths' hp' hr => ?_⟩
      obtain rfl : paths = paths' := Option.some.inj (hp.symm.trans hp')
      refine ⟨?_, fun es hes e hmem => ?_⟩
      · rw [field?, he.root]
        exact he.graph.field?_eq (by decide) hp hr
      obtain ⟨e₀, he₀, hkey⟩ : ∃ e₀ ∈ (d.graph.entries? paths).getD [], e₀.1 = e.1 := by
        refine List.mem_map.1 (?_ : e.1 ∈ d.graph.keys paths)
        rw [← he.graph.keys_eq, Graph.keys, hes]
        exact List.mem_map_of_mem hmem
      have resolved : d.IsResolvedPath d'.graph d'.graph paths e.1 := by
        refine hall (fun d' => d.IsResolvedPath d'.graph d'.graph paths e.1) e₀ he₀ ?_ ?_
        · intro d₁ d₂ h₁ h₁₂ hres
          refine .of_evolves h₁ h₁₂ fun es item hes hl => ?_
          obtain ⟨hself, hitem⟩ := hres es item hes hl
          exact ⟨hself, fun m o ho => h₁₂.graph.isResolved (hitem m o ho)⟩
        · intro d₁ d₂ h₁ h₁₂ es item hes hl
          rw [hkey] at h₁₂
          obtain ⟨hself, hitem⟩ := (resolvePath_eq_ok h₁₂).2 (h₁.graph.keyed hk) es item hes hl
          exact ⟨hself, fun m o ho => hitem m o (h₁.hasOperation ho)⟩
      exact (resolved es e.2 hes ((he.graph.keyed hk).lookupKey_of_mem hes hmem)).2

end Document

end ApiBridge
