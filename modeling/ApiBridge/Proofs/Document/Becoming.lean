import ApiBridge.Proofs.Document.Layout
import ApiBridge.Proofs.Document.Returns

/-!
# What a document becomes

Resolving follows what stands in one place after another, and each pointer leads through what the
document has become so far. `Document.Visits` says which places are come to, and what the document
has become by then. `Document.Advances` says what it may become: path items, operations and maps of
responses stay where they are. `Document.Becomes` says what it may become if references keep clear
of a node and of certain ends: what the references do not end at comes to stand nowhere else.
-/

namespace ApiBridge

namespace Graph

variable {g : Graph} {i j u v w : NodeId} {k : Scalar} {pos : Option Scalar}

/-! ### Where nodes stand -/

/-- A node stands in another one: under a key of a map, or as a part of what is no map. -/
def Part (g : Graph) (i : NodeId) : Option Scalar → NodeId → Prop
  | some k, v => g.Entry i k v
  | none, v => g.entries? i = none ∧ v ∈ (g.node i).parts

/-- A node stands in one place at most, and that is under a key. -/
def Lone (g : Graph) (v i : NodeId) (k : Scalar) : Prop :=
  ∀ j pos, g.Part j pos v → j = i ∧ pos = some k

lemma exists_part (h : v ∈ (g.node i).parts) : ∃ pos, g.Part i pos v := by
  cases hn : g.entries? i with
  | none => exact ⟨none, hn, h⟩
  | some es =>
    rw [node_eq_of_entries? hn, Layer.parts] at h
    obtain ⟨e, he, rfl⟩ := List.mem_map.1 h
    exact ⟨some e.1, es, hn, he⟩

lemma Part.mem_parts (h : g.Part i pos v) : v ∈ (g.node i).parts := by
  cases pos with
  | none => exact h.2
  | some k =>
    obtain ⟨es, hes, hmem⟩ := h
    rw [node_eq_of_entries? hes, Layer.parts]
    exact List.mem_map_of_mem hmem

lemma Part.lt_size (h : g.Part i pos v) : i < g.nodes.size := by
  by_contra hi
  have hmem := h.mem_parts
  rw [node_of_size_le (Nat.not_lt.1 hi)] at hmem
  simp [Layer.parts] at hmem

lemma part_item {is : List NodeId} (his : g.items? i = some is) (hv : v ∈ is) :
    g.Part i none v := by
  refine ⟨entries?_eq_none_of_items? his, ?_⟩
  rwa [node_eq_of_items? his, Layer.parts]

lemma part_setEntry (hk : g.Keyed) (h : g.Entry i k w) :
    (g.setEntry i k u).Part j pos v ↔
      (j = i ∧ pos = some k ∧ v = u) ∨ ¬(j = i ∧ pos = some k) ∧ g.Part j pos v := by
  cases pos with
  | some l => simp only [Part, entry_setEntry hk h, Option.some.injEq]
  | none =>
    have hsome := h.isSome_entries?
    simp only [Part, reduceCtorEq, and_false, false_and, not_false_eq_true, true_and, false_or]
    by_cases hj : j = i
    · subst hj
      obtain ⟨es, hes⟩ := Option.isSome_iff_exists.1 hsome
      simp [hes, entries?_setEntry k u hes]
    · rw [entries?, node_setEntry_of_ne h hj, entries?]

lemma part_push_list {js : List NodeId} :
    (g.push (.list js)).2.Part j pos v ↔
      (j = g.nodes.size ∧ pos = none ∧ v ∈ js) ∨ g.Part j pos v := by
  cases pos with
  | some l => simp only [Part, entry_push_list, reduceCtorEq, false_and, and_false, false_or]
  | none =>
    simp only [Part, entries?_push_list, node_push, true_and]
    by_cases hj : j = g.nodes.size
    · subst hj
      simp [entries?, node_of_size_le (Nat.le_refl _), Layer.entries?, Layer.parts]
    · simp [hj]

/-- Replace the list of parameters of a map by another one. -/
def withParameters (g : Graph) (o : NodeId) (js : List NodeId) : Graph :=
  (g.push (.list js)).2.setEntry o (.text "parameters") g.nodes.size

lemma Keyed.push_list (hk : g.Keyed) (js : List NodeId) : (g.push (.list js)).2.Keyed := by
  intro i
  rw [keys, entries?_push_list, ← keys]
  exact hk i

lemma part_withParameters {o p : NodeId} {js : List NodeId} (hk : g.Keyed)
    (hp : g.Entry o (.text "parameters") p) :
    (g.withParameters o js).Part j pos v ↔
      (j = o ∧ pos = some (.text "parameters") ∧ v = g.nodes.size) ∨
        ¬(j = o ∧ pos = some (.text "parameters")) ∧
          ((j = g.nodes.size ∧ pos = none ∧ v ∈ js) ∨ g.Part j pos v) := by
  rw [withParameters, part_setEntry (hk.push_list js) ((entry_push_list js).2 hp), part_push_list]

lemma size_withParameters {o : NodeId} {js : List NodeId} :
    (g.withParameters o js).nodes.size = g.nodes.size + 1 := by
  rw [withParameters, size_setEntry]
  simp [push]

/-! ### Fields that are not changed -/

lemma Keyed.setEntry (hk : g.Keyed) (h : g.Entry i k w) : (g.setEntry i k u).Keyed := by
  intro j
  rw [keys_setEntry hk h]
  exact hk j

lemma field?_setEntry_of_ne {name : String} (hk : g.Keyed) (h : g.Entry i k w)
    (hne : ¬(j = i ∧ .text name = k)) : (g.setEntry i k u).field? j name = g.field? j name := by
  refine Option.ext fun v => ?_
  rw [(hk.setEntry h).field?_iff, hk.field?_iff, entry_setEntry hk h]
  exact (or_iff_right fun h => hne ⟨h.1, h.2.1⟩).trans (and_iff_right hne)

lemma field?_withParameters_of_ne {o p : NodeId} {js : List NodeId} {name : String} (hk : g.Keyed)
    (hp : g.Entry o (.text "parameters") p) (hne : name ≠ "parameters") :
    (g.withParameters o js).field? j name = g.field? j name := by
  rw [withParameters, field?_setEntry_of_ne (hk.push_list js) ((entry_push_list js).2 hp)
    fun h => hne (Scalar.text.inj h.2)]
  have hentries := entries?_push_list (g := g) js j
  unfold entries? at hentries
  rw [field?, Layer.field?, hentries, field?, Layer.field?]

/-! ### Sound graphs -/

lemma IsSound.setEntry (hg : g.IsSound) (h : g.Entry i k w) (hu : u < g.nodes.size) :
    (g.setEntry i k u).IsSound where
  keyed := hg.keyed.setEntry h
  closed j v hv := by
    rw [size_setEntry]
    obtain ⟨pos, hpos⟩ := exists_part hv
    rcases (part_setEntry hg.keyed h).1 hpos with ⟨-, -, rfl⟩ | ⟨-, hpos⟩
    · exact hu
    · exact hg.closed j v hpos.mem_parts

lemma IsSound.withParameters {o p : NodeId} {js : List NodeId} (hg : g.IsSound)
    (hp : g.Entry o (.text "parameters") p) (hjs : ∀ j ∈ js, j < g.nodes.size) :
    (g.withParameters o js).IsSound := by
  have hpush := (grows_push hg (n := .list js) hjs (by simp [Layer.entries?])).1.sound
  exact hpush.setEntry ((entry_push_list js).2 hp) (by simp [push])

end Graph

namespace Document

open ApiBridge.Graph

variable {d e : Document} {paths i n o r v w : NodeId} {k : Scalar} {pos : Option Scalar}
  {ends : NodeId → Prop}

/-! ### References that keep clear of a node -/

/-- The way along the segments comes to a node and goes on. -/
def passesFrom (g : Graph) (n : NodeId) (target : String) (i : NodeId) : List String → Bool
  | [] => false
  | s :: segments =>
    i == n ||
      match Pointer.step g target i s with
      | .ok j => passesFrom g n target j segments
      | .error _ => false

/-- The pointer leads through a node, to somewhere inside of it. -/
def passes (d : Document) (n : NodeId) (target : String) : Bool :=
  ((Pointer.segments? target).map (passesFrom d.graph n target d.root)).getD false

/-- A node is met when references are followed from another one. -/
inductive Meets (d : Document) : NodeId → NodeId → Prop
  | self {v : NodeId} : Meets d v v
  | next {v w z : NodeId} (h : d.next? v = some w) (hz : Meets d w z) : Meets d v z

/-- No reference that is followed from here leads to somewhere inside of the node `n`, and none
leads to certain ends. -/
def IsClear (d : Document) (n : NodeId) (ends : NodeId → Prop) (v : NodeId) : Prop :=
  ∀ z target, d.Meets v z → target? d.graph z = some target →
    d.passes n target = false ∧ ∀ j, d.locate target = .ok j → ¬ends j

/-- The references that are followed from a place keep clear. -/
def IsClearAt (d : Document) (n : NodeId) (ends : NodeId → Prop) (p : Place) : Prop :=
  ∀ v, d.Holds p v → d.IsClear n ends v

lemma IsClear.next (h : d.IsClear n ends v) (hw : d.next? v = some w) : d.IsClear n ends w :=
  fun z target hz => h z target (.next hw hz)

/-- Of the ends, references that are followed lead to none but the node they start from. -/
lemma IsClear.eq_of_leads (hc : d.IsClear n ends v) (hl : d.Leads v w) (hw : ends w) : w = v := by
  induction hl with
  | here => rfl
  | @step v z w hz _ ih =>
    obtain rfl := ih (hc.next hz) hw
    obtain ⟨r, target, hr, ht, hloc⟩ := next?_eq_some_iff.1 hz
    have htarget : target? d.graph v = some target := Option.bind_eq_some_iff.2 ⟨r, hr, ht⟩
    exact absurd hw ((hc v target .self htarget).2 _ hloc)

/-! ### What a run comes to -/

/-- In a run through a list its element `a` is come to, when the document has become `e`. -/
def ComesTo {α : Type} (f : Document → α → Except ReferenceError Document) (xs : List α)
    (d : Document) (a : α) (e : Document) : Prop :=
  ∃ before after, xs = before ++ a :: after ∧ before.foldlM f d = .ok e

namespace ComesTo

variable {α : Type} {f : Document → α → Except ReferenceError Document} {xs : List α} {a b : α}
  {e' : Document}

lemma here : ComesTo f (a :: xs) d a d :=
  ⟨[], xs, rfl, rfl⟩

lemma after (h : f d a = .ok e) (hb : ComesTo f xs e b e') : ComesTo f (a :: xs) d b e' := by
  obtain ⟨before, rest, rfl, hrun⟩ := hb
  refine ⟨a :: before, rest, rfl, ?_⟩
  rw [List.foldlM_cons]
  exact bind_eq_ok_iff.2 ⟨e, h, hrun⟩

lemma mem (h : ComesTo f xs d a e) : a ∈ xs := by
  obtain ⟨before, rest, rfl, -⟩ := h
  simp

end ComesTo

/-- The places that are come to while an operation is resolved, and what the document has become
by then. -/
inductive VisitsOperation (d : Document) (o : NodeId) : Document → Place → Prop
  | parameters : VisitsOperation d o d (.parameters o)
  | body {e : Document} (h : d.resolveParameters o = .ok e) :
      VisitsOperation d o e (.entry o (.text "requestBody"))
  | response {e₁ e₂ e : Document} {r : NodeId} {k : Scalar} (h₁ : d.resolveParameters o = .ok e₁)
      (h₂ : e₁.resolveEntry o (.text "requestBody") = .ok e₂)
      (hr : e₂.graph.field? o "responses" = some r)
      (hk : ComesTo (resolveEntry r) (e₂.graph.keys r) e₂ k e) :
      VisitsOperation d o e (.entry r k)

/-- The places that are come to while a path item is resolved. -/
inductive VisitsPathItem (d : Document) (item : NodeId) : Document → Place → Prop
  | parameters : VisitsPathItem d item d (.parameters item)
  | operation {e₁ e₂ e : Document} {m : Method} {o : NodeId} {p : Place}
      (h₁ : d.resolveParameters item = .ok e₁)
      (hm : ComesTo (resolveMethod item) Method.all e₁ m e₂)
      (ho : e₂.graph.field? item m.key = some o) (hmap : (e₂.graph.entries? o).isSome)
      (hp : e₂.VisitsOperation o e p) : VisitsPathItem d item e p

/-- The places that are come to while a document is resolved. -/
inductive Visits (d : Document) (paths : NodeId) : Document → Place → Prop
  | path {e : Document} {k : Scalar} (hk : ComesTo (resolvePath paths) (d.graph.keys paths) d k e) :
      Visits d paths e (.entry paths k)
  | item {e₁ e₂ e : Document} {k : Scalar} {item : NodeId} {p : Place}
      (hk : ComesTo (resolvePath paths) (d.graph.keys paths) d k e₁)
      (h : e₁.resolveEntry paths k = .ok e₂)
      (hi : (e₂.graph.entries? paths).bind (lookupKey k) = some item)
      (hmap : (e₂.graph.entries? item).isSome) (hp : e₂.VisitsPathItem item e p) :
      Visits d paths e p

/-! ### Path items and operations -/

/-- A path item. -/
def IsPathItem (d : Document) (paths i : NodeId) : Prop :=
  ∃ k, d.graph.Entry paths k i

/-- An operation: a map that a path item has under the key of a method. -/
def IsOperation (d : Document) (paths o : NodeId) : Prop :=
  (d.graph.entries? o).isSome ∧
    ∃ i, ∃ m : Method, d.IsPathItem paths i ∧ d.graph.field? i m.key = some o

/-- The responses of an operation. -/
def AreResponses (d : Document) (paths r : NodeId) : Prop :=
  ∃ o, d.IsOperation paths o ∧ d.graph.field? o "responses" = some r

/-- Path items stand where they are, and no map of responses is at the same time a path item or an
operation. -/
structure IsOrdered (d : Document) (paths : NodeId) : Prop where
  inline : ∀ i, d.IsPathItem paths i → ¬d.graph.IsReference i
  apart : ∀ r, d.AreResponses paths r → ¬d.IsPathItem paths r ∧ ¬d.IsOperation paths r

/-- What a place belongs to: the paths, a path item, an operation or a map of responses. -/
inductive Belongs (d : Document) (paths : NodeId) : Place → Prop
  | path {k : Scalar} : Belongs d paths (.entry paths k)
  | parameters {o : NodeId} (h : d.IsPathItem paths o ∨ d.IsOperation paths o) :
      Belongs d paths (.parameters o)
  | body {o : NodeId} (h : d.IsOperation paths o) :
      Belongs d paths (.entry o (.text "requestBody"))
  | response {r : NodeId} {k : Scalar} (h : d.AreResponses paths r) :
      Belongs d paths (.entry r k)

/-- Where path items stand where they are, each place belongs to them or to parts of theirs. -/
lemma IsOrdered.belongs (ho : d.IsOrdered paths) {p : Place} (hp : d.IsPlace paths p) :
    d.Belongs paths p := by
  obtain ⟨key, -, hp⟩ := hp
  cases hp with
  | self => exact .path
  | item hv hi hmap hp =>
    obtain rfl := hi.eq_of_not_isReference (ho.inline _ ⟨_, hv⟩)
    cases hp with
    | parameters => exact .parameters (.inl ⟨_, hv⟩)
    | operation hf hmap hp =>
      have hop : d.IsOperation paths _ := ⟨hmap, _, _, ⟨_, hv⟩, hf⟩
      cases hp with
      | parameters => exact .parameters (.inr hop)
      | body => exact .body hop
      | response hr => exact .response ⟨_, hop, hr⟩

/-- A place of a document is a path, the body of an operation, or a response. -/
lemma IsOrdered.place_cases (ho : d.IsOrdered paths) (hp : d.IsPlace paths (.entry i k)) :
    i = paths ∨ k = .text "requestBody" ∨ d.AreResponses paths i := by
  cases ho.belongs hp with
  | path => exact .inl rfl
  | body => exact .inr (.inl rfl)
  | response h => exact .inr (.inr h)

/-- The places of an operation are places of the document. -/
lemma IsOrdered.isPlace (ho : d.IsOrdered paths) {item : NodeId} {p : Place}
    (hk : d.graph.Entry paths k item) (hitem : (d.graph.entries? item).isSome)
    (hp : d.InPathItem item p) : d.IsPlace paths p :=
  ⟨k, hk.mem_keys, .item hk (.here (ho.inline _ ⟨_, hk⟩)) hitem hp⟩

/-! ### What a document may become -/

/-- What stands in a place is followed, one place after another. -/
inductive Advances (d : Document) (paths : NodeId) : Document → Prop
  | start : Advances d paths d
  | entry {e : Document} {i v w : NodeId} {k : Scalar} (h : Advances d paths e)
      (hp : d.IsPlace paths (.entry i k)) (hv : e.graph.Entry i k v) (hw : e.Leads v w) :
      Advances d paths { e with graph := e.graph.setEntry i k w }
  | parameters {e : Document} {o p : NodeId} {is js : List NodeId} (h : Advances d paths e)
      (hf : e.graph.field? o "parameters" = some p) (his : e.graph.items? p = some is)
      (hjs : List.Forall₂ e.Leads is js) :
      Advances d paths { e with graph := e.graph.withParameters o js }

namespace Advances

lemma isSound (hd : d.IsSound) (h : d.Advances paths e) : e.IsSound := by
  induction h with
  | start => exact hd
  | entry _ _ hv hw ih =>
    have hlt := hw.lt_size ih (ih.closed.lt_of_entry hv)
    refine ⟨ih.toIsSound.setEntry hv hlt, ?_⟩
    rw [size_setEntry]
    exact ih.root
  | @parameters e _ p is js _ hf his hjs ih =>
    have hp := ih.keyed.field?_iff.1 hf
    have hlt : ∀ j ∈ js, j < e.graph.nodes.size := by
      intro j hj
      obtain ⟨i, hi, hij⟩ := exists_of_mem_right hjs hj
      exact hij.lt_size ih (ih.closed.lt_of_item his hi)
    refine ⟨ih.toIsSound.withParameters hp hlt, ?_⟩
    rw [size_withParameters]
    exact Nat.lt_succ_of_lt ih.root

lemma evolves (hd : d.IsSound) (h : d.Advances paths e) : Evolves d e := by
  induction h with
  | start => exact .refl d
  | @entry e _ v _ _ h _ hv hw ih =>
    obtain ⟨es, hes, hmem⟩ := hv
    refine ih.trans ⟨rfl, evolves_setEntry hes ((h.isSound hd).keyed.lookupKey_of_mem hes hmem) ?_⟩
    by_cases hr : e.graph.IsReference v
    · exact .inr (.inl ⟨hr, hw.not_isReference⟩)
    · exact .inl (hw.eq_of_not_isReference hr)
  | parameters h hf his hjs ih =>
    obtain ⟨es, hes, hl⟩ := Option.bind_eq_some_iff.1 hf
    have hpush := evolves_push fun j hj => by
      obtain ⟨i, -, hij⟩ := exists_of_mem_right hjs hj
      exact hij.not_isReference
    obtain ⟨hlist, hsettled⟩ := hpush.added _ (Nat.le_refl _)
    refine ih.trans ⟨rfl, hpush.trans ?_⟩
    exact evolves_setEntry (entries?_push _ hes) hl (.inr (.inr ⟨rfl, hlist, hsettled⟩))

/-- A map that is no reference stays where it stands under a key. -/
lemma entry_of_isMap (hd : d.IsSound) (h : d.Advances paths e) (hv : d.graph.Entry i k v)
    (hr : ¬d.graph.IsReference v) (hmap : (d.graph.entries? v).isSome) : e.graph.Entry i k v := by
  induction h with
  | start => exact hv
  | @entry e j _ _ l h _ hv' hw ih =>
    have hkeyed := (h.isSound hd).keyed
    refine (entry_setEntry hkeyed hv').2 ?_
    by_cases heq : i = j ∧ k = l
    · obtain ⟨rfl, rfl⟩ := heq
      obtain rfl := hkeyed.entry_unique ih hv'
      refine .inl ⟨rfl, rfl, (hw.eq_of_not_isReference ?_).symm⟩
      rwa [(h.evolves hd).graph.isReference_iff]
    · exact .inr ⟨heq, ih⟩
  | @parameters e _ p is js h hf his _ ih =>
    have hsound := h.isSound hd
    have hp := hsound.keyed.field?_iff.1 hf
    have ih : e.graph.Part i (some k) v := ih
    refine (part_withParameters hsound.keyed hp).2 (.inr ⟨?_, .inr ih⟩)
    -- What is replaced is a list.
    rintro ⟨rfl, hk⟩
    cases hk
    obtain rfl := hsound.keyed.entry_unique ih hp
    obtain ⟨es, hes⟩ := Option.isSome_iff_exists.1 hmap
    obtain ⟨es', hes', -⟩ := (h.evolves hd).graph.maps _ _ hes
    rw [entries?_eq_none_of_items? his] at hes'
    cases hes'

/-- What stands under a path is no reference. -/
lemma not_isReference_of_path (hd : d.IsSound) (ho : d.IsOrdered paths)
    (h : d.Advances paths e) (hv : e.graph.Entry paths k v) : ¬e.graph.IsReference v := by
  have hevolves := (h.evolves hd).graph
  obtain ⟨es, hes, hmem⟩ := hv
  obtain ⟨es₀, k₀, v₀, hes₀, hl₀, -, hm⟩ :=
    hevolves.lookup hes ((h.isSound hd).keyed.lookupKey_of_mem hes hmem)
  obtain ⟨e₀, he₀, rfl⟩ := Option.map_eq_some_iff.1 hl₀
  have hr₀ := ho.inline _ ⟨_, es₀, hes₀, List.mem_of_find?_eq_some he₀⟩
  cases hm with
  | kept => rwa [hevolves.isReference_iff]
  | followed hr => exact absurd hr hr₀
  | listed _ hs => exact hs.self

/-- Operations stay where they are, and so do their responses. -/
lemma field?_eq (hd : d.IsSound) (ho : d.IsOrdered paths) (h : d.Advances paths e)
    {name : String} (hname : name ≠ "parameters" ∧ name ≠ "requestBody")
    (hi : ¬d.AreResponses paths i) : e.graph.field? i name = d.graph.field? i name := by
  induction h with
  | start => rfl
  | @entry e j v w l h hp hv hw ih =>
    have hkeyed := (h.isSound hd).keyed
    rw [← ih]
    by_cases heq : i = j ∧ .text name = l
    · obtain ⟨rfl, rfl⟩ := heq
      -- Of these places only paths are left, and no reference stands there.
      obtain rfl : i = paths := by
        rcases ho.place_cases hp with hi' | hk | hi'
        · exact hi'
        · exact absurd (Scalar.text.inj hk) hname.2
        · exact absurd hi' hi
      obtain rfl := hw.eq_of_not_isReference (not_isReference_of_path hd ho h hv)
      rw [hkeyed.field?_iff.2 hv, (hkeyed.setEntry hv).field?_iff, entry_setEntry hkeyed hv]
      exact .inl ⟨rfl, rfl, rfl⟩
    · exact field?_setEntry_of_ne hkeyed hv heq
  | parameters h hf _ _ ih =>
    have hkeyed := (h.isSound hd).keyed
    rw [← ih, field?_withParameters_of_ne hkeyed (hkeyed.field?_iff.1 hf) hname.1]

end Advances

/-- What stands in a place is followed, one place after another, and the references keep clear. -/
inductive Becomes (d : Document) (paths n : NodeId) (ends : NodeId → Prop) : Document → Prop
  | start : Becomes d paths n ends d
  | entry {e : Document} {i v w : NodeId} {k : Scalar} (h : Becomes d paths n ends e)
      (hp : d.IsPlace paths (.entry i k)) (hv : e.graph.Entry i k v) (hc : e.IsClear n ends v)
      (hw : e.Leads v w) : Becomes d paths n ends { e with graph := e.graph.setEntry i k w }
  | parameters {e : Document} {o p : NodeId} {is js : List NodeId} (h : Becomes d paths n ends e)
      (hf : e.graph.field? o "parameters" = some p) (his : e.graph.items? p = some is)
      (hc : ∀ v ∈ is, e.IsClear n ends v) (hjs : List.Forall₂ e.Leads is js) :
      Becomes d paths n ends { e with graph := e.graph.withParameters o js }

namespace Becomes

lemma advances (h : d.Becomes paths n ends e) : d.Advances paths e := by
  induction h with
  | start => exact .start
  | entry _ hp hv _ hw ih => exact .entry ih hp hv hw
  | parameters _ hf his _ hjs ih => exact .parameters ih hf his hjs

/-- A node that no reference may end at comes to stand nowhere else. -/
theorem part (hd : d.IsSound) (h : d.Becomes paths n ends e) (hends : ends v)
    (hlt : v < d.graph.nodes.size) (hkey : ∀ i, ¬d.graph.Part i none v)
    (hv : e.graph.Part i pos v) : d.graph.Part i pos v := by
  induction h generalizing i pos with
  | start => exact hv
  | entry h _ hv' hc hw ih =>
    rcases (part_setEntry (h.advances.isSound hd).keyed hv').1 hv with ⟨rfl, rfl, rfl⟩ | ⟨-, hv⟩
    · obtain rfl := hc.eq_of_leads hw hends
      exact ih hv'
    · exact ih hv
  | @parameters e _ p is js h hf his hc hjs ih =>
    have hsound := h.advances.isSound hd
    have hp' := hsound.keyed.field?_iff.1 hf
    rcases (part_withParameters hsound.keyed hp').1 hv with
      ⟨-, -, rfl⟩ | ⟨-, ⟨-, -, hmem⟩ | hv⟩
    · exact absurd hlt (Nat.not_lt.2 (h.advances.evolves hd).graph.size)
    · obtain ⟨z, hz, hzv⟩ := exists_of_mem_right hjs hmem
      obtain rfl := (hc z hz).eq_of_leads hzv hends
      exact absurd (ih (part_item his hz)) (hkey _)
    · exact ih hv

end Becomes

end Document

end ApiBridge
