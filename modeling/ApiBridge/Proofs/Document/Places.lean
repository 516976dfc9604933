import ApiBridge.Proofs.Document.Following

/-!
# The places where references are resolved

Resolving goes through path items and operations and follows what stands in certain places of
theirs. Which places these are can be said of the document as it is before, since a path item is
what the references under a path lead to.
-/

namespace ApiBridge

namespace Layer

variable {α : Type}

/-- The parts of a container. -/
def parts : Layer α → List α
  | .list items => items
  | .map entries => entries.map (·.2)
  | .pair a b => [a, b]
  | .scalar _ | .set _ => []

end Layer

namespace Graph

variable {g : Graph} {i v w : NodeId} {k : Scalar}

/-! ### Entries -/

/-- The parts of each node are nodes. -/
def Closed (g : Graph) : Prop :=
  ∀ i, ∀ v ∈ (g.node i).parts, v < g.nodes.size

/-- The keys of each map all differ, and all that nodes refer to is there. -/
structure IsSound (g : Graph) : Prop where
  keyed : g.Keyed
  closed : g.Closed

/-- A map has an entry. -/
def Entry (g : Graph) (i : NodeId) (k : Scalar) (v : NodeId) : Prop :=
  ∃ es, g.entries? i = some es ∧ (k, v) ∈ es

lemma node_eq_of_items? {is : List NodeId} (h : g.items? i = some is) : g.node i = .list is := by
  cases hn : g.node i with
  | list is' => simpa [items?, hn, Layer.items?] using h
  | _ => simp [items?, hn, Layer.items?] at h

lemma entries?_eq_none_of_items? {is : List NodeId} (h : g.items? i = some is) :
    g.entries? i = none := by
  rw [entries?, node_eq_of_items? h]
  rfl

lemma lt_size_of_items? {is : List NodeId} (h : g.items? i = some is) : i < g.nodes.size := by
  by_contra hi
  simp [items?, node_of_size_le (Nat.not_lt.1 hi), Layer.items?] at h

lemma entries?_eq_none_of_isSome {g' : Graph}
    (h : (g'.entries? i).isSome = (g.entries? i).isSome) (hn : g.entries? i = none) :
    g'.entries? i = none := by
  rw [hn] at h
  exact Option.not_isSome_iff_eq_none.1 (Bool.eq_false_iff.1 h)

lemma exists_entries?_of_isSome {g' : Graph}
    (h : (g'.entries? i).isSome = (g.entries? i).isSome) {es : List (Scalar × NodeId)}
    (hes : g.entries? i = some es) : ∃ es', g'.entries? i = some es' := by
  rw [hes] at h
  exact Option.isSome_iff_exists.1 h

lemma Closed.lt_of_entry (hc : g.Closed) (h : g.Entry i k v) : v < g.nodes.size := by
  obtain ⟨es, hes, hmem⟩ := h
  refine hc i v ?_
  rw [node_eq_of_entries? hes, Layer.parts]
  exact List.mem_map_of_mem hmem

lemma Closed.lt_of_item (hc : g.Closed) {is : List NodeId} (h : g.items? i = some is)
    (hv : v ∈ is) : v < g.nodes.size := by
  refine hc i v ?_
  rwa [node_eq_of_items? h, Layer.parts]

lemma mem_keys_iff : k ∈ g.keys i ↔ ∃ v, g.Entry i k v := by
  unfold keys Entry
  cases g.entries? i with
  | none => simp
  | some es => simp

lemma Entry.mem_keys (h : g.Entry i k v) : k ∈ g.keys i :=
  mem_keys_iff.2 ⟨v, h⟩

lemma Keyed.lookup_entry (hk : g.Keyed) (h : g.Entry i k v) :
    (g.entries? i).bind (lookupKey k) = some v := by
  obtain ⟨es, hes, hmem⟩ := h
  rw [hes, Option.bind_some]
  exact hk.lookupKey_of_mem hes hmem

lemma Keyed.entry_unique (hk : g.Keyed) (h : g.Entry i k v) (h' : g.Entry i k w) : v = w :=
  Option.some.inj ((hk.lookup_entry h).symm.trans (hk.lookup_entry h'))

lemma Keyed.lookup_iff_of_mem (hk : g.Keyed) (hmem : k ∈ g.keys i) :
    (g.entries? i).bind (lookupKey k) = some v ↔ g.Entry i k v := by
  obtain ⟨w, hw⟩ := mem_keys_iff.1 hmem
  rw [hk.lookup_entry hw, Option.some.injEq]
  constructor
  · rintro rfl
    exact hw
  · exact hk.entry_unique hw

lemma Keyed.field?_iff (hk : g.Keyed) {name : String} :
    g.field? i name = some v ↔ g.Entry i (.text name) v := by
  constructor
  · intro h
    obtain ⟨es, hes, hl⟩ := Option.bind_eq_some_iff.1 h
    have hmem : .text name ∈ g.keys i := by
      obtain ⟨k, hk', hs⟩ := lookupKey_isSome_iff.1 (Option.isSome_of_mem hl)
      obtain rfl := Scalar.same_text_iff.1 hs
      rw [keys, show g.entries? i = some es from hes]
      exact hk'
    exact (hk.lookup_iff_of_mem hmem).1 h
  · exact hk.lookup_entry

/-- A step of a pointer leads to a part. -/
lemma mem_parts_of_step {target segment : String} (h : Pointer.step g target i segment = .ok v) :
    v ∈ (g.node i).parts := by
  unfold Pointer.step at h
  split at h
  case h_1 es hn =>
    split at h
    case h_1 hl =>
      cases h
      obtain ⟨e, he, rfl⟩ := Option.map_eq_some_iff.1 hl
      rw [hn, Layer.parts]
      exact List.mem_map_of_mem (List.mem_of_find?_eq_some he)
    case h_2 => cases h
  case h_2 is hn =>
    split at h
    case h_1 hl =>
      cases h
      obtain ⟨index, -, hl⟩ := Option.bind_eq_some_iff.1 hl
      rw [hn, Layer.parts]
      unfold Pointer.itemAt? at hl
      split at hl
      · exact List.mem_of_getElem? hl
      · split at hl
        · exact List.mem_of_getElem? hl
        · cases hl
    case h_2 => cases h
  case h_3 => cases h

lemma Closed.lt_of_steps (hc : g.Closed) {target : String} {segments : List String}
    (hi : i < g.nodes.size) (h : segments.foldlM (Pointer.step g target) i = .ok v) :
    v < g.nodes.size := by
  induction segments generalizing i with
  | nil =>
    cases h
    exact hi
  | cons s segments ih =>
    obtain ⟨j, hj, h⟩ := bind_eq_ok_iff.1 h
    exact ih (hc i j (mem_parts_of_step hj)) h

end Graph

namespace Document

/-- The graph is sound, and the document is a node of it. -/
structure IsSound (d : Document) : Prop extends d.graph.IsSound where
  root : d.root < d.graph.nodes.size

variable {d : Document} {v w : NodeId}

lemma IsSound.lt_of_next? (hd : d.IsSound) (h : d.next? v = some w) :
    w < d.graph.nodes.size := by
  obtain ⟨r, target, -, -, hloc⟩ := next?_eq_some_iff.1 h
  unfold locate at hloc
  split at hloc
  case h_1 => cases hloc
  case h_2 => exact hd.closed.lt_of_steps hd.root hloc

lemma Leads.lt_size (hd : d.IsSound) (h : d.Leads v w) (hv : v < d.graph.nodes.size) :
    w < d.graph.nodes.size := by
  induction h with
  | here => exact hv
  | step h _ ih => exact ih (hd.lt_of_next? h)

end Document

/-! ### Places -/

namespace Document

open ApiBridge.Graph

/-- A place where references are resolved: an entry of a map, or the list of its parameters. -/
inductive Place
  | entry (i : NodeId) (k : Scalar)
  | parameters (o : NodeId)

/-- What stands in a place. -/
inductive Holds (d : Document) : Place → NodeId → Prop
  | entry {i : NodeId} {k : Scalar} {v : NodeId} (h : d.graph.Entry i k v) :
      Holds d (.entry i k) v
  | parameter {o p v : NodeId} {is : List NodeId} (hp : d.graph.field? o "parameters" = some p)
      (his : d.graph.items? p = some is) (hv : v ∈ is) : Holds d (.parameters o) v

/-- All that stands in a place leads somewhere. -/
def Completes (d : Document) (p : Place) : Prop :=
  ∀ v, d.Holds p v → ∃ w, d.Leads v w

/-- The places of an operation. -/
inductive InOperation (d : Document) (o : NodeId) : Place → Prop
  | parameters : InOperation d o (.parameters o)
  | body : InOperation d o (.entry o (.text "requestBody"))
  | response {r : NodeId} {k : Scalar} (hr : d.graph.field? o "responses" = some r)
      (hk : k ∈ d.graph.keys r) : InOperation d o (.entry r k)

/-- The places of a path item. -/
inductive InPathItem (d : Document) (i : NodeId) : Place → Prop
  | parameters : InPathItem d i (.parameters i)
  | operation {m : Method} {o : NodeId} {p : Place} (ho : d.graph.field? i m.key = some o)
      (hmap : (d.graph.entries? o).isSome) (hp : d.InOperation o p) : InPathItem d i p

/-- The places under a path: the path itself, and those of the path item that is found there. -/
inductive InPath (d : Document) (paths : NodeId) (k : Scalar) : Place → Prop
  | self : InPath d paths k (.entry paths k)
  | item {v i : NodeId} {p : Place} (hv : d.graph.Entry paths k v) (hi : d.Leads v i)
      (hmap : (d.graph.entries? i).isSome) (hp : d.InPathItem i p) : InPath d paths k p

/-- The places under all paths. -/
def IsPlace (d : Document) (paths : NodeId) (p : Place) : Prop :=
  ∃ k ∈ d.graph.keys paths, d.InPath paths k p

/-- What references are followed from: what stands in the places, and what it leads to. -/
inductive IsMet (d : Document) (paths : NodeId) : NodeId → Prop
  | held {p : Place} {v : NodeId} (hp : d.IsPlace paths p) (hv : d.Holds p v) : IsMet d paths v
  | next {v w : NodeId} (hv : IsMet d paths v) (h : d.next? v = some w) : IsMet d paths w

lemma IsMet.leads {d : Document} {paths v w : NodeId} (h : d.IsMet paths v) (hw : d.Leads v w) :
    d.IsMet paths w := by
  induction hw with
  | here => exact h
  | step hk _ ih => exact ih (h.next hk)

/-! ### Straight documents -/

/-- The way along the segments does not go through a reference, and does not end at a list. -/
def isDirectFrom (g : Graph) (target : String) (i : NodeId) : List String → Bool
  | [] => (g.items? i).isNone
  | s :: segments =>
    (reference? g i).isNone &&
      match Pointer.step g target i s with
      | .ok j => isDirectFrom g target j segments
      | .error _ => true

/-- The pointer does not go through a reference, and does not end at a list. -/
def isDirect (d : Document) (target : String) : Bool :=
  match Pointer.segments? target with
  | none => true
  | some segments => isDirectFrom d.graph target d.root segments

/-- The names of the parts that path items and operations are made of. -/
def partNames : List String :=
  ["$ref", "parameters", "responses"] ++ Method.all.map Method.key

/-- The references to follow go through no references, and where there is one under a path or
under a status code, that is not named like a part of a path item or of an operation. -/
structure IsStraight (d : Document) (paths : NodeId) : Prop where
  direct : ∀ v target, d.IsMet paths v → target? d.graph v = some target → d.isDirect target
  names : ∀ i name v, d.IsPlace paths (.entry i (.text name)) →
    d.graph.field? i name = some v → d.graph.IsReference v → name ∉ partNames

/-- It is enough to look at each node once, whether it is met or not. -/
lemma IsStraight.of_nodes {d : Document} {paths : NodeId}
    (hdirect : ∀ i < d.graph.nodes.size, (target? d.graph i).all d.isDirect = true)
    (hnames : ∀ i < d.graph.nodes.size, ∀ name ∈ partNames,
      (d.graph.field? i name).all (fun v => (reference? d.graph v).isNone) = true) :
    d.IsStraight paths where
  direct v target _ ht := by
    obtain ⟨r, hr, -⟩ := Option.bind_eq_some_iff.1 ht
    obtain ⟨es, hes, -⟩ := Option.bind_eq_some_iff.1 hr
    have hdirect := hdirect v (lt_size_of_entries? hes)
    rwa [ht, Option.all_some] at hdirect
  names i name v _ hv hr hname := by
    obtain ⟨es, hes, -⟩ := Option.bind_eq_some_iff.1 hv
    have hnames := hnames i (lt_size_of_entries? hes) name hname
    rw [hv, Option.all_some, Option.isNone_iff_eq_none] at hnames
    simp [IsReference, hnames] at hr

end Document

end ApiBridge
