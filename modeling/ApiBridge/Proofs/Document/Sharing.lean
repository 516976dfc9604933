import ApiBridge.Proofs.Document.Addresses
import ApiBridge.Proofs.Document.Enlarging
import ApiBridge.Proofs.Document.Forest
import ApiBridge.Proofs.Document.SideBySide

/-!
# Parts that are shared

A parameter, a body or a response of an operation may be put into the components of the document,
and a reference to it, or a chain of references, may take its place. What the operation had by
itself it then has by a detour.
-/

namespace ApiBridge

namespace Document

open ApiBridge.Graph

/-! ### Parts of operations -/

/-- A spot: an item of a list, or an entry of a map. -/
inductive Spot
  | item (list : NodeId) (index : Nat)
  | entry (map : NodeId) (key : Scalar)

/-- The list or the map of a spot. -/
def Spot.owner : Spot → NodeId
  | item list _ => list
  | entry map _ => map

/-- The place of an operation that a spot belongs to. -/
def Spot.place (op : NodeId) : Spot → Place
  | item _ _ => .parameters op
  | entry map key => .entry map key

/-- A parameter, the body or a response of an operation, with its spot and the section of the
components that is for its kind. -/
inductive IsPart (d : Document) (op : NodeId) : Spot → String → NodeId → Prop
  | parameter {p n : NodeId} {is : List NodeId} {index : Nat}
      (hp : d.graph.field? op "parameters" = some p) (his : d.graph.items? p = some is)
      (hn : is[index]? = some n) : IsPart d op (.item p index) "parameters" n
  | body {n : NodeId} (hn : d.graph.Entry op (.text "requestBody") n) :
      IsPart d op (.entry op (.text "requestBody")) "requestBodies" n
  | response {r n : NodeId} {k : Scalar} (hr : d.graph.field? op "responses" = some r)
      (hn : d.graph.Entry r k n) (hk : k ≠ .text "$ref") : IsPart d op (.entry r k) "responses" n

end Document

/-- Let a spot hold another node. -/
def Graph.setSpot (g : Graph) : Document.Spot → NodeId → Graph
  | .item list index, q => g.put list (.list (((g.items? list).getD []).set index q))
  | .entry map key, q => g.setEntry map key q

namespace Document

open ApiBridge.Graph

/-! ### Sharing -/

/-- The section of the components, and the graph with it. -/
def openSection (d : Document) (kind : String) : NodeId × Graph :=
  let (components, g) := d.graph.openMap d.root "components"
  g.openMap components kind

/-- Put a node under a name of a section, and add a reference to it. -/
def addLink (s : NodeId) (kind : String) (link : NodeId × Graph) (name : String) :
    NodeId × Graph :=
  (link.2.setEntry s (.text name) link.1).addReference
    (Pointer.ofSegments ["components", kind, name])

/-- Share the node `n` of a spot: it stands under the first of some names in a section of the
components, a reference to it under the second, and so on; a reference to what stands under the last
name takes its spot. -/
def share (d : Document) (spot : Spot) (kind : String) (names : List String) (n : NodeId) :
    Document :=
  let (s, g) := d.openSection kind
  let (q, g) := names.foldl (addLink s kind) (n, g)
  { d with graph := g.setSpot spot q }

/-- The maps that entries may be added to: the whole document, the components and the section. -/
inductive IsOpened (d : Document) (kind : String) : NodeId → Prop
  | root : IsOpened d kind d.root
  | components {c : NodeId} (hc : d.field? "components" = some c) : IsOpened d kind c
  | shelf {c s : NodeId} (hc : d.field? "components" = some c)
      (hs : d.graph.field? c kind = some s) : IsOpened d kind s

/-- There is room for new names in a section: the components and the section are maps, if they are
there, and stand nowhere else, and the names are new. -/
structure HasRoom (d : Document) (kind : String) (names : List String) : Prop where
  root : ∀ i pos, ¬d.graph.Part i pos d.root
  components : ∀ c, d.field? "components" = some c →
    (d.graph.entries? c).isSome ∧ d.graph.Lone c d.root (.text "components")
  shelf : ∀ c s, d.field? "components" = some c → d.graph.field? c kind = some s →
    (d.graph.entries? s).isSome ∧ d.graph.Lone s c (.text kind) ∧
      ∀ name ∈ names, .text name ∉ d.graph.keys s
  named : names ≠ []
  nodup : names.Nodup

/-- In a tree there is room where the components and the section are maps, if they are there. -/
lemma IsTree.hasRoom {d : Document} {kind : String} {names : List String} (h : d.IsTree)
    (hk : d.graph.Keyed) (hc : ∀ c, d.field? "components" = some c → (d.graph.entries? c).isSome)
    (hs : ∀ c s, d.field? "components" = some c → d.graph.field? c kind = some s →
      (d.graph.entries? s).isSome ∧ ∀ name ∈ names, .text name ∉ d.graph.keys s)
    (hnames : names ≠ []) (hnodup : names.Nodup) : d.HasRoom kind names where
  root _ _ := h.not_part_root
  components c hc' := ⟨hc c hc', h.lone (hk.field?_iff.1 hc')⟩
  shelf c s hc' hs' := by
    obtain ⟨hmap, hfresh⟩ := hs c s hc' hs'
    exact ⟨hmap, h.lone (hk.field?_iff.1 hs'), hfresh⟩
  named := hnames
  nodup := hnodup

/-- Where sharing may add entries. -/
inductive MayAdd (d : Document) (kind : String) (names : List String) : NodeId → Scalar → Prop
  | components : MayAdd d kind names d.root (.text "components")
  | kind {c : NodeId} (hc : d.field? "components" = some c) : MayAdd d kind names c (.text kind)
  | name {c s : NodeId} {name : String} (hc : d.field? "components" = some c)
      (hs : d.graph.field? c kind = some s) (hname : name ∈ names) :
      MayAdd d kind names s (.text name)
  | added {i : NodeId} {k : Scalar} (hi : d.graph.nodes.size ≤ i) : MayAdd d kind names i k

variable {d : Document} {g g' : Graph} {paths op n q s i v : NodeId} {kind : String}
  {names : List String} {k : Scalar} {pos : Option Scalar} {spot : Spot}

lemma MayAdd.isOpened (h : d.MayAdd kind names i k) :
    d.IsOpened kind i ∨ d.graph.nodes.size ≤ i := by
  cases h with
  | components => exact .inl .root
  | kind hc => exact .inl (.components hc)
  | name hc hs => exact .inl (.shelf hc hs)
  | added hi => exact .inr hi

lemma HasRoom.ne_root (h : d.HasRoom kind names) (hd : d.IsSound) {name : String}
    (hv : d.graph.field? i name = some v) : v ≠ d.root := by
  rintro rfl
  exact h.root i (some (.text name)) (hd.keyed.field?_iff.1 hv)

/-- The section is not the components themselves. -/
lemma HasRoom.ne_components (h : d.HasRoom kind names) (hd : d.IsSound) {c : NodeId}
    (hc : d.field? "components" = some c) (hs : d.graph.field? c kind = some s) : c ≠ s := by
  rintro rfl
  have hpart : d.graph.Part d.root (some (.text "components")) c := hd.keyed.field?_iff.1 hc
  exact h.ne_root hd hc ((h.shelf c c hc hs).2.1 _ _ hpart).1.symm

/-- Nothing but maps that are opened leads to one, and that where an entry might be added. -/
lemma HasRoom.part (h : d.HasRoom kind names) (hv : d.IsOpened kind v)
    (hpart : d.graph.Part i pos v) :
    d.IsOpened kind i ∧ ∃ k, pos = some k ∧ d.MayAdd kind names i k := by
  cases hv with
  | root => exact absurd hpart (h.root i pos)
  | components hc =>
    obtain ⟨rfl, rfl⟩ := (h.components _ hc).2 i pos hpart
    exact ⟨.root, _, rfl, .components⟩
  | shelf hc hs =>
    obtain ⟨rfl, rfl⟩ := (h.shelf _ _ hc hs).2.1 i pos hpart
    exact ⟨.components hc, _, rfl, .kind hc⟩

/-! ### The section -/

/-- The components `c` hold the section `s`, and otherwise what they held before. -/
structure Branches (d : Document) (kind : String) (c s : NodeId) (g : Graph) : Prop where
  components : g.field? d.root "components" = some c
  shelf : g.field? c kind = some s
  opened : d.IsOpened kind c ∨ d.graph.nodes.size ≤ c
  ne : c ≠ s
  others : ∀ name, name ≠ kind →
    g.field? c name = (d.field? "components").bind (d.graph.field? · name)

/-- What is there once the section is: maps under the names that lead to it. -/
structure SectionOpened (d : Document) (kind : String) (names : List String) (s : NodeId)
    (g : Graph) : Prop where
  enlarges : Enlarges (d.MayAdd kind names) d.graph g
  branches : ∃ c, d.Branches kind c s g
  isMap : (g.entries? s).isSome
  fresh : ∀ name ∈ names, .text name ∉ g.keys s
  mayAdd : ∀ name ∈ names, d.MayAdd kind names s (.text name)

lemma sectionOpened (hd : d.IsSound) (hroom : d.HasRoom kind names)
    (hroot : (d.graph.entries? d.root).isSome) :
    d.SectionOpened kind names (d.openSection kind).1 (d.openSection kind).2 := by
  have henlarges : Enlarges (d.MayAdd kind names) d.graph (d.graph.openMap d.root "components").2 :=
    enlarges_openMap hd.toIsSound .components hroot
  have hfield : (d.graph.openMap d.root "components").2.field? d.root "components" =
      some (d.graph.openMap d.root "components").1 := field?_openMap hd.toIsSound hroot
  have hsection : d.openSection kind = (d.graph.openMap d.root "components").2.openMap
    (d.graph.openMap d.root "components").1 kind := rfl
  rw [hsection]
  -- A section that is there is one of the document; otherwise it has no entries yet.
  cases hc : d.field? "components" with
  | some c =>
    have hmap := (hroom.components c hc).1
    have henlarges' : Enlarges (d.MayAdd kind names) d.graph (d.graph.openMap c kind).2 :=
      enlarges_openMap hd.toIsSound (.kind hc) hmap
    have hother : Enlarges (fun _ k => k = .text kind) d.graph (d.graph.openMap c kind).2 :=
      enlarges_openMap hd.toIsSound rfl hmap
    rw [openMap_of_some hc]
    refine ⟨henlarges', ⟨c, ?_, field?_openMap hd.toIsSound hmap, .inl (.components hc), ?_,
      fun name hname => ?_⟩, isSome_entries?_openMap hmap fun s hs => (hroom.shelf c s hc hs).1,
      fun name hname hmem => ?_, fun name hname => ?_⟩
    · exact henlarges'.field?_of_some hd.toIsSound hc
    · exact ne_openMap hmap fun s hs => hroom.ne_components hd hc hs
    · have hlt := lt_size_of_entries? (Option.isSome_iff_exists.1 hmap).choose_spec
      rw [hother.field?_eq hd.toIsSound hlt fun hk => hname (Scalar.text.inj hk), hc,
        Option.bind_some]
    · obtain ⟨s, hs, hmem⟩ := mem_keys_openMap hmap hmem
      exact (hroom.shelf c s hc hs).2.2 name hname hmem
    · cases hs : d.graph.field? c kind with
      | some s =>
        rw [openMap_of_some hs]
        exact .name hc hs hname
      | none =>
        rw [openMap_of_none hs]
        exact .added (Nat.le_refl _)
  | none =>
    obtain ⟨es, hes⟩ := Option.isSome_iff_exists.1 hroot
    have hnew : d.graph.nodes.size ≤ (d.graph.openMap d.root "components").1 :=
      Nat.le_of_eq (congrArg Prod.fst (openMap_of_none (i := d.root) hc)).symm
    have hempty := entries?_openMap_of_none hc hes
    generalize d.graph.openMap d.root "components" = opened at henlarges hfield hnew hempty ⊢
    obtain ⟨c, g⟩ := opened
    have hmap : (g.entries? c).isSome := Option.isSome_of_mem hempty
    have hnone : g.field? c kind = none := by
      rw [Graph.field?, Layer.field?, ← entries?, hempty]
      rfl
    have henlarges' : Enlarges (d.MayAdd kind names) g (g.openMap c kind).2 :=
      enlarges_openMap henlarges.sound (.added hnew) hmap
    have hother : Enlarges (fun _ k => k = .text kind) g (g.openMap c kind).2 :=
      enlarges_openMap henlarges.sound rfl hmap
    refine ⟨henlarges.trans henlarges', ⟨c, henlarges'.field?_of_some henlarges.sound hfield,
      field?_openMap henlarges.sound hmap, .inr hnew, ne_openMap hmap fun s hs => ?_,
      fun name hname => ?_⟩, isSome_entries?_openMap hmap fun s hs => ?_, fun name _ hmem => ?_,
      fun name _ => ?_⟩
    · rw [hnone] at hs
      cases hs
    · rw [hother.field?_eq henlarges.sound (lt_size_of_entries? hempty)
        fun hk => hname (Scalar.text.inj hk), hc, Graph.field?, Layer.field?, ← entries?, hempty]
      rfl
    · rw [hnone] at hs
      cases hs
    · obtain ⟨s, hs, -⟩ := mem_keys_openMap hmap hmem
      rw [hnone] at hs
      cases hs
    · rw [openMap_of_none hnone]
      exact .added henlarges.size

/-! ### The references -/

/-- A node is reached from `q` by references to names of the section, all of them new. -/
inductive Linked (d : Document) (g : Graph) (kind : String) (s n : NodeId) : NodeId → Prop
  | here : Linked d g kind s n n
  | link {i q t : NodeId} {name : String} (h : Linked d g kind s n i)
      (hname : g.Entry s (.text name) i) (hq : g.Entry q (.text "$ref") t)
      (ht : g.node t = .scalar (.text (Pointer.ofSegments ["components", kind, name])))
      (hnew : d.graph.nodes.size ≤ q ∧ d.graph.nodes.size ≤ t) : Linked d g kind s n q

lemma Linked.mono {A : NodeId → Scalar → Prop} (h : d.Linked g kind s n q)
    (hg : Enlarges A g g') : d.Linked g' kind s n q := by
  induction h with
  | here => exact .here
  | link _ hname hq ht hnew ih =>
    refine .link ih (hg.entry hname) (hg.entry hq) ?_ hnew
    rw [hg.others _ (lt_size_of_node ht (by simp)) (by rw [entries?, ht]; rfl), ht]

/-- References from the node `q` have been added, and there is room for the names in `rest`. -/
structure Chained (d : Document) (kind : String) (names : List String) (s n : NodeId)
    (rest : List String) (q : NodeId) (g : Graph) : Prop where
  enlarges : Enlarges (d.MayAdd kind names) d.graph g
  branches : ∃ c, d.Branches kind c s g
  isMap : (g.entries? s).isSome
  fresh : ∀ name ∈ rest, .text name ∉ g.keys s
  mayAdd : ∀ name ∈ rest, d.MayAdd kind names s (.text name)
  lt_size : q < g.nodes.size
  linked : d.Linked g kind s n q

namespace Chained

variable {rest rest' : List String} {name : String}

/-- With a name the entry and the reference for it are added. -/
lemma enlarges_addLink {A : NodeId → Scalar → Prop}
    (h : d.Chained kind names s n (name :: rest) q g) (hA : A s (.text name)) :
    Enlarges A g (g.setEntry s (.text name) q) ∧
      (g.setEntry s (.text name) q).Entry s (.text name) q ∧
      ∀ k, k ∈ (g.setEntry s (.text name) q).keys s → k ∈ g.keys s ∨ k = .text name := by
  obtain ⟨es, hes⟩ := Option.isSome_iff_exists.1 h.isMap
  have hfresh : ∀ e ∈ es, e.1.same (.text name) = false := by
    intro e he
    rw [Bool.eq_false_iff, ne_eq, Scalar.same_text_iff]
    intro heq
    refine h.fresh name List.mem_cons_self ?_
    rw [Graph.keys, hes, ← heq]
    exact List.mem_map_of_mem he
  have hset := entries?_setEntry (.text name) q hes
  rw [insertKey_of_forall_ne q hfresh] at hset
  refine ⟨.setEntry h.enlarges.sound hA hes hfresh h.lt_size,
    ⟨_, hset, by simp⟩, fun k hk => ?_⟩
  rw [Graph.keys, hset] at hk
  rw [Graph.keys, hes]
  simpa using hk

lemma addLink (h : d.Chained kind names s n (name :: rest) q g) (hname : name ∉ rest) :
    d.Chained kind names s n rest (addLink s kind (q, g) name).1
      (addLink s kind (q, g) name).2 := by
  obtain ⟨hset, hentry, hkeys⟩ := h.enlarges_addLink (h.mayAdd name List.mem_cons_self)
  have hother : Enlarges (fun i _ => i = s) g (g.setEntry s (.text name) q) :=
    (h.enlarges_addLink rfl).1
  have hother' : Enlarges (fun i _ => i = s) g (Document.addLink s kind (q, g) name).2 :=
    hother.trans (enlarges_addReference hset.sound)
  have href : Enlarges (fun _ _ => False) (g.setEntry s (.text name) q)
      (Document.addLink s kind (q, g) name).2 := enlarges_addReference hset.sound
  have henlarges : Enlarges (d.MayAdd kind names) (g.setEntry s (.text name) q)
      (Document.addLink s kind (q, g) name).2 := enlarges_addReference hset.sound
  have hsize : d.graph.nodes.size ≤ (g.setEntry s (.text name) q).nodes.size :=
    Nat.le_trans h.enlarges.size hset.size
  have hs : (Document.addLink s kind (q, g) name).2.node s = (g.setEntry s (.text name) q).node s :=
    href.node_eq (lt_size_of_entries? hentry.choose_spec.1) fun _ h => h
  obtain ⟨c, hc⟩ := h.branches
  have hclt : c < g.nodes.size := by
    obtain ⟨es, hes, -⟩ := Option.bind_eq_some_iff.1 hc.shelf
    exact lt_size_of_entries? hes
  have hfield := hset.trans henlarges
  refine ⟨h.enlarges.trans hfield, ⟨c, hfield.field?_of_some h.enlarges.sound hc.components,
    hfield.field?_of_some h.enlarges.sound hc.shelf, hc.opened, hc.ne, fun name' hname' => ?_⟩, ?_,
    fun name' hname' hmem => ?_, fun name' hname' => h.mayAdd name' (List.mem_cons_of_mem _ hname'),
    ?_, ?_⟩
  · rw [hother'.field?_eq h.enlarges.sound hclt hc.ne, hc.others name' hname']
  · rw [entries?, hs]
    exact hentry.isSome_entries?
  · rw [Graph.keys, entries?, hs, ← entries?, ← Graph.keys] at hmem
    rcases hkeys _ hmem with hmem | heq
    · exact h.fresh name' (List.mem_cons_of_mem _ hname') hmem
    · rw [Scalar.text.inj heq] at hname'
      exact hname hname'
  · rw [Document.addLink, size_addReference, addReference_eq]
    exact Nat.lt_succ_self _
  · refine .link ((h.linked.mono hset).mono henlarges) (href.entry hentry) entry_addReference
      node_addReference_text ⟨?_, hsize⟩
    rw [Document.addLink, addReference_eq]
    exact Nat.le_succ_of_le hsize

/-- Names are added one after another. -/
lemma foldl (h : d.Chained kind names s n (rest ++ rest') q g) (hrest : (rest ++ rest').Nodup) :
    d.Chained kind names s n rest' (rest.foldl (Document.addLink s kind) (q, g)).1
      (rest.foldl (Document.addLink s kind) (q, g)).2 := by
  induction rest generalizing q g with
  | nil => exact h
  | cons name rest ih =>
    obtain ⟨hname, hrest⟩ := List.nodup_cons.1 hrest
    exact ih (h.addLink hname) hrest

/-- Nothing leads to the last reference, which is new. -/
lemma last (h : d.Chained kind names s n [name] q g) :
    d.graph.nodes.size ≤ (Document.addLink s kind (q, g) name).1 ∧
      (Document.addLink s kind (q, g) name).2.IsReference (Document.addLink s kind (q, g) name).1 ∧
      ∀ i pos, ¬(Document.addLink s kind (q, g) name).2.Part i pos
        (Document.addLink s kind (q, g) name).1 := by
  have hset := (h.enlarges_addLink (h.mayAdd name List.mem_cons_self)).1
  refine ⟨?_, isReference_iff.2 entry_addReference.mem_keys, fun i pos =>
    not_part_addReference hset.sound⟩
  rw [Document.addLink, addReference_eq]
  exact Nat.le_succ_of_le (Nat.le_trans h.enlarges.size hset.size)

end Chained

/-- The references that sharing adds. -/
structure IsLinked (d : Document) (kind : String) (names : List String) (s n q : NodeId)
    (g : Graph) : Prop extends d.Chained kind names s n [] q g where
  new : d.graph.nodes.size ≤ q
  reference : g.IsReference q
  not_part : ∀ i pos, ¬g.Part i pos q

lemma SectionOpened.isLinked (h : d.SectionOpened kind names s g) (hroom : d.HasRoom kind names)
    (hn : n < d.graph.nodes.size) :
    d.IsLinked kind names s n (names.foldl (addLink s kind) (n, g)).1
      (names.foldl (addLink s kind) (n, g)).2 := by
  have hstart : d.Chained kind names s n names n g :=
    ⟨h.enlarges, h.branches, h.isMap, h.fresh, h.mayAdd, Nat.lt_of_lt_of_le hn h.enlarges.size, .here⟩
  have hnodup := hroom.nodup
  obtain ⟨front, name, hnames⟩ := (List.eq_nil_or_concat names).resolve_left hroom.named
  rw [List.concat_eq_append] at hnames
  rw [hnames] at hnodup
  have hfront : d.Chained kind names s n [name] (front.foldl (addLink s kind) (n, g)).1
      (front.foldl (addLink s kind) (n, g)).2 := by
    refine Chained.foldl ?_ hnodup
    rwa [← hnames]
  have hlast : names.foldl (addLink s kind) (n, g) =
      addLink s kind (front.foldl (addLink s kind) (n, g)) name := by
    rw [hnames, List.foldl_append]
    rfl
  rw [hlast]
  obtain ⟨hnew, href, hpart⟩ := hfront.last
  exact ⟨hfront.addLink List.not_mem_nil, hnew, href, hpart⟩

/-- Where the document, its components, the section and the new nodes are as they are now, the
references lead to the node. -/
lemma Linked.leads {e : Document} {c : NodeId} (h : d.Linked g kind s n q) (hg : g.Keyed)
    (hc : g.field? d.root "components" = some c) (hs : g.field? c kind = some s)
    (hroot : e.root = d.root) (hn : ¬e.graph.IsReference n)
    (heq : ∀ i < g.nodes.size, i = d.root ∨ i = c ∨ i = s ∨ d.graph.nodes.size ≤ i →
      e.graph.node i = g.node i) : e.Leads q n := by
  have step {i j : NodeId} {name : String} (target : String)
      (hi : i = d.root ∨ i = c ∨ i = s ∨ d.graph.nodes.size ≤ i)
      (hj : g.field? i name = some j) : Pointer.step e.graph target i name = .ok j := by
    obtain ⟨es, hes, hl⟩ := Option.bind_eq_some_iff.1 hj
    rw [step_congr (heq i (lt_size_of_entries? hes) hi), Pointer.step, node_eq_of_entries? hes]
    simp only [hl]
  induction h with
  | here => exact .here hn
  | @link i q t name _ hname hq ht hnew ih =>
    refine .step (next?_eq_some_iff.2
      ⟨t, Pointer.ofSegments ["components", kind, name], ?_, ?_, ?_⟩) ih
    · have hlt := lt_size_of_entries? hq.choose_spec.1
      rw [reference?, Graph.field?, heq q hlt (.inr (.inr (.inr hnew.1))), ← Graph.field?]
      exact hg.field?_iff.2 hq
    · rw [text?, heq t (lt_size_of_node ht (by simp)) (.inr (.inr (.inr hnew.2))), ht]
      rfl
    · rw [locate, Pointer.segments?_ofSegments (by simp), hroot]
      refine bind_eq_ok_iff.2 ⟨c, step _ (.inl rfl) hc, ?_⟩
      refine bind_eq_ok_iff.2 ⟨s, step _ (.inr (.inl rfl)) hs, ?_⟩
      refine bind_eq_ok_iff.2 ⟨i, step _ (.inr (.inr (.inl rfl))) ?_, rfl⟩
      exact hg.field?_iff.2 hname

/-! ### The spot -/

/-- The spot holds the reference, and nothing else is changed. -/
structure Swapped (d : Document) (op : NodeId) (spot : Spot) (n q : NodeId) (g g' : Graph) :
    Prop where
  size : g'.nodes.size = g.nodes.size
  others : ∀ j, j ≠ spot.owner → g'.node j = g.node j
  owner : (g.node spot.owner).Alike (fun v v' => v' = v ∨ v = n ∧ v' = q) (g'.node spot.owner)
  held : ∀ e : Document, e.graph = g' → e.Holds (spot.place op) q
  slot : ∀ i pos, g'.Part i pos q → g.Part i pos q ∨ d.Stands (spot.place op) i pos

lemma swapped_entry (hg : g.Keyed) (hv : g.Entry i k n) :
    d.Swapped op (.entry i k) n q g (g.setSpot (.entry i k) q) := by
  obtain ⟨es, hes, hmem⟩ := id hv
  refine ⟨size_setEntry, fun j => node_setEntry_of_ne hv, ?_, fun e he => ?_, fun j pos hj => ?_⟩
  · show (g.node i).Alike _ ((g.setEntry i k q).node i)
    rw [node_setEntry hes, if_pos rfl, node_eq_of_entries? hes]
    refine .map ((forall₂_insertKey (hg.lookupKey_of_mem hes hmem)).imp fun e f hef => ?_)
    rcases hef with rfl | ⟨l, -, rfl, rfl⟩
    · exact ⟨rfl, .inl rfl⟩
    · exact ⟨rfl, .inr ⟨rfl, rfl⟩⟩
  · refine .entry ?_
    rw [he]
    exact (entry_setEntry hg hv).2 (.inl ⟨rfl, rfl, rfl⟩)
  · rcases (part_setEntry hg hv).1 hj with ⟨rfl, rfl, -⟩ | ⟨-, hj⟩
    · exact .inr .entry
    · exact .inl hj

/-- An item of a list is replaced. -/
lemma forall₂_set {is : List NodeId} {index : Nat} (h : is[index]? = some n) :
    List.Forall₂ (fun v v' => v' = v ∨ v = n ∧ v' = q) is (is.set index q) := by
  induction is generalizing index with
  | nil => cases h
  | cons i is ih =>
    have hsame : List.Forall₂ (fun v v' => v' = v ∨ v = n ∧ v' = q) is is :=
      List.forall₂_same.2 fun _ _ => .inl rfl
    cases index with
    | zero =>
      rw [List.getElem?_cons_zero, Option.some.injEq] at h
      exact .cons (.inr ⟨h, rfl⟩) hsame
    | succ index => exact .cons (.inl rfl) (ih (by simpa using h))

lemma swapped_item {p : NodeId} {is : List NodeId} {index : Nat}
    (hp : d.graph.field? op "parameters" = some p) (hop : g.node op = d.graph.node op)
    (his : g.items? p = some is) (hn : is[index]? = some n) :
    d.Swapped op (.item p index) n q g (g.setSpot (.item p index) q) := by
  have hset (j : NodeId) : (g.setSpot (.item p index) q).node j =
      if j = p then .list (is.set index q) else g.node j := by
    rw [setSpot, his, Option.getD_some, node_put g (lt_size_of_items? his)]
  have hne : op ≠ p := by
    rintro rfl
    obtain ⟨es, hes, -⟩ := Option.bind_eq_some_iff.1 hp
    rw [← hop, ← entries?, entries?_eq_none_of_items? his] at hes
    cases hes
  obtain ⟨hindex, -⟩ := List.getElem?_eq_some_iff.1 hn
  refine ⟨by simp [setSpot, put], fun j hj => ?_, ?_, fun e he => ?_, fun j pos hj => ?_⟩
  · exact (hset j).trans (if_neg hj)
  · show (g.node p).Alike _ ((g.setSpot (.item p index) q).node p)
    rw [hset, if_pos rfl, node_eq_of_items? his]
    exact .list (forall₂_set hn)
  · have hmem : q ∈ is.set index q := List.mem_set hindex q
    refine .parameter (p := p) ?_ ?_ hmem
    · rw [he, Graph.field?, hset, if_neg hne, hop]
      exact hp
    · rw [he, items?, hset, if_pos rfl]
      rfl
  · by_cases hjp : j = p
    · subst hjp
      cases pos with
      | none => exact .inr (.parameter hp)
      | some k =>
        obtain ⟨es, hes, -⟩ := hj
        rw [entries?, hset, if_pos rfl] at hes
        cases hes
    · refine .inl ?_
      have hnode : (g.setSpot (.item p index) q).node j = g.node j := by rw [hset, if_neg hjp]
      cases pos with
      | none => exact ⟨by rw [entries?, ← hnode]; exact hj.1, by rw [← hnode]; exact hj.2⟩
      | some k =>
        obtain ⟨es, hes, hmem⟩ := hj
        exact ⟨es, by rw [entries?, ← hnode]; exact hes, hmem⟩

lemma IsPart.swapped (h : d.IsPart op spot kind n) (hg : g.Keyed)
    (hop : g.node op = d.graph.node op) (howner : g.node spot.owner = d.graph.node spot.owner) :
    d.Swapped op spot n q g (g.setSpot spot q) := by
  have entry {i : NodeId} {k : Scalar} (hi : g.node i = d.graph.node i) (hv : d.graph.Entry i k n) :
      g.Entry i k n := by
    obtain ⟨es, hes, hmem⟩ := hv
    exact ⟨es, by rw [entries?, hi]; exact hes, hmem⟩
  cases h with
  | @parameter p _ is _ hp his hn =>
    have howner : g.node p = d.graph.node p := howner
    exact swapped_item hp hop (by rwa [items?, howner]) hn
  | body hn => exact swapped_entry hg (entry howner hn)
  | response _ hn => exact swapped_entry hg (entry howner hn)

/-! ### The detour -/

/-- The part stands in its spot. -/
lemma IsPart.part (h : d.IsPart op spot kind n) : ∃ pos, d.graph.Part spot.owner pos n := by
  cases h with
  | parameter _ his hn => exact ⟨none, part_item his (List.mem_of_getElem? hn)⟩
  | body hn => exact ⟨some _, hn⟩
  | response _ hn => exact ⟨some _, hn⟩

/-- The place of the spot is one of the operation. -/
lemma IsPart.inOperation (h : d.IsPart op spot kind n) : d.InOperation op (spot.place op) := by
  cases h with
  | parameter => exact .parameters
  | body => exact .body
  | response hr hn => exact .response hr hn.mem_keys

/-- The list or the map of the spot is the operation or stands in it. -/
lemma IsPart.owner (h : d.IsPart op spot kind n) (hd : d.IsSound) :
    spot.owner = op ∨ ∃ k, d.graph.Entry op k spot.owner := by
  cases h with
  | parameter hp => exact .inr ⟨_, hd.keyed.field?_iff.1 hp⟩
  | body => exact .inl rfl
  | response hr => exact .inr ⟨_, hd.keyed.field?_iff.1 hr⟩

/-- Sharing adds the references first and then lets the spot hold the last one. -/
lemma share_spec (spot : Spot) (hd : d.IsSound) (hroot : (d.graph.entries? d.root).isSome)
    (hroom : d.HasRoom kind names) (hn : n < d.graph.nodes.size) :
    ∃ s q g, (d.IsOpened kind s ∨ d.graph.nodes.size ≤ s) ∧ d.IsLinked kind names s n q g ∧
      d.share spot kind names n = ⟨g.setSpot spot q, d.root⟩ := by
  have hopened := sectionOpened hd hroom hroot
  obtain ⟨name, hname⟩ := List.exists_mem_of_ne_nil names hroom.named
  exact ⟨_, _, _, (hopened.mayAdd name hname).isOpened, hopened.isLinked hroom hn, rfl⟩

/-- Nothing that the paths lead to is opened. -/
lemma HasRoom.not_isOpened (hroom : d.HasRoom kind names) (hv : d.graph.Entry i k v)
    (hi : ¬d.IsOpened kind i) : ¬d.IsOpened kind v := by
  intro h
  have hpart : d.graph.Part i (some k) v := hv
  exact hi (hroom.part h hpart).1

/-- What is opened is a map. -/
lemma HasRoom.isSome_entries? (hroom : d.HasRoom kind names) (hp : d.field? "paths" = some paths)
    (hi : d.IsOpened kind i) : (d.graph.entries? i).isSome := by
  cases hi with
  | root => exact Option.isSome_of_mem (Option.bind_eq_some_iff.1 hp).choose_spec.1
  | components hc => exact (hroom.components _ hc).1
  | shelf hc hs => exact (hroom.shelf _ _ hc hs).1

lemma HasRoom.lt_size (hroom : d.HasRoom kind names) (hp : d.field? "paths" = some paths)
    (hi : d.IsOpened kind i) : i < d.graph.nodes.size := by
  obtain ⟨es, hes⟩ := Option.isSome_iff_exists.1 (hroom.isSome_entries? hp hi)
  exact lt_size_of_entries? hes

/-- To the whole document nothing is added but the components. -/
lemma HasRoom.not_mayAdd (hroom : d.HasRoom kind names) (hd : d.IsSound) {name : String}
    (hname : name ≠ "components") : ¬d.MayAdd kind names d.root (.text name) := by
  intro h
  generalize hi : d.root = i, hk : Scalar.text name = k at h
  cases h with
  | components => exact hname (Scalar.text.inj hk)
  | kind hc => exact hroom.ne_root hd hc hi.symm
  | name _ hs => exact hroom.ne_root hd hs hi.symm
  | added hlt =>
    rw [← hi] at hlt
    exact absurd hd.root (Nat.not_lt.2 hlt)

/-- To the components nothing is added but the section. -/
lemma HasRoom.not_mayAdd_components (hroom : d.HasRoom kind names) (hd : d.IsSound) {c : NodeId}
    (hc : d.field? "components" = some c) {name : String} (hname : name ≠ kind) :
    ¬d.MayAdd kind names c (.text name) := by
  intro h
  generalize hk : Scalar.text name = k at h
  cases h with
  | components => exact hroom.ne_root hd hc rfl
  | kind => exact hname (Scalar.text.inj hk)
  | name hc' hs =>
    obtain rfl := Option.some.inj (hc.symm.trans hc')
    exact hroom.ne_components hd hc hs rfl
  | added hlt => exact absurd (hd.closed.lt_of_entry (hd.keyed.field?_iff.1 hc)) (Nat.not_lt.2 hlt)

lemma HasRoom.not_isOpened_paths (hroom : d.HasRoom kind names) (hd : d.IsSound)
    (hp : d.field? "paths" = some paths) : ¬d.IsOpened kind paths := by
  have hpart : d.graph.Part d.root (some (.text "paths")) paths := hd.keyed.field?_iff.1 hp
  intro h
  obtain ⟨-, k, hk, hadd⟩ := hroom.part h hpart
  cases hk
  exact hroom.not_mayAdd hd (by decide) hadd

lemma HasRoom.not_isOpened_operation (hroom : d.HasRoom kind names) (hd : d.IsSound)
    (hp : d.field? "paths" = some paths) (hop : d.IsOperation paths op) : ¬d.IsOpened kind op := by
  obtain ⟨-, item, m, ⟨key, hitem⟩, hm⟩ := hop
  have hitemo := hroom.not_isOpened hitem (hroom.not_isOpened_paths hd hp)
  exact hroom.not_isOpened (hd.keyed.field?_iff.1 hm) hitemo

/-- The document with a part that is shared: references were added, and then the last one was put
into the spot, which is none of the maps that were opened. -/
structure Shared (d d' : Document) (op : NodeId) (spot : Spot) (kind : String)
    (names : List String) (n s q : NodeId) (g : Graph) : Prop where
  root : d'.root = d.root
  linked : d.IsLinked kind names s n q g
  opened : d.IsOpened kind s ∨ d.graph.nodes.size ≤ s
  swapped : d.Swapped op spot n q g d'.graph
  lt_size : spot.owner < d.graph.nodes.size
  apart : ¬d.IsOpened kind spot.owner

namespace Shared

variable {d' : Document} (h : d.Shared d' op spot kind names n s q g)
include h

lemma node_eq {j : NodeId} (hj : j < d.graph.nodes.size) (hjo : ¬d.IsOpened kind j) :
    g.node j = d.graph.node j := by
  refine h.linked.enlarges.node_eq hj fun k hk => ?_
  rcases hk.isOpened with hk | hk
  · exact hjo hk
  · exact absurd hj (Nat.not_lt.2 hk)

/-- Maps that were opened and new nodes are as they were before the spot was changed. -/
lemma node_eq_of_opened {j : NodeId} (hj : d.IsOpened kind j ∨ d.graph.nodes.size ≤ j) :
    d'.graph.node j = g.node j := by
  refine h.swapped.others j ?_
  rintro rfl
  rcases hj with hj | hj
  · exact h.apart hj
  · exact absurd h.lt_size (Nat.not_lt.2 hj)

lemma keys_eq (j : NodeId) : d'.graph.keys j = g.keys j := by
  by_cases hj : j = spot.owner
  · subst hj
    have hes := h.swapped.owner.entries?
    rw [Graph.keys, Graph.keys, entries?, entries?]
    generalize (g.node spot.owner).entries? = es, (d'.graph.node spot.owner).entries? = fs at hes
    cases hes with
    | none => rfl
    | some hl => exact map_eq_of_forall₂ (hl.imp fun _ _ hef => hef.1.symm)
  · rw [Graph.keys, Graph.keys, entries?, entries?, h.swapped.others j hj]

lemma keyed : d'.graph.Keyed := by
  intro j
  rw [h.keys_eq]
  exact h.linked.enlarges.sound.keyed j

lemma field?_eq {j : NodeId} (hj : d.IsOpened kind j) (name : String) :
    d'.graph.field? j name = g.field? j name := by
  rw [Graph.field?, h.node_eq_of_opened (.inl hj), Graph.field?]

lemma field?_root_eq (hd : d.IsSound) {name : String}
    (hadd : ¬d.MayAdd kind names d.root (.text name)) :
    d'.graph.field? d.root name = d.graph.field? d.root name := by
  rw [h.field?_eq .root, h.linked.enlarges.field?_eq hd.toIsSound hd.root hadd]

lemma isReference : d'.graph.IsReference q := by
  rw [isReference_iff, h.keys_eq, ← isReference_iff]
  exact h.linked.reference

lemma leads {e : Document} (hroot : e.root = d.root) (hn : ¬e.graph.IsReference n)
    (heq : ∀ i, d.IsOpened kind i ∨ d.graph.nodes.size ≤ i ∧ i < d'.graph.nodes.size →
      e.graph.node i = d'.graph.node i) : e.Leads q n := by
  obtain ⟨c, hc⟩ := h.linked.branches
  refine h.linked.linked.leads h.linked.enlarges.sound.keyed hc.components hc.shelf hroot hn
    fun i hlt hi => ?_
  rw [← h.swapped.size] at hlt
  have hopened : d.IsOpened kind i ∨ d.graph.nodes.size ≤ i := by
    rcases hi with rfl | rfl | rfl | hi
    · exact .inl .root
    · exact hc.opened
    · exact h.opened
    · exact .inr hi
  rw [heq i (hopened.imp_right fun hi => ⟨hi, hlt⟩), h.node_eq_of_opened hopened]

/-- In the maps that were opened, pointers go on as before. -/
lemma step (hd : d.IsSound) {i j : NodeId} {target segment : String} (hi : d.IsOpened kind i)
    (hmap : (d.graph.entries? i).isSome) (hj : Pointer.step d.graph target i segment = .ok j) :
    Pointer.step d'.graph target i segment = .ok j := by
  obtain ⟨es, hes⟩ := Option.isSome_iff_exists.1 hmap
  have hfield : d.graph.field? i segment = some j := by
    rw [Pointer.step, node_eq_of_entries? hes] at hj
    rw [Graph.field?, Layer.field?, ← entries?, hes, Option.bind_some]
    cases hl : lookupKey (Scalar.text segment) es with
    | none => simp [hl] at hj
    | some j' => simpa [hl] using hj
  have hfield' := h.linked.enlarges.field?_of_some hd.toIsSound hfield
  rw [← h.field?_eq hi] at hfield'
  obtain ⟨fs, hfs, hl⟩ := Option.bind_eq_some_iff.1 hfield'
  rw [Pointer.step, node_eq_of_entries? hfs]
  simp only [hl]

/-- Where nothing was added, nodes are the same, but for the reference in the spot. -/
lemma alike {i : NodeId} (hi : i < d.graph.nodes.size)
    (hio : ¬d.IsOpened kind i) :
    (d.graph.node i).Alike (fun v v' => v' = v ∨ v = n ∧ v' = q) (d'.graph.node i) := by
  by_cases hj : i = spot.owner
  · subst hj
    rw [← h.node_eq hi hio]
    exact h.swapped.owner
  · rw [h.swapped.others i hj, h.node_eq hi hio]
    exact .refl fun _ _ => .inl rfl

end Shared

/-- Below the paths there is no map that is opened, so a part can be shared. -/
lemma exists_shared (hd : d.IsSound) (hp : d.field? "paths" = some paths)
    (hop : d.IsOperation paths op) (hpart : d.IsPart op spot kind n) (hroom : d.HasRoom kind names) :
    ∃ s q g, d.Shared (d.share spot kind names n) op spot kind names n s q g := by
  have hroot : (d.graph.entries? d.root).isSome := hroom.isSome_entries? hp .root
  obtain ⟨_, hnpart⟩ := hpart.part
  obtain ⟨s, q, g, hs, hlinked, hshare⟩ :=
    share_spec spot hd hroot hroom (hd.closed _ _ hnpart.mem_parts)
  have hopo := hroom.not_isOpened_operation hd hp hop
  have howner : ¬d.IsOpened kind spot.owner := by
    rcases hpart.owner hd with heq | ⟨k, hk⟩
    · rwa [heq]
    · exact hroom.not_isOpened hk hopo
  have kept {j : NodeId} (hj : j < d.graph.nodes.size) (hjo : ¬d.IsOpened kind j) :
      g.node j = d.graph.node j := by
    refine hlinked.enlarges.node_eq hj fun k hk => ?_
    rcases hk.isOpened with hk | hk
    · exact hjo hk
    · exact absurd hj (Nat.not_lt.2 hk)
  have hswap : d.Swapped op spot n q g (g.setSpot spot q) := by
    obtain ⟨es, hes⟩ := Option.isSome_iff_exists.1 hop.1
    exact hpart.swapped hlinked.enlarges.sound.keyed (kept (lt_size_of_entries? hes) hopo)
      (kept hnpart.lt_size howner)
  refine ⟨s, q, g, ?_⟩
  rw [hshare]
  exact ⟨rfl, hlinked, hs, hswap, hnpart.lt_size, howner⟩

/-- The document with a part that is shared has a detour. -/
theorem Shared.detour {d' : Document} (h : d.Shared d' op spot kind names n s q g) (hd : d.IsSound)
    (hp : d.field? "paths" = some paths) (ho : d.IsOrdered paths) (hop : d.IsOperation paths op)
    (hpart : d.IsPart op spot kind n) (hn : ¬d.graph.IsReference n)
    (hroom : d.HasRoom kind names) :
    Detour d d' paths n q (d.IsOpened kind) (spot.place op) := by
  obtain ⟨_, hnpart⟩ := hpart.part
  refine {
    sound := hd
    keyed := h.keyed
    root := h.root
    size := ?_
    field := hp
    field' := ?_
    ordered := ho
    lt_size := hd.closed _ _ hnpart.mem_parts
    moved := hn
    reference := h.isReference
    leads := fun e he hne heq => h.leads he hne heq
    fixed_root := .root
    fixed_lt := fun i hi => hroom.lt_size hp hi
    fixed_part := ?_
    fixed_paths := hroom.not_isOpened_paths hd hp
    step := fun i hi target segment j hj => h.step hd hi (hroom.isSome_entries? hp hi) hj
    node := fun i hi hio => h.alike hi hio
    spot_kind := ?_
    held := h.swapped.held _ rfl
    slot := ?_ }
  · rw [h.swapped.size]
    exact h.linked.enlarges.size
  · rw [field?, h.root, h.field?_root_eq hd (hroom.not_mayAdd hd (by decide))]
    exact hp
  · intro i pos v hv hpos
    obtain ⟨hi, k, rfl, -⟩ := hroom.part hv hpos
    exact ⟨hi, by simp⟩
  · intro i k hik
    cases hpart with
    | parameter => cases hik
    | body =>
      cases hik
      exact ⟨h.lt_size, .inl rfl⟩
    | response hr _ hk =>
      cases hik
      exact ⟨h.lt_size, .inr ⟨⟨op, hop, hr⟩, hk⟩⟩
  · intro i pos hq
    exact (h.swapped.slot i pos hq).resolve_left (h.linked.not_part i pos)

end Document

end ApiBridge
