import ApiBridge.Proofs.Document.Forest
import ApiBridge.Proofs.Document.Rewriting

/-!
# What is left of references when a document is resolved

A document that has been resolved has no references left in the places where they are resolved.
What is no path item, operation or map of responses is what it was before, and resolving the
document once more makes no difference: it only copies lists of parameters, which no way through
the document can tell.
-/

namespace ApiBridge

namespace Graph

variable {g g' : Graph} {i j : NodeId} {n : Nat}

/-! ### Trees cut off -/

/-- The tree below a node, cut off at a depth. -/
def cutAt (g : Graph) : Nat → NodeId → Value
  | 0, _ => .again false
  | n + 1, i =>
    match g.node i with
    | .scalar s => .scalar s
    | .list items => .list (items.map (g.cutAt n))
    | .map entries => .map (entries.map fun e => (e.1, g.cutAt n e.2))
    | .set members => .set members
    | .pair a b => .pair (g.cutAt n a) (g.cutAt n b)

/-- Nodes that go together layer by layer have the same trees, however deep they are cut off. -/
lemma cutAt_eq {R : NodeId → NodeId → Prop}
    (h : ∀ i j, R i j → (g.node i).Alike R (g'.node j)) (hij : R i j) :
    g.cutAt n i = g'.cutAt n j := by
  induction n generalizing i j with
  | zero => rfl
  | succ n ih =>
    have hnode := h i j hij
    rw [cutAt, cutAt]
    generalize g.node i = a, g'.node j = b at hnode
    cases hnode with
    | scalar | set => rfl
    | list hl =>
      have items := map_eq_of_forall₂ (hl.imp fun _ _ h => (ih h).symm)
      simp only [items]
    | map hl =>
      have entry (e f : Scalar × NodeId) (h : e.1 = f.1 ∧ R e.2 f.2) :
          (f.1, g'.cutAt n f.2) = (e.1, g.cutAt n e.2) := by
        rw [h.1, ih h.2]
      have entries := map_eq_of_forall₂ (hl.imp entry)
      simp only [entries]
    | pair ha hb => simp only [ih ha, ih hb]

/-- The same node, or a list with the same items. -/
inductive Copied (g g' : Graph) : NodeId → NodeId → Prop
  | same {i : NodeId} (hi : i < g.nodes.size) : Copied g g' i i
  | list {i j : NodeId} {is : List NodeId} (hi : g.items? i = some is)
      (hj : g'.items? j = some is) : Copied g g' i j

/-- An entry of a map may come to lead to a copy. -/
lemma alike_insertKey {es : List (Scalar × NodeId)} {k : Scalar} {v w : NodeId} (hc : g.Closed)
    (hes : g.entries? i = some es) (hv : lookupKey k es = some v) (hvw : Copied g g' v w) :
    (g.node i).Alike (Copied g g') (.map (insertKey k w es)) := by
  rw [node_eq_of_entries? hes]
  refine .map ((forall₂_mem (forall₂_insertKey hv)).imp ?_)
  rintro a b ⟨ha, -, rfl | ⟨k', -, rfl, rfl⟩⟩
  · exact ⟨rfl, .same (hc.lt_of_entry ⟨es, hes, ha⟩)⟩
  · exact ⟨rfl, hvw⟩

/-- Where nodes are changed by copying lists only, all trees stay what they are. -/
lemma cutAt_eq_of_copied (hc : g.Closed)
    (h : ∀ i < g.nodes.size, (g.node i).Alike (Copied g g') (g'.node i))
    (hi : i < g.nodes.size) : g.cutAt n i = g'.cutAt n i := by
  refine cutAt_eq (R := Copied g g') (fun i j hij => ?_) (.same hi)
  cases hij with
  | same hi => exact h i hi
  | list hi hj =>
    rw [node_eq_of_items? hi, node_eq_of_items? hj]
    exact .list (List.forall₂_same.2 fun v hv => .same (hc.lt_of_item hi hv))

/-! ### Ways through a graph -/

/-- A node is below another one, or that node itself. -/
def Reaches (g : Graph) : NodeId → NodeId → Prop :=
  Relation.ReflTransGen fun i j => j ∈ (g.node i).parts

lemma Closed.lt_of_reaches (hc : g.Closed) (h : g.Reaches i j) (hi : i < g.nodes.size) :
    j < g.nodes.size := by
  induction h with
  | refl => exact hi
  | tail _ h _ => exact hc _ _ h

/-- What keeps all nodes below it keeps its tree. -/
lemma unfold_eq_of_reaches (h : ∀ j, g.Reaches i j → g'.node j = g.node j) :
    g'.unfold i = g.unfold i := by
  have twins : Twins g' g fun j j' => j = j' ∧ g.Reaches i j := by
    refine ⟨fun j j' k k' hj hk => ?_, fun j j' hj => ?_⟩
    · rw [hj.1, hk.1]
    · rw [← hj.1, h j hj.2]
      exact .refl fun k hk => ⟨rfl, hj.2.tail hk⟩
  exact twins.unfold_eq ⟨rfl, .refl⟩

end Graph

namespace Document

open ApiBridge.Graph

variable {d e e' r : Document} {paths i v w : NodeId} {k : Scalar} {p : Place} {ps : List Place}
  {n : Nat}

/-! ### What stays as it is -/

lemma Replaces.size_le (h : e.Replaces p e') : e.graph.nodes.size ≤ e'.graph.nodes.size := by
  cases h with
  | entry => exact Nat.le_of_eq size_setEntry.symm
  | parameters =>
    rw [size_withParameters]
    exact Nat.le_succ _
  | nothing => exact Nat.le_refl _

/-- Nodes whose places are not rewritten stay as they are. -/
lemma Rewrites.node (h : e.Rewrites ps e') (hi : i < e.graph.nodes.size)
    (hps : ∀ p ∈ ps, i ≠ p.owner) : e'.graph.node i = e.graph.node i := by
  induction h with
  | nil => rfl
  | cons h _ ih =>
    rw [List.forall_mem_cons] at hps
    rw [ih (Nat.lt_of_lt_of_le hi h.size_le) hps.2, h.node hi hps.1]

/-! ### Settled places that are rewritten again -/

/-- Where a place is settled, at most a list of parameters is copied. -/
lemma Replaces.alike (h : e.Replaces p e') (hset : e.IsSettled p) (hd : e.IsSound)
    (hi : i < e.graph.nodes.size) :
    (e.graph.node i).Alike (Copied e.graph e'.graph) (e'.graph.node i) := by
  by_cases hp : i = p.owner
  · subst hp
    cases h with
    | @entry _ v w _ hv hw =>
      obtain rfl := hw.eq_of_not_isReference (hset v (.entry hv))
      obtain ⟨es, hes, hmem⟩ := id hv
      rw [Place.owner, node_setEntry hes, if_pos rfl]
      exact alike_insertKey hd.closed hes (hd.keyed.lookupKey_of_mem hes hmem)
        (.same (hd.closed.lt_of_entry hv))
    | @parameters o q is js hf his hjs =>
      have led : List.Forall₂ Eq js is := ((forall₂_mem hjs).imp fun v w h =>
        h.2.2.eq_of_not_isReference (hset v (.parameter hf his h.1))).flip
      rw [List.forall₂_eq_eq_eq] at led
      subst led
      obtain ⟨es, hes, hl⟩ := Option.bind_eq_some_iff.1 hf
      have ho : o < e.graph.nodes.size := hi
      have hlist : (e.graph.withParameters o js).items? e.graph.nodes.size = some js := by
        rw [items?, node_withParameters hes, if_neg (Nat.ne_of_gt ho), if_pos rfl]
        rfl
      rw [Place.owner, node_withParameters hes, if_pos rfl]
      exact alike_insertKey hd.closed hes hl (.list his hlist)
    | nothing => exact .refl fun v hv => .same (hd.closed _ v hv)
  · rw [h.node hi hp]
    exact .refl fun v hv => .same (hd.closed i v hv)

section Separate

variable (hd : d.IsSound) (hs : d.IsSeparate paths) (he : d.Advances paths e)
include hd hs he

/-- Where all places are settled before, rewriting them changes no tree. -/
lemma Rewrites.cutAt_eq (hps : ∀ p ∈ ps, d.IsPlace paths p) (hset : ∀ p ∈ ps, e.IsSettled p)
    (h : e.Rewrites ps e') (hi : i < e.graph.nodes.size) :
    e'.graph.cutAt n i = e.graph.cutAt n i := by
  induction h with
  | nil => rfl
  | cons h hrest ih =>
    rw [List.forall_mem_cons] at hps hset
    have hsound := he.isSound hd
    have first := cutAt_eq_of_copied (n := n) hsound.closed
      (fun i hi => h.alike hset.1 hsound hi) hi
    rw [first]
    exact ih (he.replaces hps.1 h) hps.2
      (fun q hq => (hset.2 q hq).replaces hd hs he (hps.2 q hq) hps.1 h)
      (Nat.lt_of_lt_of_le hi h.size_le)

/-- Path items and operations keep their operations and responses. -/
lemma Advances.field?_of_separate {name : String}
    (hname : name ≠ "parameters" ∧ name ≠ "requestBody")
    (hi : d.IsPathItem paths i ∨ d.IsOperation paths i) :
    e.graph.field? i name = d.graph.field? i name :=
  he.field?_eq hd hs.toIsOrdered hname fun hr =>
    hi.elim (hs.apart i hr).1 (hs.apart i hr).2

/-- The places of an operation are the same at each stage. -/
lemma Advances.inOperation (ho : d.IsOperation paths i) (hp : e.InOperation i p) :
    d.InOperation i p := by
  cases hp with
  | parameters => exact .parameters
  | body => exact .body
  | response hr hk =>
    rw [he.field?_of_separate hd hs (by decide) (.inr ho)] at hr
    rw [(he.evolves hd).graph.keys_eq] at hk
    exact .response hr hk

/-- The places of a document are the same at each stage. -/
lemma Advances.isPlace (hp : e.IsPlace paths p) : d.IsPlace paths p := by
  have hevolves := (he.evolves hd).graph
  obtain ⟨k, hk, hp⟩ := hp
  rw [hevolves.keys_eq] at hk
  refine ⟨k, hk, ?_⟩
  cases hp with
  | self => exact .self
  | @item w i _ hw hi hmap hp =>
    obtain ⟨v, hv⟩ := mem_keys_iff.1 hk
    rcases he.entry_of_path hd hs hv hw with rfl | ⟨hn, -⟩
    · have hr : ¬d.graph.IsReference w := hs.inline w ⟨k, hv⟩
      obtain rfl := hi.eq_of_not_isReference (by rwa [he.isReference_iff hd])
      rw [hevolves.isSome_entries?_eq] at hmap
      refine .item hv (.here hr) hmap ?_
      cases hp with
      | parameters => exact .parameters
      | @operation m o _ ho hmapo hop =>
        have hname : m.key ≠ "parameters" ∧ m.key ≠ "requestBody" := by
          cases m with
          | _ => decide
        rw [he.field?_of_separate hd hs hname (.inl ⟨k, hv⟩)] at ho
        rw [hevolves.isSome_entries?_eq] at hmapo
        exact .operation ho hmapo (he.inOperation hd hs ⟨hmapo, _, m, ⟨k, hv⟩, ho⟩ hop)
    · obtain rfl := hi.eq_of_not_isReference (not_isReference_of_entries? hn)
      rw [hn] at hmap
      cases hmap

end Separate

/-! ### Documents that are resolved -/

/-- A map that places belong to: the paths, a path item, an operation or a map of responses. -/
def IsOwner (d : Document) (i : NodeId) : Prop :=
  ∃ paths p, d.field? "paths" = some paths ∧ d.IsPlace paths p ∧ p.owner = i

/-- No map that places belong to is at or below a node. -/
def IsOutside (d : Document) (v : NodeId) : Prop :=
  ∀ i, d.graph.Reaches v i → ¬d.IsOwner i

namespace IsTree

variable {l : Scalar}

/-- In a tree no map of responses is anything else. -/
lemma isSeparate (h : d.IsTree) (hk : d.graph.Keyed) (hp : d.field? "paths" = some paths)
    (hinline : ∀ i, d.IsPathItem paths i → ¬d.graph.IsReference i) : d.IsSeparate paths where
  toIsOrdered := h.isOrdered hk hp hinline
  root := by
    rintro ⟨o, -, hr⟩
    have hpart : d.graph.Part o (some (.text "responses")) d.root := hk.field?_iff.1 hr
    exact h.not_part_root hpart

/-- What stands in the document is above each node below it that stands in another map. -/
lemma reaches_of_entry (h : d.IsTree) (hv : d.graph.Entry d.root k v) (hw : d.graph.Entry i l w)
    (hi : i ≠ d.root) (hreach : d.graph.Reaches v w) : d.graph.Reaches v i := by
  have hw : d.graph.Part i (some l) w := hw
  rcases hreach.cases_tail with rfl | ⟨j, hj, hmem⟩
  · exact absurd (h.lone hv i (some l) hw).1 hi
  · obtain ⟨pos, hpos⟩ := exists_part hmem
    rwa [(h.part_unique hw hpos).1]

/-- In a tree all that places belong to is below the paths. -/
lemma isOutside (h : d.IsTree) (hk : d.graph.Keyed)
    (hinline : ∀ paths i, d.field? "paths" = some paths → d.IsPathItem paths i →
      ¬d.graph.IsReference i)
    (hv : d.graph.Entry d.root k v) (hne : k ≠ .text "paths") : d.IsOutside v := by
  rintro i hi ⟨paths, p, hp, hplace, rfl⟩
  have hpaths : d.graph.Entry d.root (.text "paths") paths := hk.field?_iff.1 hp
  have inner {j j' : NodeId} {l : Scalar} (hj : d.graph.Entry j' l j) : j ≠ d.root := by
    rintro rfl
    have hpart : d.graph.Part j' (some l) d.root := hj
    exact h.not_part_root hpart
  -- From each of these maps the way up leads to the paths.
  have item {j : NodeId} (hj : d.IsPathItem paths j) (hreach : d.graph.Reaches v j) :
      d.graph.Reaches v paths := by
    obtain ⟨key, hj⟩ := hj
    exact h.reaches_of_entry hv hj (inner hpaths) hreach
  have operation {j : NodeId} (hj : d.IsOperation paths j) (hreach : d.graph.Reaches v j) :
      d.graph.Reaches v paths := by
    obtain ⟨-, j', m, hj', ho⟩ := hj
    obtain ⟨key, hitem⟩ := id hj'
    exact item hj' (h.reaches_of_entry hv (hk.field?_iff.1 ho) (inner hitem) hreach)
  have above : d.graph.Reaches v paths := by
    cases (h.isOrdered hk hp (hinline paths · hp)).belongs hplace with
    | path => exact hi
    | parameters hj => exact hj.elim (item · hi) (operation · hi)
    | body hj => exact operation hj hi
    | response hj =>
      obtain ⟨o, ho, hr⟩ := hj
      obtain ⟨-, j, m, -, hj⟩ := id ho
      exact operation ho
        (h.reaches_of_entry hv (hk.field?_iff.1 hr) (inner (hk.field?_iff.1 hj)) hi)
  rcases above.cases_tail with rfl | ⟨j, hj, hmem⟩
  · exact hne (Option.some.inj (h.lone hpaths d.root (some k) hv).2)
  · obtain ⟨pos, hpos⟩ := exists_part hmem
    obtain ⟨rfl, -⟩ := h.lone hpaths j pos hpos
    rcases hj.cases_tail with heq | ⟨j, -, hmem⟩
    · exact inner hv heq.symm
    · obtain ⟨pos, hpos⟩ := exists_part hmem
      exact h.not_part_root hpos

end IsTree

lemma resolve_of_field?_eq_none (hp : d.field? "paths" = none) (h : d.resolve = .ok r) :
    r = d := by
  unfold resolve at h
  split at h
  case h_1 => cases h
  case h_2 =>
    rw [hp] at h
    cases h
    rfl

/-- A document that has been resolved, if no map of responses is at the same time the document, a
path item or an operation, and path items stand where they are: nothing in its places is a
reference, what no place belongs to is what it was, and to resolve it again changes none of its
trees. -/
theorem resolve_settles (hd : d.IsSound)
    (hs : ∀ paths, d.field? "paths" = some paths → d.IsSeparate paths) (h : d.resolve = .ok r) :
    (∀ paths p v, r.field? "paths" = some paths → r.IsPlace paths p → r.Holds p v →
      ¬r.graph.IsReference v) ∧
    (r.root = d.root ∧
      (∀ i < d.graph.nodes.size, ¬d.IsOwner i → r.graph.node i = d.graph.node i) ∧
      ∀ v < d.graph.nodes.size, d.IsOutside v → r.graph.unfold v = d.graph.unfold v) ∧
    ∃ r', r.resolve = .ok r' ∧ ∀ n, r'.graph.cutAt n r'.root = r.graph.cutAt n r.root := by
  cases hp : d.field? "paths" with
  | none =>
    obtain rfl := resolve_of_field?_eq_none hp h
    refine ⟨fun paths p v hp' => ?_, ⟨rfl, fun _ _ _ => rfl, fun _ _ _ => rfl⟩, r, h, fun _ => rfl⟩
    rw [hp] at hp'
    cases hp'
  | some paths =>
    have hs := hs paths hp
    have first := resolve_resolves hd hs .start hp
    obtain ⟨ps, hps, hrun⟩ := first.rewrites r h
    have hplaces : ∀ p ∈ ps, d.IsPlace paths p := fun p => (hps p).1
    have hr : d.Advances paths r := first.advances .start h
    have hset : ∀ p, d.IsPlace paths p → r.IsSettled p := fun p hp =>
      hrun.isSettled hd hs .start hplaces p ((hps p).2 hp)
    have hroot : r.root = d.root := (hr.evolves hd).root
    have hnode : ∀ i < d.graph.nodes.size, ¬d.IsOwner i → r.graph.node i = d.graph.node i := by
      refine fun i hi ho => hrun.node hi fun p hmem heq => ho ?_
      exact ⟨paths, p, hp, hplaces p hmem, heq.symm⟩
    refine ⟨fun paths' p v hp' hplace => ?_, ⟨hroot, hnode, fun v hv hout => ?_⟩, ?_⟩
    · have hp'' : r.field? "paths" = d.field? "paths" := by
        rw [field?, hroot, hr.field?_eq hd hs.toIsOrdered (by decide) hs.root, field?]
      rw [hp'', hp] at hp'
      obtain rfl := Option.some.inj hp'
      exact hset p (hr.isPlace hd hs hplace) v
    · refine unfold_eq_of_reaches fun j hj => hnode j ?_ (hout j hj)
      exact hd.closed.lt_of_reaches hj hv
    · have second := resolve_resolves hd hs hr hp
      obtain ⟨r', hr'⟩ := second.returns hset
      obtain ⟨qs, hqs, hrun'⟩ := second.rewrites r' hr'
      refine ⟨r', hr', fun n => ?_⟩
      rw [((second.advances hr hr').evolves hd).root, hroot]
      exact hrun'.cutAt_eq hd hs hr (fun q => (hqs q).1) (fun q hq => hset q ((hqs q).1 hq))
        (hroot ▸ (hr.isSound hd).root)

/-- A document with references in all kinds of places, some of them to other references and some
back to a path. -/
def referring : Document :=
  ofValue (.ofFields [
    ("paths", .ofFields [
      ("/cats", .ofFields [
        ("parameters", .list [.ofFields [("$ref", .text "#/components/parameters/Limit")]]),
        ("get", .ofFields [
          ("parameters", .list [.ofFields [("$ref", .text "#/paths/~1cats/parameters/0")]]),
          ("requestBody", .ofFields [("$ref", .text "#/paths/~1dogs/post/requestBody")]),
          ("responses", .ofFields [
            ("200", .ofFields [("$ref", .text "#/components/responses/Ok")])])])]),
      ("/dogs", .ofFields [("post", .ofFields [
        ("requestBody", .ofFields [("$ref", .text "#/components/requestBodies/Pet")])])])]),
    ("components", .ofFields [
      ("parameters", .ofFields [("Limit", .ofFields [("name", .text "limit")])]),
      ("requestBodies", .ofFields [("Pet", .ofFields [("required", .bool true)])]),
      ("responses", .ofFields [("Ok", .ofFields [("description", .text "ok")])])])])

/-- All references of the document are replaced, and its components stay as they are. -/
theorem resolve_settles_referring :
    ∃ r, referring.resolve = .ok r ∧
      (∀ paths p v, r.field? "paths" = some paths → r.IsPlace paths p → r.Holds p v →
        ¬r.graph.IsReference v) ∧
      r.graph.unfold 27 = referring.graph.unfold 27 ∧
      ∃ r', r.resolve = .ok r' ∧ ∀ n, r'.graph.cutAt n r'.root = r.graph.cutAt n r.root := by
  have sound : referring.IsSound := ofValue_isSound (by decide +kernel)
  have tree : referring.IsTree := ofValue_isTree _
  have hpaths : referring.field? "paths" = some 17 := by decide +kernel
  have hes : referring.graph.entries? 17 = some [(.text "/cats", 12), (.text "/dogs", 16)] := by
    decide +kernel
  have inline : ∀ paths i, referring.field? "paths" = some paths → referring.IsPathItem paths i →
      ¬referring.graph.IsReference i := by
    rintro paths i hp ⟨k, es, hes', hmem⟩
    obtain rfl := Option.some.inj (hpaths.symm.trans hp)
    obtain rfl := Option.some.inj (hes.symm.trans hes')
    simp only [List.mem_cons, Prod.mk.injEq, List.not_mem_nil, or_false] at hmem
    rcases hmem with ⟨-, rfl⟩ | ⟨-, rfl⟩
    · decide +kernel
    · decide +kernel
  have components : referring.graph.Entry referring.root (.text "components") 27 :=
    sound.keyed.field?_iff.1 (by decide +kernel)
  obtain ⟨r, hr⟩ := exists_of_isOk (x := referring.resolve) (by decide +kernel)
  obtain ⟨settled, ⟨-, -, kept⟩, again⟩ := resolve_settles sound
    (fun paths hp => tree.isSeparate sound.keyed hp (inline paths · hp)) hr
  exact ⟨r, hr, settled, kept 27 (sound.closed.lt_of_entry components)
    (tree.isOutside sound.keyed inline components (by decide)), again⟩

/-- A document in which a path item is a map of responses and a schema as well. -/
def aliased : Document where
  graph := ⟨#[
    .map [(.text "paths", 1), (.text "components", 6)],
    .map [(.text "/b", 2), (.text "/a", 4)],
    .map [(.text "get", 3)],
    .map [(.text "$ref", 7)],
    .map [(.text "get", 5)],
    .map [(.text "responses", 2)],
    .map [(.text "schemas", 8), (.text "parameters", 9)],
    .scalar (.text "#/components/schemas/Get"),
    .map [(.text "Get", 10), (.text "Shared", 2)],
    .map [(.text "Limit", 11)],
    .map [(.text "parameters", 12)],
    .map [(.text "name", 13)],
    .list [14],
    .scalar (.text "limit"),
    .map [(.text "$ref", 15)],
    .scalar (.text "#/components/parameters/Limit")]⟩
  root := 0

/-- Where a map of responses is a path item as well, a reference may be left, what stands outside of
the paths may change, and to resolve the document again may make a difference. -/
theorem not_settled_aliased :
    aliased.field? "paths" = some 1 ∧
    (∀ i, aliased.IsPathItem 1 i → ¬aliased.graph.IsReference i) ∧
    ∃ r, aliased.resolve = .ok r ∧
      (∃ p v, r.IsPlace 1 p ∧ r.Holds p v ∧ r.graph.IsReference v) ∧
      (aliased.graph.Entry aliased.root (.text "components") 6 ∧
        r.graph.unfold 6 ≠ aliased.graph.unfold 6) ∧
      ∃ r', r.resolve = .ok r' ∧ r'.toValue ≠ r.toValue := by
  have inline : ∀ i, aliased.IsPathItem 1 i → ¬aliased.graph.IsReference i := by
    rintro i ⟨k, es, hes, hmem⟩
    obtain rfl := Option.some.inj (hes.symm.trans
      (rfl : aliased.graph.entries? 1 = some [(.text "/b", 2), (.text "/a", 4)]))
    simp only [List.mem_cons, Prod.mk.injEq, List.not_mem_nil, or_false] at hmem
    rcases hmem with ⟨-, rfl⟩ | ⟨-, rfl⟩
    · decide
    · decide
  refine ⟨rfl, inline, ⟨aliased.graph.setEntry 2 (.text "get") 10, 0⟩, rfl, ?_, ⟨?_, ?_⟩,
    ⟨(aliased.graph.setEntry 2 (.text "get") 10).withParameters 10 [11], 0⟩, rfl, ?_⟩
  · -- The operation of the first path has become the schema, with a parameter to be resolved.
    refine ⟨.parameters 10, 14, ⟨.text "/b", by decide, ?_⟩, ?_, by decide⟩
    · refine .item (v := 2) (i := 2) ⟨_, rfl, by decide⟩ (.here (by decide)) rfl ?_
      exact .operation (m := .get) (o := 10) rfl rfl .parameters
    · exact @Holds.parameter _ 10 12 14 [14] rfl rfl (by decide)
  · exact ⟨_, rfl, by decide⟩
  · intro h
    have reference := congrArg (fun v : Value => ((((v.field? "schemas").bind
      (·.field? "Shared")).bind (·.field? "get")).bind (·.field? "$ref")).isSome) h
    revert reference
    decide +kernel
  · intro h
    have reference := congrArg (fun v : Value => (((((((v.field? "components").bind
      (·.field? "schemas")).bind (·.field? "Get")).bind (·.field? "parameters")).bind
      Value.items?).bind List.head?).bind (·.field? "$ref")).isSome) h
    revert reference
    decide +kernel

end Document

end ApiBridge
