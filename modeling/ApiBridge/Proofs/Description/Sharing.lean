import ApiBridge.Description.Load
import ApiBridge.Proofs.Description.Alike
import ApiBridge.Proofs.Document.Clear
import ApiBridge.Proofs.Document.Sharing

/-!
# Shared parts leave no trace

Once the references of a document are resolved, nothing that is read for its description leads to
the detour that a shared part takes. So the document is described as it was before the part was
shared.
-/

namespace ApiBridge

/-! ### Values inside schemas -/

section Maps

variable {α β γ : Type} (f : α → β) (f' : β → γ)

@[simp] lemma Fields.map_map (es : Fields α) : Fields.map f' (Fields.map f es) = es.map (f' ∘ f) := by
  simp [Fields.map]

@[simp] lemma Content.map_map (c : Content α) :
    Content.map f' (Content.map f c) = c.map (f' ∘ f) := by
  simp [Content.map, Function.comp_def]

@[simp] lemma Parameter.map_map (p : Parameter α) : (p.map f).map f' = p.map (f' ∘ f) := by
  simp [Parameter.map, Function.comp_def]

@[simp] lemma RequestBody.map_map (b : RequestBody α) : (b.map f).map f' = b.map (f' ∘ f) := by
  simp [RequestBody.map]

@[simp] lemma Response.map_map (r : Response α) : (r.map f).map f' = r.map (f' ∘ f) := by
  simp [Response.map, Function.comp_def]

@[simp] lemma Operation.map_map (o : Operation α) : (o.map f).map f' = o.map (f' ∘ f) := by
  simp [Operation.map, Function.comp_def]

lemma Api.map_map (a : Api α) : (a.map f).map f' = a.map (f' ∘ f) := by
  simp [Api.map]

end Maps

namespace Document

open ApiBridge.Graph Attempt

variable {d d' r r' : Document} {paths op item n q s i v : NodeId} {g : Graph} {kind : String}
  {names : List String} {k key : Scalar} {pos : Option Scalar} {spot : Spot} {m : Method}

/-! ### Once references are resolved -/

/-- A node goes with itself, if it is none of certain ends. -/
def Aligned (d d' r : Document) (ends : NodeId → Prop) (i i' : NodeId) : Prop :=
  i' = d.shift d' i ∧ i < r.graph.nodes.size ∧ ¬ends i

section Twins

variable {fixed ends : NodeId → Prop} {place : Place}

/-- Where the reference has left its spot, and what is read leads to no end, the nodes of the two
documents go together. -/
lemma Abreast.twins (hD : Detour d d' paths n q fixed place) (hfix : ∀ i, fixed i → ends i)
    (h : Abreast d d' paths n q fixed ends r r') (hq : ¬r'.Holds place q)
    (hlist : ∀ o p, place = .parameters o → d.graph.field? o "parameters" = some p → ends p)
    (hends : ∀ i pos v, ¬ends i → r.graph.Part i pos v → ¬ends v) :
    r.graph.Twins r'.graph (Aligned d d' r ends) where
  same i i' j j' hi hj := by
    rw [hi.1, hj.1, hD.shift_inj]
  node i i' hi := by
    obtain ⟨rfl, hlt, hne⟩ := hi
    refine (h.node i hlt fun hf => hne (hfix i hf)).mono fun v hv v' hv' hvv' => ?_
    have hvlt : v < r.graph.nodes.size := (h.isSound hD).closed i v hv
    obtain ⟨pos, hpos⟩ := exists_part hv
    obtain ⟨pos', hpos'⟩ := exists_part hv'
    cases hvv' with
    | same => exact ⟨rfl, hvlt, hends i pos v hne hpos⟩
    | detour =>
      -- The reference would stand in its spot.
      exfalso
      generalize hi' : d.shift d' i = i' at hpos'
      cases hD.slot i' pos' (h.slot i' pos' hpos') with
      | entry => exact hq (.entry hpos')
      | parameter hp =>
        have hplt := hD.sound.closed.lt_of_entry (hD.sound.keyed.field?_iff.1 hp)
        rw [← hi'] at hplt hp
        rw [shift_of_lt (hD.lt_of_shift_lt hplt)] at hp
        exact hne (hlist _ _ rfl hp)

/-- Where an operation keeps its list of parameters, the list keeps the reference. -/
lemma Abreast.holds_parameters {o p : NodeId} (hD : Detour d d' paths n q fixed (.parameters o))
    (h : Abreast d d' paths n q fixed ends r r') (hf : ¬fixed o)
    (hp : d.graph.field? o "parameters" = some p) (hr : r.graph.Entry o (.text "parameters") p) :
    r'.Holds (.parameters o) q := by
  have hentry := hD.sound.keyed.field?_iff.1 hp
  have ho : o < d.graph.nodes.size := lt_size_of_entries? hentry.choose_spec.1
  have hplt : p < d.graph.nodes.size := hD.sound.closed.lt_of_entry hentry
  have hnot : ¬r'.graph.Part (d.shift d' o) (some (.text "parameters")) q :=
    h.not_part hD (by simp)
  have hfield := h.field?_eq hD (Nat.lt_of_lt_of_le ho (h.le_size hD)) hf hnot
  rw [shift_of_lt ho, (h.isSound hD).keyed.field?_iff.2 hr, Option.map_some, shift_of_lt hplt]
    at hfield
  cases hD.held with
  | @parameter _ p' is _ hp' his hq =>
    cases hD.slot p' none (part_item his hq) with
    | parameter hp₀ =>
      obtain rfl := Option.some.inj (hp.symm.trans hp₀)
      have hnode := h.evolves.graph.others p (Nat.lt_of_lt_of_le hplt hD.size)
        (entries?_eq_none_of_items? his)
      refine .parameter hfield ?_ hq
      rw [items?, hnode, ← items?, his]

end Twins

/-! ### Ends -/

/-- The maps that were opened, and the list that an item of was shared. None can be left out: the
section is seen through in `share_seen_gone`, the components and the list in `share_seen_outside`. A
pointer has segments, so in a tree it does not end at the document itself. -/
inductive IsEnd (d : Document) (kind : String) (spot : Spot) : NodeId → Prop
  | opened {i : NodeId} (h : d.IsOpened kind i) : IsEnd d kind spot i
  | list {p : NodeId} {index : Nat} (h : spot = .item p index) : IsEnd d kind spot p

/-- The list of the spot, if it is one, stands in the operation only. -/
def IsOwnList (d : Document) (op : NodeId) (spot : Spot) : Prop :=
  ∀ p index, spot = .item p index → d.graph.Lone p op (.text "parameters")

/-- To an end leads what entries might be added to, or it is the list of the operation. -/
lemma HasRoom.part_end (h : d.HasRoom kind names) (hown : d.IsOwnList op spot)
    (hv : d.IsEnd kind spot v) (hpart : d.graph.Part i pos v) :
    ∃ k, pos = some k ∧ (d.IsOpened kind i ∧ d.MayAdd kind names i k ∨
      i = op ∧ k = .text "parameters" ∧ spot.place op = .parameters op) := by
  cases hv with
  | opened hv =>
    obtain ⟨hi, k, rfl, hadd⟩ := h.part hv hpart
    exact ⟨k, rfl, .inl ⟨hi, hadd⟩⟩
  | list hs =>
    obtain ⟨rfl, rfl⟩ := hown _ _ hs i pos hpart
    subst hs
    exact ⟨_, rfl, .inr ⟨rfl, rfl, rfl⟩⟩

lemma HasRoom.lt_size_end (h : d.HasRoom kind names) (hd : d.IsSound)
    (hp : d.field? "paths" = some paths) (hpart : d.IsPart op spot kind n)
    (hv : d.IsEnd kind spot v) : v < d.graph.nodes.size := by
  cases hv with
  | opened hv => exact h.lt_size hp hv
  | list hs =>
    cases hpart with
    | parameter hp =>
      cases hs
      exact hd.closed.lt_of_entry (hd.keyed.field?_iff.1 hp)
    | body | response => cases hs

/-- While references are resolved that keep clear of the ends, nothing else comes to lead there. -/
lemma Becomes.part_of_end (h : d.Becomes paths n (d.IsEnd kind spot) r) (hd : d.IsSound)
    (hp : d.field? "paths" = some paths) (hroom : d.HasRoom kind names)
    (hspot : d.IsPart op spot kind n) (hown : d.IsOwnList op spot) (hv : d.IsEnd kind spot v)
    (hpart : r.graph.Part i pos v) : d.graph.Part i pos v := by
  refine h.part hd hv (hroom.lt_size_end hd hp hspot hv) (fun j hj => ?_) hpart
  obtain ⟨k, hk, -⟩ := hroom.part_end hown hv hj
  cases hk

/-! ### Shared parts -/

/-- A part of an operation can be shared under some names: it is no reference, there is room for the
names, and references that are followed lead neither inside of the part nor to an end. -/
structure CanShare (d : Document) (paths op : NodeId) (spot : Spot) (kind : String)
    (names : List String) (n : NodeId) : Prop where
  sound : d.IsSound
  field : d.field? "paths" = some paths
  ordered : d.IsOrdered paths
  operation : d.IsOperation paths op
  part : d.IsPart op spot kind n
  inline : ¬d.graph.IsReference n
  room : d.HasRoom kind names
  own : d.IsOwnList op spot
  clear : ∀ e p, d.Visits paths e p → e.IsClearAt n (d.IsEnd kind spot) p

namespace CanShare

lemma detour (hS : d.CanShare paths op spot kind names n)
    (h : d.Shared d' op spot kind names n s q g) :
    Detour d d' paths n q (d.IsOpened kind) (spot.place op) :=
  h.detour hS.sound hS.field hS.ordered hS.operation hS.part hS.inline hS.room

section Resolved

variable (hS : d.CanShare paths op spot kind names n)
  (h : d.Shared d' op spot kind names n s q g)
  (hA : Abreast d d' paths n q (d.IsOpened kind) (d.IsEnd kind spot) r r')
include hS hA

/-- What stands in an opened map, and not where an entry might be added, goes with itself. -/
lemma aligned (hi : d.IsOpened kind i) (hk : ¬d.MayAdd kind names i k)
    (hv : d.graph.Entry i k v) : Aligned d d' r (d.IsEnd kind spot) v v := by
  have hlt : v < d.graph.nodes.size := hS.sound.closed.lt_of_entry hv
  have hsize := (hA.becomes.advances.evolves hS.sound).graph.size
  refine ⟨(shift_of_lt hlt).symm, Nat.lt_of_lt_of_le hlt hsize, fun hend => ?_⟩
  have hpart : d.graph.Part i (some k) v := hv
  obtain ⟨_, heq, hcase⟩ := hS.room.part_end hS.own hend hpart
  cases heq
  rcases hcase with ⟨-, hadd⟩ | ⟨rfl, -⟩
  · exact hk hadd
  · exact hS.room.not_isOpened_operation hS.sound hS.field hS.operation hi

include h in
lemma twins (hq : ¬r'.Holds (spot.place op) q) :
    r.graph.Twins r'.graph (Aligned d d' r (d.IsEnd kind spot)) := by
  have hD := hS.detour h
  refine hA.twins hD (fun i hi => .opened hi) hq (fun o p ho hp => ?_) fun i pos v hi hv hend => ?_
  · cases hS.part with
    | parameter hp₀ =>
      cases ho
      obtain rfl := Option.some.inj (hp₀.symm.trans hp)
      exact .list rfl
    | body | response => cases ho
  · have hv₀ := hA.becomes.part_of_end hS.sound hS.field hS.room hS.part hS.own hend hv
    obtain ⟨k, rfl, ⟨hopened, -⟩ | ⟨rfl, rfl, hplace⟩⟩ := hS.room.part_end hS.own hend hv₀
    · exact hi (.opened hopened)
    · rw [hplace] at hq hD
      refine hq (hA.holds_parameters hD ?_ (hS.sound.keyed.field?_iff.2 hv₀) hv)
      exact hS.room.not_isOpened_operation hS.sound hS.field hS.operation

lemma field?_eq (name : String) : r.field? name = d.field? name := by
  rw [Document.field?, (hA.becomes.advances.evolves hS.sound).root, Graph.field?, hA.kept _ .root]
  rfl

/-- The schemas among the components are where they were. -/
lemma schemas_eq : (r.field? "components").bind (r.graph.field? · "schemas") =
    (d.field? "components").bind (d.graph.field? · "schemas") := by
  rw [hS.field?_eq hA]
  cases hc : d.field? "components" with
  | none => rfl
  | some c => rw [Option.bind_some, Option.bind_some, Graph.field?, hA.kept c (.components hc),
      ← Graph.field?]

include h

omit hS in
lemma field?_eq_shared (name : String) : r'.field? name = d'.graph.field? d.root name := by
  rw [Document.field?, hA.evolves.root, h.root, Graph.field?, hA.kept' _ (.inl .root)]
  rfl

lemma schemas_eq_shared : (r'.field? "components").bind (r'.graph.field? · "schemas") =
    (d.field? "components").bind (d.graph.field? · "schemas") := by
  obtain ⟨c, hc⟩ := h.linked.branches
  have hlt : c < d'.graph.nodes.size := by
    obtain ⟨es, hes, -⟩ := Option.bind_eq_some_iff.1 hc.shelf
    rw [h.swapped.size]
    exact lt_size_of_entries? hes
  have hnode : r'.graph.node c = g.node c := by
    rw [hA.kept' c (hc.opened.imp_right fun hle => ⟨hle, hlt⟩), h.node_eq_of_opened hc.opened]
  have hkind : "schemas" ≠ kind := by
    cases hS.part with
    | parameter | body | response => decide
  rw [field?_eq_shared h hA, h.field?_eq .root, hc.components, Option.bind_some, Graph.field?,
    hnode, ← Graph.field?, hc.others "schemas" hkind]

/-- What the description is read from goes together. -/
theorem readsAlike (hq : ¬r'.Holds (spot.place op) q) :
    r.ReadsAlike r' (Aligned d d' r (d.IsEnd kind spot)) := by
  have rel {o : Option NodeId} (ho : ∀ v, o = some v → Aligned d d' r (d.IsEnd kind spot) v v) :
      Option.Rel (Aligned d d' r (d.IsEnd kind spot)) o o := by
    cases o with
    | none => exact .none
    | some v => exact .some (ho v rfl)
  have isMap {e : Document} (hp : e.field? "paths" = some paths) :
      (e.graph.entries? e.root).isNone = false := by
    obtain ⟨es, hes, -⟩ := Option.bind_eq_some_iff.1 hp
    have hes : e.graph.entries? e.root = some es := hes
    rw [hes]
    rfl
  refine ⟨hS.twins h hA hq, ?_, fun name hname => ?_, ?_⟩
  · have hpaths : r'.field? "paths" = some paths := by
      rw [field?_eq_shared h hA,
        h.field?_root_eq hS.sound (hS.room.not_mayAdd hS.sound (by decide))]
      exact hS.field
    rw [isMap hpaths, isMap ((hS.field?_eq hA "paths").trans hS.field)]
  · have hadd := hS.room.not_mayAdd hS.sound hname
    rw [hS.field?_eq hA, field?_eq_shared h hA, h.field?_root_eq hS.sound hadd]
    exact rel fun v hv => hS.aligned hA .root hadd (hS.sound.keyed.field?_iff.1 hv)
  · rw [schemaEntries, schemaEntries, hS.schemas_eq hA, hS.schemas_eq_shared h hA]
    refine (hS.twins h hA hq).entriesOf (rel fun v hv => ?_)
    obtain ⟨c, hc, hv⟩ := Option.bind_eq_some_iff.1 hv
    have hkind : "schemas" ≠ kind := by
      cases hS.part with
      | parameter | body | response => decide
    exact hS.aligned hA (.components hc) (hS.room.not_mayAdd_components hS.sound hc hkind)
      (hS.sound.keyed.field?_iff.1 hv)

end Resolved

end CanShare

/-! ### Trees -/

lemma IsTree.isOwnList (ht : d.IsTree) (hk : d.graph.Keyed) (hpart : d.IsPart op spot kind n) :
    d.IsOwnList op spot := by
  intro p index hs
  cases hpart with
  | parameter hp =>
    cases hs
    exact ht.lone (hk.field?_iff.1 hp)
  | body | response => cases hs

/-- Where there is one path, there is one path item. -/
lemma eq_of_isPathItem (hes : d.graph.entries? paths = some [(k, item)])
    (hi : d.IsPathItem paths i) : i = item := by
  obtain ⟨l, fs, hfs, hmem⟩ := hi
  cases hes.symm.trans hfs
  exact (Prod.mk.inj (List.mem_singleton.1 hmem)).2

/-- In a tree that is straight, a part can be shared where the references keep clear of it and of the
ends in the document as it is. -/
lemma IsTree.canShare (ht : d.IsTree) (hd : d.IsSound) (hp : d.field? "paths" = some paths)
    (hs : d.IsStraight paths) (hinline : ∀ i, d.IsPathItem paths i → ¬d.graph.IsReference i)
    (hop : d.IsOperation paths op) (hpart : d.IsPart op spot kind n)
    (hn : ¬d.graph.IsReference n) (hroom : d.HasRoom kind names)
    (hc : d.KeepsClear paths n (d.IsEnd kind spot)) : d.CanShare paths op spot kind names n where
  sound := hd
  field := hp
  ordered := ht.isOrdered hd.keyed hp hinline
  operation := hop
  part := hpart
  inline := hn
  room := hroom
  own := ht.isOwnList hd.keyed hpart
  clear e p hv := by
    obtain ⟨_, hpart⟩ := hpart.part
    exact hc.isClearAt hd hs (hd.closed _ _ hpart.mem_parts) hv

/-- The ends, in a list. -/
def endList (d : Document) (kind : String) (spot : Spot) : List NodeId :=
  d.root :: (d.field? "components").toList
    ++ ((d.field? "components").bind (d.graph.field? · kind)).toList
    ++ match spot with
      | .item p _ => [p]
      | .entry .. => []

lemma IsEnd.mem_endList (h : d.IsEnd kind spot i) : i ∈ d.endList kind spot := by
  cases h with
  | opened h =>
    cases h with
    | root => simp [endList]
    | components hc => simp [endList, hc]
    | shelf hc hs => simp [endList, hc, hs]
  | list hs => simp [endList, hs]

/-! ### Whole descriptions -/

/-- A document is described once its references are resolved. -/
lemma ofDocument_eq_ok_iff {a : Api Document} : (Api.ofDocument d).outcome = .ok a ↔
    ∃ r b, d.resolve = .ok r ∧ r.describe.outcome = .ok b ∧ b.map (Document.mk r.graph) = a := by
  unfold Api.ofDocument
  cases d.resolve with
  | error e => simp
  | ok r =>
    simp only [describeParts, outcome_adapt, outcome_bind, outcome_pure, mapError_eq_ok_iff,
      bind_eq_ok_iff, Except.ok.injEq, exists_and_left, exists_eq_left']

/-- Where a part of an operation can be shared, sharing it leaves no trace: if the document is
described, it is described in the same way afterwards. -/
theorem share_describes (hS : d.CanShare paths op spot kind names n) {a : Api Document}
    (ha : (Api.ofDocument d).outcome = .ok a) :
    ∃ a', (Api.ofDocument (d.share spot kind names n)).outcome = .ok a' ∧
      a'.map toValue = a.map toValue := by
  obtain ⟨s, q, g, h⟩ := exists_shared hS.sound hS.field hS.operation hS.part hS.room
  obtain ⟨hop, item, m, ⟨key, hitem⟩, hm⟩ := hS.operation
  obtain ⟨r, b, hr, hb, rfl⟩ := ofDocument_eq_ok_iff.1 ha
  have hmap : (d.graph.entries? item).isSome := (hS.sound.keyed.field?_iff.1 hm).isSome_entries?
  obtain ⟨r', hr', hA, hq⟩ := (hS.detour h).resolve (fun i hi => .opened hi) hS.clear hr hitem hmap
    hm hop (hS.part.inOperation)
  have halike := (hS.readsAlike h hA hq).describe_alike
  rw [hb] at halike
  generalize hb' : r'.describe.outcome = x at halike
  cases halike with
  | @ok _ b' hbb' =>
    refine ⟨b'.map (Document.mk r'.graph), ofDocument_eq_ok_iff.2 ⟨r', b', hr', hb', rfl⟩, ?_⟩
    have trees (e : Document) : toValue ∘ Document.mk e.graph = e.graph.unfold := rfl
    rw [Api.map_map, Api.map_map, trees, trees, hbb']

/-- A parameter, a response, and a reference to another response. -/
def pets : Document :=
  ofValue (.ofFields [
    ("openapi", .text "3.0.0"),
    ("info", .ofFields [("title", .text "Pets"), ("version", .text "1")]),
    ("paths", .ofFields [("/pets", .ofFields [("get", .ofFields [
      ("parameters", .list [.ofFields [("name", .text "limit"), ("in", .text "query")]]),
      ("responses", .ofFields [
        ("200", .ofFields [("description", .text "Pets")]),
        ("404", .ofFields [("$ref", .text "#/components/responses/Gone")])])])])]),
    ("components", .ofFields [
      ("responses", .ofFields [("Gone", .ofFields [("description", .text "Gone")])])])])

lemma pets_canShare : pets.CanShare 15 13 (.item 7 0) "parameters" ["Size", "Limit"] 6 := by
  have sound : pets.IsSound := ofValue_isSound (by decide +kernel)
  have tree : pets.IsTree := ofValue_isTree _
  have straight : pets.IsStraight 15 := .of_nodes (by decide +kernel) (by decide +kernel)
  have components : pets.field? "components" = some 19 := by decide +kernel
  have section? : pets.graph.field? 19 "parameters" = none := by decide +kernel
  have parameters : pets.graph.items? 7 = some [6] := by decide +kernel
  have items : pets.graph.entries? 15 = some [(.text "/pets", 14)] := by decide +kernel
  refine tree.canShare sound (by decide +kernel) straight ?_ ?_ ?_ ?_ ?_ ?_
  · intro i hi
    rw [eq_of_isPathItem items hi]
    decide +kernel
  · exact ⟨by decide +kernel, 14, .get, ⟨.text "/pets", _, items, by simp⟩, by decide +kernel⟩
  · exact .parameter (by decide +kernel) parameters rfl
  · decide +kernel
  · refine tree.hasRoom sound.keyed (fun c hc => ?_) (fun c s hc hs => ?_) (by simp) (by decide)
    · cases components.symm.trans hc
      decide +kernel
    · cases components.symm.trans hc
      cases section?.symm.trans hs
  · exact .of_nodes (fun j => IsEnd.mem_endList) (by decide +kernel)

/-- The parameter is described as before when it takes two references to come to it. -/
theorem share_describes_pets : ∃ a a', (Api.ofDocument pets).outcome = .ok a ∧
    (Api.ofDocument (pets.share (.item 7 0) "parameters" ["Size", "Limit"] 6)).outcome = .ok a' ∧
      a'.map toValue = a.map toValue := by
  obtain ⟨a, ha⟩ := exists_of_isOk (x := (Api.ofDocument pets).outcome) (by decide +kernel)
  obtain ⟨a', ha', hsame⟩ := share_describes pets_canShare ha
  exact ⟨a, a', ha, ha', hsame⟩

/-- A reference leads to the section that a response is shared in. -/
def gone : Document :=
  ofValue (.ofFields [
    ("openapi", .text "3.0.0"),
    ("info", .ofFields [("title", .text "Pets"), ("version", .text "1")]),
    ("paths", .ofFields [("/pets", .ofFields [("get", .ofFields [
      ("responses", .ofFields [
        ("200", .ofFields [("$ref", .text "#/components/responses")]),
        ("404", .ofFields [("description", .text "Gone")])])])])]),
    ("components", .ofFields [("responses", .ofFields [])])])

/-- Which responses of an API have content. -/
def contents {α : Type} (a : Api α) : List (List Bool) :=
  a.operations.map fun o => o.responses.map (·.2.content.isSome)

lemma contents_map {α β : Type} (f : α → β) (a : Api α) : contents (a.map f) = contents a := by
  simp [contents, Api.map, Operation.map, Response.map, Function.comp_def]

/-- The other response is described by what stands in the section, so there it is seen that a
response was added, though no reference leads to somewhere inside of it. -/
theorem share_seen_gone : gone.IsTree ∧ gone.field? "paths" = some 11 ∧
    (∀ i, gone.IsPathItem 11 i → ¬gone.graph.IsReference i) ∧ gone.IsOperation 11 9 ∧
    gone.IsPart 9 (.entry 8 (.text "404")) "responses" 7 ∧ ¬gone.graph.IsReference 7 ∧
    gone.HasRoom "responses" ["content"] ∧ gone.KeepsClear 11 7 (fun _ => False) ∧
    ∃ a a', (Api.ofDocument gone).outcome = .ok a ∧
      (Api.ofDocument (gone.share (.entry 8 (.text "404")) "responses" ["content"] 7)).outcome =
        .ok a' ∧ a'.map toValue ≠ a.map toValue := by
  have sound : gone.IsSound := ofValue_isSound (by decide +kernel)
  have tree : gone.IsTree := ofValue_isTree _
  have components : gone.field? "components" = some 13 := by decide +kernel
  have section? : gone.graph.field? 13 "responses" = some 12 := by decide +kernel
  have items : gone.graph.entries? 11 = some [(.text "/pets", 10)] := by decide +kernel
  have responses : gone.graph.entries? 8 = some [(.text "200", 5), (.text "404", 7)] := by
    decide +kernel
  refine ⟨tree, by decide +kernel, ?_, ?_, ?_, by decide +kernel, ?_, ?_, ?_⟩
  · intro i hi
    rw [eq_of_isPathItem items hi]
    decide +kernel
  · exact ⟨by decide +kernel, 10, .get, ⟨.text "/pets", _, items, by simp⟩, by decide +kernel⟩
  · exact .response (by decide +kernel) ⟨_, responses, by simp⟩ (by decide)
  · refine tree.hasRoom sound.keyed (fun c hc => ?_) (fun c s hc hs => ?_) (by simp) (by decide)
    · cases components.symm.trans hc
      decide +kernel
    · cases components.symm.trans hc
      cases section?.symm.trans hs
      exact ⟨by decide +kernel, by decide +kernel⟩
  · exact .of_nodes (l := []) (fun _ h => h.elim) (by decide +kernel)
  · obtain ⟨a, ha⟩ := exists_of_isOk (x := (Api.ofDocument gone).outcome) (by decide +kernel)
    obtain ⟨a', ha'⟩ := exists_of_isOk (x := (Api.ofDocument
      (gone.share (.entry 8 (.text "404")) "responses" ["content"] 7)).outcome) (by decide +kernel)
    refine ⟨a, a', ha, ha', fun hsame => ?_⟩
    have hcontents : (Api.ofDocument gone).outcome.toOption.map contents =
        some [[false, false]] := by decide +kernel
    have hcontents' : (Api.ofDocument (gone.share (.entry 8 (.text "404")) "responses" ["content"]
        7)).outcome.toOption.map contents = some [[true, false]] := by decide +kernel
    rw [ha] at hcontents
    rw [ha'] at hcontents'
    have hsame := congrArg contents hsame
    rw [contents_map, contents_map] at hsame
    simp only [Except.toOption, Option.map_some, Option.some.injEq] at hcontents hcontents'
    rw [hcontents, hcontents'] at hsame
    cases hsame

/-- A pointer looks into this description: what it leads to comes to stand among responses, these
are a schema among other responses, and those are taken for a parameter. -/
def pryingValue (target : String) : Value :=
  .ofFields [
    ("openapi", .text "3.0.0"),
    ("info", .ofFields [("title", .text "Pets"), ("version", .text "1")]),
    ("paths", .ofFields [("/pets", .ofFields [
      ("get", .ofFields [("responses", .ofFields [
        ("name", .text "size"), ("in", .text "query"),
        ("schema", .ofFields [("$ref", .text "#/paths/~1pets/put/responses")])])]),
      ("put", .ofFields [("responses", .ofFields [
        ("200", .ofFields [("$ref", .text target)])])]),
      ("post", .ofFields [
        ("parameters", .list [.ofFields [("$ref", .text "#/paths/~1pets/get/responses")],
          .ofFields [("name", .text "limit"), ("in", .text "query")]]),
        ("responses", .ofFields [])])])]),
    ("components", .ofFields [])]

/-- The document of the description. -/
def prying (target : String) : Document :=
  ofValue (pryingValue target)

/-- The keys of the maps, or lists of maps, that are fields of the schemas of parameters. -/
def keysInSchemas (a : Api Value) : List (List (List Scalar)) :=
  a.operations.flatMap fun o => o.parameters.flatMap fun p => (p.schema.getD []).values.map fun v =>
    (v.items?.getD [v]).map fun w => (w.entries?.getD []).map (·.1)

/-- Pointers to the components, and to the list that a parameter stands in. -/
def outerEnds : List String :=
  ["#/components", "#/paths/~1pets/post/parameters"]

/-- At the components and at the list it is no different from the section: where a reference ends
there it is seen that the parameter was shared, though all references keep clear of the other ends. -/
theorem share_seen_outside : ∀ target ∈ outerEnds, (prying target).IsTree ∧
    (prying target).field? "paths" = some 23 ∧
    (∀ i, (prying target).IsPathItem 23 i → ¬(prying target).graph.IsReference i) ∧
    (prying target).IsOperation 23 21 ∧
    (prying target).IsPart 21 (.item 19 1) "parameters" 18 ∧
    ¬(prying target).graph.IsReference 18 ∧ (prying target).HasRoom "parameters" ["limit"] ∧
    (prying target).KeepsClear 23 18 (fun i => (prying target).IsEnd "parameters" (.item 19 1) i ∧
      (prying target).locate target ≠ .ok i) ∧
    ∃ a a', (Api.ofDocument (prying target)).outcome = .ok a ∧
      (Api.ofDocument ((prying target).share (.item 19 1) "parameters" ["limit"] 18)).outcome =
        .ok a' ∧ a'.map toValue ≠ a.map toValue := by
  have keyed : ∀ target ∈ outerEnds, (pryingValue target).isKeyed := by decide +kernel
  have layout : ∀ target ∈ outerEnds, (prying target).field? "paths" = some 23 ∧
      (prying target).field? "components" = some 24 ∧
      ((prying target).graph.entries? 24).isSome ∧
      (prying target).graph.field? 24 "parameters" = none ∧
      (prying target).graph.entries? 23 = some [(.text "/pets", 22)] ∧
      (prying target).graph.field? 22 (Method.key .post) = some 21 ∧
      ((prying target).graph.entries? 21).isSome ∧
      (prying target).graph.field? 21 "parameters" = some 19 ∧
      (prying target).graph.items? 19 = some [15, 18] := by decide +kernel
  have inline : ∀ target ∈ outerEnds, ¬(prying target).graph.IsReference 22 ∧
      ¬(prying target).graph.IsReference 18 := by decide +kernel
  have clear : ∀ target ∈ outerEnds, ∀ i < (prying target).graph.nodes.size,
      (target? (prying target).graph i).all (fun way => !(prying target).passes 18 way &&
        ((prying target).locate way).toOption.all fun j =>
          !(((prying target).endList "parameters" (.item 19 1)).filter fun i =>
            ((prying target).locate target).toOption != some i).contains j) = true := by
    decide +kernel
  have described : ∀ target ∈ outerEnds, (Api.ofDocument (prying target)).outcome.isOk ∧
      (Api.ofDocument ((prying target).share (.item 19 1) "parameters" ["limit"] 18)).outcome.isOk ∧
      (Api.ofDocument ((prying target).share (.item 19 1) "parameters" ["limit"]
          18)).outcome.toOption.map (keysInSchemas ∘ Api.map toValue) ≠
        (Api.ofDocument (prying target)).outcome.toOption.map (keysInSchemas ∘ Api.map toValue) := by
    decide +kernel
  intro target htarget
  obtain ⟨paths, components, isMap, section?, items, post, opIsMap, list, parameters⟩ :=
    layout target htarget
  obtain ⟨itemInline, partInline⟩ := inline target htarget
  obtain ⟨isOk, isOk', differs⟩ := described target htarget
  have sound : (prying target).IsSound := ofValue_isSound (keyed target htarget)
  have tree : (prying target).IsTree := ofValue_isTree _
  refine ⟨tree, paths, fun i hi => ?_, ⟨opIsMap, 22, .post, ⟨.text "/pets", _, items, by simp⟩, post⟩,
    .parameter list parameters rfl, partInline, ?_, ?_, ?_⟩
  · rw [eq_of_isPathItem items hi]
    exact itemInline
  · refine tree.hasRoom sound.keyed (fun c hc => ?_) (fun c s hc hs => ?_) (by simp) (by decide)
    · cases components.symm.trans hc
      exact isMap
    · cases components.symm.trans hc
      cases section?.symm.trans hs
  · refine .of_nodes (fun i hi => List.mem_filter.2 ⟨hi.1.mem_endList, bne_iff_ne.2 fun h => ?_⟩)
      (clear target htarget)
    generalize (prying target).locate target = x at h hi
    cases x with
    | ok j => exact hi.2 (congrArg _ (Option.some.inj h))
    | error => cases h
  · obtain ⟨a, ha⟩ := exists_of_isOk isOk
    obtain ⟨a', ha'⟩ := exists_of_isOk isOk'
    refine ⟨a, a', ha, ha', fun hsame => ?_⟩
    rw [ha, ha'] at differs
    exact differs (congrArg (some ∘ keysInSchemas) hsame)

end Document

end ApiBridge
