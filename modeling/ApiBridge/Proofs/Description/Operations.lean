import ApiBridge.Proofs.Description.Describing
import ApiBridge.Proofs.Document.Layout
import Mathlib.Data.List.Dedup

/-!
# One operation for each path and method

The operations of a description are described one by one, in the order in which they stand in the
document. A key of a path item counts as a method in every spelling, and a path as its text. So two
operations of a description have the same path and method exactly when a path item has two keys for
one method, or two keys are read as one path.
-/

namespace ApiBridge

/-- A place where an operation stands: under a path, and there under a key for a method. -/
structure OperationPlace where
  path : Scalar
  key : Scalar
  operation : NodeId
  method : Method

/-- The path and the method of an operation. -/
def Operation.route {α : Type} (op : Operation α) : String × Method :=
  (op.path, op.method)

namespace OperationPlace

/-- The path and the method as they are read. -/
def route (x : OperationPlace) : String × Method :=
  (x.path.display, x.method)

/-- Two places are under one path, and there under one key. -/
def Same (x y : OperationPlace) : Prop :=
  x.path.same y.path = true ∧ x.key.same y.key = true

/-- The path is a text, and the method is spelled as usual. -/
structure IsPlain (x : OperationPlace) : Prop where
  path : ∃ text, x.path = .text text
  key : x.key = .text x.method.key

variable {x y : OperationPlace}

lemma IsPlain.eq_of_route (hx : x.IsPlain) (hy : y.IsPlain)
    (h : x.route = y.route) : x.path = y.path ∧ x.key = y.key := by
  obtain ⟨hpath, hmethod⟩ := Prod.mk.inj h
  obtain ⟨p, hp⟩ := hx.path
  obtain ⟨q, hq⟩ := hy.path
  rw [hp, hq] at hpath ⊢
  rw [hx.key, hy.key, hmethod]
  exact ⟨congrArg Scalar.text hpath, rfl⟩

end OperationPlace

/-! ### Places of operations -/

namespace Graph

/-- The operation at an entry of a path item, if it is one. -/
def operationAt? (g : Graph) (path : Scalar) (e : Scalar × NodeId) : Option OperationPlace :=
  if (g.field? e.2 "responses").isSome then
    (Method.ofKey? (Text.lower e.1.display)).map (⟨path, e.1, e.2, ·⟩)
  else none

/-- The operations of a path item, in its order. -/
def operationsOf (g : Graph) (p : Scalar × NodeId) : List OperationPlace :=
  ((g.entries? p.2).getD []).filterMap (g.operationAt? p.1)

variable {g : Graph} {path : Scalar} {e : Scalar × NodeId} {x y : OperationPlace}

lemma operationAt?_eq_some_iff : g.operationAt? path e = some x ↔
    (g.field? e.2 "responses").isSome = true ∧
      ∃ m, Method.ofKey? (Text.lower e.1.display) = some m ∧ ⟨path, e.1, e.2, m⟩ = x := by
  rw [operationAt?]
  split
  case isTrue h => simp [h]
  case isFalse h => simp [h]

end Graph

namespace Document

open Attempt

variable {d : Document} {g : Graph} {path key : Scalar} {o : NodeId}

/-- The operations of a document, in its order. -/
def operationPlaces (d : Document) : List OperationPlace :=
  (d.describePaths.toOption.getD []).flatMap d.graph.operationsOf

/-! ### Operations in their order -/

/-- An operation is described from a place. -/
structure IsDescribed (g : Graph) (x : OperationPlace) (op : Operation NodeId) : Prop where
  described : (describeOperation g x.path x.key x.operation).outcome = .ok (some op)
  route : op.route = x.route

/-- Where an operation stands, an operation is described, with the text of the path. -/
lemma exists_of_describeOperation {m : Method} (hop : g.IsOperation key o m)
    {r : Option (Operation NodeId)} (h : (describeOperation g path key o).outcome = .ok r) :
    ∃ op, r = some op ∧ op.route = (path.display, m) := by
  rw [describeOperation_of_isOperation hop] at h
  simp only [outcome_bind, outcome_liftM, outcome_pure, bind_eq_ok_iff, needed,
    mapError_eq_ok_iff, written_eq_ok, Except.ok.injEq] at h
  obtain ⟨text, ⟨-, rfl⟩, ps, -, body, -, rs, -, rfl⟩ := h
  exact ⟨_, rfl, rfl⟩

lemma isWritable_of_describeOperation {r : Option (Operation NodeId)}
    (h : (describeOperation g path key o).outcome = .ok r) : key.isWritable = true := by
  rw [describeOperation, outcome_bind, outcome_liftM] at h
  obtain ⟨text, htext, -⟩ := bind_eq_ok_iff.1 h
  exact (written_eq_ok.1 (mapError_eq_ok_iff.1 htext)).1

/-- What an entry of a path item comes to: an operation at a place, or nothing where none is. -/
lemma rel_describeOperation {r : Option (Operation NodeId)}
    (h : (describeOperation g path key o).outcome = .ok r) :
    Option.Rel (IsDescribed g) (g.operationAt? path (key, o)) r := by
  have hk := isWritable_of_describeOperation h
  by_cases hop : ∃ m, g.IsOperation key o m
  · obtain ⟨m, hop⟩ := hop
    obtain ⟨op, rfl, hroute⟩ := exists_of_describeOperation hop h
    have place : g.operationAt? path (key, o) = some ⟨path, key, o, m⟩ :=
      Graph.operationAt?_eq_some_iff.2 ⟨hop.responses, m, hop.method, rfl⟩
    rw [place]
    exact .some ⟨h, hroute⟩
  · have nothing : r = none := by
      rcases describeOperation_of_not_isOperation path hk (not_exists.1 hop) with hn | ⟨m, p, hn⟩
      · simpa [hn, eq_comm] using h
      · simpa [hn, eq_comm] using h
    have nowhere : g.operationAt? path (key, o) = none := by
      refine Option.eq_none_iff_forall_ne_some.2 fun x hx => hop ?_
      obtain ⟨hr, m, hm, -⟩ := Graph.operationAt?_eq_some_iff.1 hx
      exact ⟨m, hk, hm, hr⟩
    rw [nothing, nowhere]
    exact .none

lemma forall₂_describePathItem {item : NodeId} {ops : List (Operation NodeId)}
    (h : (describePathItem g path item).outcome = .ok ops) :
    List.Forall₂ (IsDescribed g) (g.operationsOf (path, item)) ops := by
  simp only [describePathItem, outcome_bind, outcome_mapM, outcome_pure, bind_eq_ok_iff,
    mapM_eq_ok_iff, Except.ok.injEq] at h
  obtain ⟨found, hfound, rfl⟩ := h
  refine List.rel_filterMap (R := fun e r => Option.Rel (IsDescribed g) (g.operationAt? path e) r)
    (fun e r hr => hr) (hfound.imp fun e r hr => rel_describeOperation hr)

/-- The operations of a description are those of the document, one after another. -/
lemma forall₂_describe {api : Api NodeId} (h : d.describe.outcome = .ok api) :
    List.Forall₂ (IsDescribed d.graph) d.operationPlaces api.operations := by
  obtain ⟨paths, head, hops⟩ := hasHead_of_describe h
  simp only [describeOperations, outcome_bind, outcome_mapM, outcome_pure, bind_eq_ok_iff,
    mapM_eq_ok_iff, Except.ok.injEq] at hops
  obtain ⟨found, hfound, hflat⟩ := hops
  rw [operationPlaces, head.paths, ← hflat, List.flatMap_def]
  refine List.rel_flatten (List.forall₂_map_left_iff.2 ?_)
  exact hfound.imp fun p ops hp => forall₂_describePathItem hp

/-! ### Places with one path and method -/

lemma keyed_describePaths (hk : d.graph.Keyed) {paths : List (Scalar × NodeId)}
    (h : d.describePaths = .ok paths) : paths.Pairwise fun p q => p.1.same q.1 = false := by
  cases paths with
  | nil => exact .nil
  | cons p ps =>
    obtain ⟨i, -, hes⟩ := field?_of_describePaths h List.mem_cons_self
    have keys := hk i
    rwa [Graph.keys, hes, Option.getD_some, List.pairwise_map] at keys

lemma mem_operationsOf {p : Scalar × NodeId} {x : OperationPlace} (h : x ∈ g.operationsOf p) :
    x.path = p.1 := by
  obtain ⟨e, -, he⟩ := List.mem_filterMap.1 h
  obtain ⟨-, m, -, rfl⟩ := Graph.operationAt?_eq_some_iff.1 he
  rfl

/-- No two operations stand in one place. -/
lemma pairwise_operationPlaces (hk : d.graph.Keyed) {paths : List (Scalar × NodeId)}
    (h : d.describePaths = .ok paths) :
    d.operationPlaces.Pairwise fun x y => ¬x.Same y := by
  rw [operationPlaces, h, List.pairwise_flatMap]
  refine ⟨fun p _ => ?_, ?_⟩
  · have keys := hk p.2
    rw [Graph.keys, List.pairwise_map] at keys
    refine List.pairwise_filterMap.2 (keys.imp fun {e f} hne x hx y hy hsame => ?_)
    obtain ⟨-, m, -, rfl⟩ := Graph.operationAt?_eq_some_iff.1 hx
    obtain ⟨-, m', -, rfl⟩ := Graph.operationAt?_eq_some_iff.1 hy
    exact absurd hsame.2 (by simp [hne])
  · refine (keyed_describePaths hk h).imp fun {p q} hne x hx y hy hsame => ?_
    rw [OperationPlace.Same, mem_operationsOf hx, mem_operationsOf hy, hne] at hsame
    exact absurd hsame.1 (by decide)

/-- The paths and methods of operations all differ exactly when no two keys are read alike. -/
lemma nodup_route_iff (hk : d.graph.Keyed) {paths : List (Scalar × NodeId)}
    (h : d.describePaths = .ok paths) : (d.operationPlaces.map (·.route)).Nodup ↔
      ∀ x ∈ d.operationPlaces, ∀ y ∈ d.operationPlaces, x.route = y.route →
        x.path = y.path ∧ x.key = y.key := by
  constructor
  · intro hn x hx y hy heq
    obtain rfl : x = y := List.inj_on_of_nodup_map hn hx hy heq
    exact ⟨rfl, rfl⟩
  · intro hall
    rw [List.Nodup, List.pairwise_map]
    refine (pairwise_operationPlaces hk h).imp_of_mem fun {x y} hx hy hne heq => hne ?_
    obtain ⟨hpath, hkey⟩ := hall x hx y hy heq
    rw [OperationPlace.Same, hpath, hkey, Scalar.same_self, Scalar.same_self]
    exact ⟨rfl, rfl⟩

/-- Each operation of the document is described once, at its place in the order of the document: it
has the text of its path, and the method that its key is read as. Path and method tell operations
apart, and there are as many operations as pairs of a path and a method, exactly when no two keys of
operations are read alike. So it is where the paths are texts and the methods are spelled as
usual. -/
theorem describe_operations (hk : d.graph.Keyed) {api : Api NodeId}
    (h : d.describe.outcome = .ok api) :
    List.Forall₂ (IsDescribed d.graph) d.operationPlaces api.operations ∧
    ((api.operations.map (·.route)).Nodup ↔ ∀ x ∈ d.operationPlaces, ∀ y ∈ d.operationPlaces,
      x.route = y.route → x.path = y.path ∧ x.key = y.key) ∧
    (api.operations.length = (d.operationPlaces.map (·.route)).dedup.length ↔
      (api.operations.map (·.route)).Nodup) ∧
    ((∀ x ∈ d.operationPlaces, x.IsPlain) → (api.operations.map (·.route)).Nodup) := by
  have described := forall₂_describe h
  have routes : api.operations.map (·.route) = d.operationPlaces.map (·.route) :=
    map_eq_of_forall₂ (described.imp fun _ _ hop => hop.route)
  obtain ⟨paths, head, -⟩ := hasHead_of_describe h
  have distinct := nodup_route_iff hk head.paths
  rw [routes, ← described.length_eq, ← List.length_map (f := (·.route))]
  refine ⟨described, distinct, ⟨fun hlength => ?_, fun hn => ?_⟩, fun hplain => ?_⟩
  · rw [← List.dedup_eq_self]
    exact (List.dedup_sublist _).eq_of_length hlength.symm
  · rw [List.dedup_eq_self.2 hn]
  · exact distinct.2 fun x hx y hy => (hplain x hx).eq_of_route (hplain y hy)

/-- A path item with two keys for one method. -/
def spelledTwice : Document :=
  ofValue (.ofFields [("openapi", .text "3.0.0"),
    ("info", .ofFields [("title", .text "Pets"), ("version", .text "1")]),
    ("paths", .ofFields [("/pets", .ofFields [("get", .ofFields [("responses", .ofFields [])]),
      ("GET", .ofFields [("responses", .ofFields [])])])])])

/-- Both operations are described, with one path and method. -/
theorem describe_operations_spelledTwice :
    ∃ api, spelledTwice.describe.outcome = .ok api ∧
      api.operations.map (·.route) = [("/pets", .get), ("/pets", .get)] ∧
      ¬(api.operations.map (·.route)).Nodup ∧
      api.operations.length ≠ (spelledTwice.operationPlaces.map (·.route)).dedup.length := by
  have keyed : spelledTwice.graph.Keyed := (ofValue_isSound (by decide +kernel)).keyed
  obtain ⟨api, h⟩ : ∃ api, spelledTwice.describe.outcome = .ok api :=
    exists_of_isOk (by decide +kernel)
  obtain ⟨described, -, count, -⟩ := describe_operations keyed h
  have places : spelledTwice.operationPlaces.map (·.route) =
      [("/pets", .get), ("/pets", .get)] := by decide +kernel
  have routes : api.operations.map (·.route) = [("/pets", .get), ("/pets", .get)] :=
    (map_eq_of_forall₂ (described.imp fun _ _ hop => hop.route)).trans places
  have repeated : ¬(api.operations.map (·.route)).Nodup := by
    rw [routes]
    decide
  exact ⟨api, h, routes, repeated, fun hlength => repeated (count.1 hlength)⟩

end Document

end ApiBridge
