import ApiBridge.Proofs.Document.Becoming

/-!
# Chains of references

References are followed in a loop that keeps the targets it has seen. `Document.FollowsChain` is a
run of that loop, of whatever length. There is one run from each node, since the targets on it are
all different, and it is what `Document.follow` computes.
-/

namespace ApiBridge

namespace Document

open ApiBridge.Graph

variable {d : Document} {i j r : NodeId} {seen targets targets' : List String} {target : String}
  {x y : Except ReferenceError NodeId}

/-- References are followed from a node when some targets have been seen: the targets that are
navigated to, and the result. -/
inductive FollowsChain (d : Document) :
    List String → NodeId → List String → Except ReferenceError NodeId → Prop
  | arrived {seen : List String} {i : NodeId} (hr : reference? d.graph i = none) :
      FollowsChain d seen i [] (.ok i)
  | notText {seen : List String} {i r : NodeId} {shown : String}
      (hr : reference? d.graph i = some r) (ht : d.graph.text? r = none)
      (hs : (d.graph.unfold r).writtenQuoted = .ok shown) :
      FollowsChain d seen i [] (.error (.notText shown))
  | unwritable {seen : List String} {i r : NodeId} {e : TextError}
      (hr : reference? d.graph i = some r) (ht : d.graph.text? r = none)
      (hs : (d.graph.unfold r).writtenQuoted = .error e) :
      FollowsChain d seen i [] (.error (.unwritable e))
  | circular {seen : List String} {i r : NodeId} {target : String}
      (hr : reference? d.graph i = some r) (ht : d.graph.text? r = some target)
      (hseen : target ∈ seen) : FollowsChain d seen i [] (.error (.circular (seen ++ [target])))
  | dangling {seen : List String} {i r : NodeId} {target : String} {e : ReferenceError}
      (hr : reference? d.graph i = some r) (ht : d.graph.text? r = some target)
      (hfresh : target ∉ seen) (hloc : d.locate target = .error e) :
      FollowsChain d seen i [target] (.error e)
  | step {seen targets : List String} {i j r : NodeId} {target : String}
      {x : Except ReferenceError NodeId}
      (hr : reference? d.graph i = some r) (ht : d.graph.text? r = some target)
      (hfresh : target ∉ seen) (hloc : d.locate target = .ok j)
      (h : FollowsChain d (seen ++ [target]) j targets x) :
      FollowsChain d seen i (target :: targets) x

/-- Each reference that is met has a text that leads to a node. -/
def IsUnbroken (d : Document) (i : NodeId) : Prop :=
  ∀ k, d.Meets i k → d.graph.IsReference k → ∃ l, d.next? k = some l

/-- It is enough to look at each node once, whether it is met or not. -/
lemma IsUnbroken.of_nodes
    (h : ∀ k < d.graph.nodes.size, (reference? d.graph k).isSome → (d.next? k).isSome) :
    d.IsUnbroken i := by
  intro k _ hk
  obtain ⟨r, hr⟩ := Option.isSome_iff_exists.1 hk
  obtain ⟨es, hes, -⟩ := Option.bind_eq_some_iff.1 hr
  exact Option.isSome_iff_exists.1 (h k (lt_size_of_entries? hes) hk)

lemma nodup_concat (hn : seen.Nodup) (hfresh : target ∉ seen) : (seen ++ [target]).Nodup := by
  rw [← List.concat_eq_append]
  exact hn.concat hfresh

namespace FollowsChain

/-- No target is navigated to twice, or when it was seen before. -/
lemma nodup (h : d.FollowsChain seen i targets x) (hn : seen.Nodup) : (seen ++ targets).Nodup := by
  induction h with
  | arrived | notText | unwritable | circular => rwa [List.append_nil]
  | dangling _ _ hfresh => exact nodup_concat hn hfresh
  | step _ _ hfresh _ _ ih =>
    rw [List.append_cons]
    exact ih (nodup_concat hn hfresh)

/-- There is one run only from a node. -/
lemma unique (h : d.FollowsChain seen i targets x) (h' : d.FollowsChain seen i targets' y) :
    targets = targets' ∧ x = y := by
  induction h generalizing targets' y with
  | step _ _ _ _ _ ih => cases h' <;> grind
  | _ => cases h' <;> grind

/-- A run along references that lead on is a run to the end or around in a circle. -/
lemma of_isUnbroken (h : d.FollowsChain seen i targets x) (hi : d.IsUnbroken i) :
    (∃ j, x = .ok j) ∨ ∃ chain, x = .error (.circular chain) := by
  induction h with
  | arrived => exact .inl ⟨_, rfl⟩
  | circular => exact .inr ⟨_, rfl⟩
  | @notText _ i r _ hr ht | @unwritable _ i r _ hr ht =>
    obtain ⟨l, hl⟩ := hi i .self (by simp [IsReference, hr])
    obtain ⟨r', target, hr', ht', -⟩ := next?_eq_some_iff.1 hl
    obtain rfl := Option.some.inj (hr.symm.trans hr')
    cases ht.symm.trans ht'
  | @dangling _ i r target _ hr ht _ hloc =>
    obtain ⟨l, hl⟩ := hi i .self (by simp [IsReference, hr])
    obtain ⟨r', target', hr', ht', hloc'⟩ := next?_eq_some_iff.1 hl
    obtain rfl := Option.some.inj (hr.symm.trans hr')
    obtain rfl := Option.some.inj (ht.symm.trans ht')
    cases hloc.symm.trans hloc'
  | step hr ht _ hloc _ ih =>
    exact ih fun k hk => hi k (.next (next?_eq_some_iff.2 ⟨_, _, hr, ht, hloc⟩) hk)

end FollowsChain

/-- The targets seen are texts of different nodes, so the loop ends before the fuel does. -/
lemma exists_followsChain {fuel : Nat} (hn : seen.Nodup)
    (hs : ∀ s ∈ seen, ∃ i, d.graph.text? i = some s)
    (hf : d.graph.nodes.size < fuel + seen.length) :
    ∃ targets, d.FollowsChain seen i targets (d.followFrom fuel seen i) := by
  induction fuel generalizing seen i with
  | zero =>
    have := length_le_of_texts hn hs
    omega
  | succ fuel ih =>
    rw [followFrom]
    split
    case h_1 hr => exact ⟨[], .arrived hr⟩
    case h_2 r hr =>
      split
      case h_1 ht =>
        cases hw : (d.graph.unfold r).writtenQuoted with
        | ok shown => exact ⟨[], .notText hr ht hw⟩
        | error e => exact ⟨[], .unwritable hr ht hw⟩
      case h_2 target ht =>
        split
        case isTrue hseen =>
          exact ⟨[], .circular hr ht (List.contains_iff_mem.1 hseen)⟩
        case isFalse hseen =>
          have hfresh : target ∉ seen := fun h => hseen (List.contains_iff_mem.2 h)
          cases hloc : d.locate target with
          | error e => exact ⟨[target], .dangling hr ht hfresh hloc⟩
          | ok j =>
            obtain ⟨targets, h⟩ : ∃ targets, d.FollowsChain (seen ++ [target]) j targets
                (d.followFrom fuel (seen ++ [target]) j) := ih (nodup_concat hn hfresh) (by
                intro s hs'
                rcases List.mem_append.1 hs' with hs' | hs'
                · exact hs s hs'
                · exact ⟨r, by rw [ht, List.mem_singleton.1 hs']⟩)
              (by simp only [List.length_append, List.length_cons, List.length_nil]; omega)
            exact ⟨target :: targets, .step hr ht hfresh hloc h⟩

/-- Following ends, from each node of each document, and navigates to no target twice. Where each
reference that is met leads to a node, it returns the first node that is no reference, and it
reports a circle exactly if there is no such node. -/
theorem follow_runs (d : Document) (i : NodeId) :
    (∃ targets, targets.Nodup ∧
      ∀ ts x, d.FollowsChain [] i ts x ↔ ts = targets ∧ x = d.follow i) ∧
    (d.IsUnbroken i →
      (∀ j, d.follow i = .ok j ↔ d.Leads i j) ∧
      ((∃ chain, d.follow i = .error (.circular chain)) ↔ ∀ j, ¬d.Leads i j)) := by
  obtain ⟨targets, h⟩ : ∃ targets, d.FollowsChain [] i targets (d.follow i) :=
    exists_followsChain List.nodup_nil (by simp) (by simp)
  refine ⟨⟨targets, h.nodup List.nodup_nil, fun ts x => ⟨fun h' => h'.unique h, ?_⟩⟩, ?_⟩
  · rintro ⟨rfl, rfl⟩
    exact h
  · refine fun hi => ⟨fun j => follow_eq_ok_iff, ?_, fun hnone => ?_⟩
    · rintro ⟨chain, hchain⟩ j hj
      cases hchain.symm.trans (follow_eq_ok_iff.2 hj)
    · refine (h.of_isUnbroken hi).resolve_left ?_
      rintro ⟨j, hj⟩
      exact hnone j (follow_eq_ok_iff.1 hj)

/-- A document with a chain of references that ends and a circle of references. -/
def linked : Document :=
  ofValue (.ofFields [
    ("first", .ofFields [("$ref", .text "#/second")]),
    ("second", .ofFields [("$ref", .text "#/last")]),
    ("last", .ofFields [("description", .text "no reference")]),
    ("ping", .ofFields [("$ref", .text "#/pong")]),
    ("pong", .ofFields [("$ref", .text "#/ping")])])

/-- The chain is followed to its end, and the circle is found to have none. -/
theorem follow_runs_linked :
    linked.follow 1 = .ok 5 ∧ linked.Leads 1 5 ∧
      linked.follow 7 = .error (.circular ["#/pong", "#/ping", "#/pong"]) ∧
      ∀ j, ¬linked.Leads 7 j := by
  have unbroken (i : NodeId) : linked.IsUnbroken i := .of_nodes (by decide +kernel)
  have hchain : linked.follow 1 = .ok 5 := by decide +kernel
  have hcircle : linked.follow 7 = .error (.circular ["#/pong", "#/ping", "#/pong"]) := by
    decide +kernel
  exact ⟨hchain, (((follow_runs linked 1).2 (unbroken 1)).1 5).1 hchain, hcircle,
    ((follow_runs linked 7).2 (unbroken 7)).2.1 ⟨_, hcircle⟩⟩

end Document

end ApiBridge
