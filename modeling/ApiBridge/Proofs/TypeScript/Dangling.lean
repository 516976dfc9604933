import ApiBridge.Proofs.Occurrences

/-!
# Names that are never declared

The forms that are pending stand on a stack, and the nodes of a form are met from the top to the
bottom and from the first property to the item. So the names that are used and never declared are
reported as a reader meets them first.
-/

namespace ApiBridge

namespace TypeForm

/-! ### The nodes of a form -/

mutual

/-- The nodes of a form: the form itself, the nodes of its properties in order, and those of its
item. -/
def nodes : TypeForm → List TypeForm
  | .node kind name literals none properties =>
    .node kind name literals none properties :: nodesOf properties
  | .node kind name literals (some item) properties =>
    .node kind name literals (some item) properties :: (nodesOf properties ++ item.nodes)

def nodesOf : List (Property TypeForm) → List TypeForm
  | [] => []
  | ⟨_, _, type⟩ :: ps => type.nodes ++ nodesOf ps

end

/-- A form stands in another one, at any nesting. -/
inductive IsNodeOf : TypeForm → TypeForm → Prop
  | self (f : TypeForm) : IsNodeOf f f
  | part {f g h : TypeForm} (hg : g ∈ f.parts) (hh : IsNodeOf h g) : IsNodeOf h f

variable {f g : TypeForm} {n : String}

lemma nodesOf_eq_flatMap (ps : List (Property TypeForm)) :
    nodesOf ps = (ps.map (·.type)).flatMap nodes := by
  induction ps with
  | nil => rfl
  | cons p ps ih =>
    obtain ⟨name, optional, type⟩ := p
    simp only [nodesOf, ih, List.map_cons, List.flatMap_cons]

/-- The nodes of a form are the form and then the nodes of its parts. -/
lemma nodes_eq_cons (f : TypeForm) : f.nodes = f :: f.parts.flatMap nodes := by
  obtain ⟨kind, name, literals, item, properties⟩ := f
  cases item with
  | none => simp [nodes, nodesOf_eq_flatMap, parts, TypeForm.properties, TypeForm.item]
  | some item => simp [nodes, nodesOf_eq_flatMap, parts, TypeForm.properties, TypeForm.item]

lemma mem_flatMap_nodes {fs : List TypeForm} :
    g ∈ fs.flatMap nodes ↔ ∃ f ∈ fs, g.IsNodeOf f := by
  -- The induction is on the stack, with the parts of the first form on top of the others.
  induction fs using pendingReferences.induct with
  | case1 => simp
  | case2 f fs ih =>
    rw [List.flatMap_append, List.mem_append] at ih
    rw [List.flatMap_cons, nodes_eq_cons, List.mem_append, List.mem_cons, or_assoc, ih]
    constructor
    · rintro (rfl | ⟨h, hh, hg⟩)
      · exact ⟨g, List.mem_cons_self, .self g⟩
      · rcases List.mem_append.1 hh with hh | hh
        · exact ⟨f, List.mem_cons_self, .part hh hg⟩
        · exact ⟨h, List.mem_cons_of_mem f hh, hg⟩
    · rintro ⟨h, hh, hg⟩
      rcases List.mem_cons.1 hh with rfl | hh
      · cases hg with
        | self => exact .inl rfl
        | part hp hg => exact .inr ⟨_, List.mem_append_left fs hp, hg⟩
      · exact .inr ⟨h, List.mem_append_right _ hh, hg⟩

lemma mem_nodes : g ∈ f.nodes ↔ g.IsNodeOf f := by
  have stack : g ∈ [f].flatMap nodes ↔ ∃ h ∈ [f], g.IsNodeOf h := mem_flatMap_nodes
  simpa using stack

/-! ### The names that a form refers to -/

/-- A form is a reference to a name. -/
def RefersTo (f : TypeForm) (n : String) : Prop :=
  f.kind = .reference ∧ f.name = some n ∧ n ≠ ""

lemma mem_ownReference : n ∈ f.ownReference ↔ f.RefersTo n := by
  rw [ownReference, RefersTo]
  by_cases hk : f.kind = .reference
  · simp [hk]
  · simp [hk]

/-- The stack of pending forms gives the names in the order of the nodes. -/
lemma pendingReferences_eq_flatMap (fs : List TypeForm) :
    pendingReferences fs = (fs.flatMap nodes).flatMap ownReference := by
  induction fs using pendingReferences.induct with
  | case1 => simp [pendingReferences]
  | case2 f fs ih =>
    rw [pendingReferences, ih, List.flatMap_append, List.flatMap_cons, nodes_eq_cons,
      List.cons_append, List.flatMap_cons]

lemma references_eq_flatMap (f : TypeForm) : f.references = f.nodes.flatMap ownReference := by
  rw [references, pendingReferences_eq_flatMap, List.flatMap_singleton]

end TypeForm

open TypeForm (RefersTo IsNodeOf)

/-- The names that named forms refer to, from the first form to the last and in the order of the
nodes of each. -/
def mentionedNames (ds : List (String × TypeForm)) : List String :=
  ds.flatMap fun d => d.2.nodes.flatMap TypeForm.ownReference

lemma mem_mentionedNames {ds : List (String × TypeForm)} {n : String} :
    n ∈ mentionedNames ds ↔ ∃ d ∈ ds, ∃ f, IsNodeOf f d.2 ∧ RefersTo f n := by
  simp only [mentionedNames, List.mem_flatMap, TypeForm.mem_nodes, TypeForm.mem_ownReference]

lemma danglingReferences_eq_filter (ds : List (String × TypeForm)) :
    danglingReferences ds = (firstOccurrences (mentionedNames ds)).filter
      fun n => !(ds.map (·.1)).contains n := by
  rw [← firstOccurrences_filter, mentionedNames]
  simp only [danglingReferences, TypeForm.references_eq_flatMap]

/-- The report has each name once that a reference at any nesting of any form has and no form is
named by, in the order in which these names are met first. -/
theorem danglingReferences_exact (ds : List (String × TypeForm)) :
    (danglingReferences ds).Nodup ∧
    (∀ n, n ∈ danglingReferences ds ↔
      (∃ d ∈ ds, ∃ f, IsNodeOf f d.2 ∧ RefersTo f n) ∧ ∀ d ∈ ds, d.1 ≠ n) ∧
    (danglingReferences ds).Pairwise fun m n =>
      (mentionedNames ds).idxOf m < (mentionedNames ds).idxOf n := by
  rw [danglingReferences_eq_filter]
  refine ⟨(nodup_firstOccurrences _).filter _, ?_, (pairwise_firstOccurrences _).filter _⟩
  intro n
  rw [List.mem_filter, mem_firstOccurrences, mem_mentionedNames]
  apply and_congr_right
  intro _
  rw [Bool.not_eq_true', ← Bool.not_eq_true, List.contains_iff_mem, List.mem_map]
  simp only [not_exists, not_and, ne_eq]

example :
    let named (n : String) : TypeForm := .node .reference (some n) [] none []
    let list (item : TypeForm) : TypeForm := .node .sequence none [] (some item) []
    danglingReferences [("Zoo", .node .record none [] (some (named "Keeper"))
        [⟨"pets", true, list (named "Pet")⟩, ⟨"places", true, list (named "Place")⟩]),
      ("Pet", .node .record none [] none [⟨"home", true, named "Place"⟩])] =
      ["Place", "Keeper"] := by decide +kernel

end ApiBridge
