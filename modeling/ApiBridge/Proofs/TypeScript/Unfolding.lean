import ApiBridge.Proofs.Outcome
import ApiBridge.Proofs.Walk
import ApiBridge.TypeScript.Declaration

/-!
# Types with their references followed

Declarations give names to types, and a type refers to others by name. `TypeExpr.head` follows a
reference until something else is met; a reference that leads nowhere, or on and on, stands for any
value. `TypeExpr.tree` follows all references of a type down to some depth.
-/

namespace ApiBridge

/-- A type without references, down to some depth. -/
inductive TypeTree
  /-- Deeper than is looked at. -/
  | cut
  /-- A type without parts. -/
  | leaf (e : TypeExpr)
  | sequence (item : TypeTree)
  | record (members : List (Property TypeTree))
  deriving Repr, Inhabited

namespace TypeExpr

/-- The name that an expression merely refers to. -/
def reference? : TypeExpr → Option String
  | .reference n => some n
  | _ => none

lemma reference?_eq_some {e : TypeExpr} {n : String} (h : e.reference? = some n) :
    e = .reference n := by
  cases e with
  | reference m => simpa [reference?] using h
  | _ => simp [reference?] at h

/-! ### Heads -/

/-- Follow at most `fuel` references. -/
def chase (types : List (String × TypeExpr)) : Nat → TypeExpr → TypeExpr
  | 0, .reference _ => .any
  | fuel + 1, .reference n => (types.lookup n).elim .any (chase types fuel)
  | _, e => e

/-- What is met behind all references. There are no more of them on the way than names are declared,
unless the way is endless. -/
def head (types : List (String × TypeExpr)) (e : TypeExpr) : TypeExpr :=
  chase types types.length e

/-- From an expression on, references lead to one that is none. -/
inductive Leads (types : List (String × TypeExpr)) : TypeExpr → TypeExpr → Prop
  | self {e : TypeExpr} (h : e.reference? = none) : Leads types e e
  | reference {n : String} {e e' : TypeExpr} (hn : types.lookup n = some e) (h : Leads types e e') :
      Leads types (.reference n) e'

variable {types : List (String × TypeExpr)} {e e' : TypeExpr}

lemma chase_self (h : e.reference? = none) (fuel : Nat) : chase types fuel e = e := by
  cases e with
  | reference n => simp [reference?] at h
  | _ => cases fuel <;> rfl

/-- The names on the way are those of a walk, and as many levels are enough. -/
lemma Leads.exists_walk {n : String} (h : Leads types (.reference n) e') :
    ∃ way, Walk (fun n => (types.lookup n).bind reference?) n way ∧ way ⊆ types.map (·.1) ∧
      ∀ fuel, way.length ≤ fuel → chase types fuel (.reference n) = e' := by
  generalize he : TypeExpr.reference n = e at h
  induction h generalizing n with
  | self h => simp [← he, reference?] at h
  | @reference m e e' hn h ih =>
    obtain rfl : n = m := by simpa using he
    have declared : n ∈ types.map (·.1) := List.mem_map_of_mem (mem_of_lookup hn)
    cases hr : e.reference? with
    | none =>
      have hself : e' = e := by
        cases h with
        | self => rfl
        | reference => simp [reference?] at hr
      refine ⟨[n], .stop (by simp [hn, hr]), by simpa using declared, fun fuel hf => ?_⟩
      obtain ⟨fuel, rfl⟩ := Nat.exists_eq_add_of_le' hf
      simp [chase, hn, hself, chase_self hr]
    | some k =>
      obtain rfl := reference?_eq_some hr
      obtain ⟨way, hw, hd, hc⟩ := ih rfl
      refine ⟨n :: way, .step (by simp [hn, reference?]) hw, List.cons_subset.2 ⟨declared, hd⟩,
        fun fuel hf => ?_⟩
      cases fuel with
      | zero => simp at hf
      | succ fuel => simp [chase, hn, hc fuel (Nat.le_of_succ_le_succ hf)]

lemma chase_of_leads (h : Leads types e e') {fuel : Nat} (hf : types.length ≤ fuel) :
    chase types fuel e = e' := by
  cases h with
  | self h => exact chase_self h fuel
  | reference hn h =>
    obtain ⟨way, hw, hd, hc⟩ := (Leads.reference hn h).exists_walk
    have := hw.length_le hd
    exact hc fuel (Nat.le_trans (by simpa using this) hf)

lemma chase_of_not_leads (h : ∀ e', ¬Leads types e e') (fuel : Nat) :
    chase types fuel e = .any := by
  induction fuel generalizing e with
  | zero =>
    cases e with
    | reference n => rfl
    | _ => exact absurd (.self rfl) (h _)
  | succ fuel ih =>
    cases e with
    | reference n =>
      rw [chase]
      cases hn : types.lookup n with
      | none => rfl
      | some e => exact ih fun e' he => h e' (.reference hn he)
    | _ => exact absurd (.self rfl) (h _)

@[simp] lemma head_self (h : e.reference? = none) : head types e = e :=
  chase_self h _

/-- A reference has the head of what is declared under its name. -/
lemma head_reference (n : String) :
    head types (.reference n) = (types.lookup n).elim .any (head types) := by
  cases hn : types.lookup n with
  | none =>
    refine chase_of_not_leads (fun e' h => ?_) _
    cases h with
    | self h => simp [reference?] at h
    | reference h => simp [hn] at h
  | some e =>
    change head types (.reference n) = head types e
    by_cases h : ∃ e', Leads types e e'
    · obtain ⟨e', h⟩ := h
      calc head types (.reference n)
        _ = e' := chase_of_leads (.reference hn h) (Nat.le_refl _)
        _ = head types e := (chase_of_leads h (Nat.le_refl _)).symm
    · have endless : ∀ e', ¬Leads types (.reference n) e' := by
        intro e' hn'
        cases hn' with
        | self h => simp [reference?] at h
        | reference hn' he =>
          rw [hn, Option.some.injEq] at hn'
          exact h ⟨e', hn' ▸ he⟩
      calc head types (.reference n)
        _ = .any := chase_of_not_leads endless _
        _ = head types e := (chase_of_not_leads (not_exists.1 h) _).symm

/-! ### Trees -/

/-- The tree of an expression, `depth` levels of it. -/
def tree (types : List (String × TypeExpr)) : Nat → TypeExpr → TypeTree
  | 0, _ => .cut
  | depth + 1, e =>
    match head types e with
    | .sequence item => .sequence (tree types depth item)
    | .record properties =>
      .record (properties.map fun p => ⟨p.name, p.optional, tree types depth p.type⟩)
    | e => .leaf e

/-- Has an expression no parts and no name to follow? -/
def isLeaf : TypeExpr → Bool
  | .sequence _ | .record _ | .reference _ => false
  | _ => true

/-- Two expressions are of one shape, with parts that are related. -/
inductive SameShape (R : TypeExpr → TypeExpr → Prop) : TypeExpr → TypeExpr → Prop
  | leaf {e : TypeExpr} (h : e.isLeaf = true) : SameShape R e e
  | sequence {item item' : TypeExpr} (h : R item item') :
      SameShape R (.sequence item) (.sequence item')
  | record {properties properties' : List (Property TypeExpr)}
      (h : List.Forall₂ (fun p p' => p.name = p'.name ∧ p.optional = p'.optional ∧
        R p.type p'.type) properties properties') :
      SameShape R (.record properties) (.record properties')

/-- Expressions with heads of one shape have one tree, if their parts have. -/
lemma tree_eq_of_sameShape {types' : List (String × TypeExpr)} {R : TypeExpr → TypeExpr → Prop}
    {depth : Nat} (h : SameShape R (head types e) (head types' e'))
    (hR : ∀ e e', R e e' → tree types depth e = tree types' depth e') :
    tree types (depth + 1) e = tree types' (depth + 1) e' := by
  rw [tree, tree]
  generalize head types e = a at h
  generalize head types' e' = b at h
  cases h with
  | leaf h => cases a <;> simp [isLeaf] at h ⊢
  | sequence h => exact congrArg TypeTree.sequence (hR _ _ h)
  | record h =>
    refine congrArg TypeTree.record ?_
    induction h with
    | nil => rfl
    | cons hp _ ih =>
      obtain ⟨name, optional, type⟩ := hp
      rw [List.map_cons, List.map_cons, ih, name, optional, hR _ _ type]

end TypeExpr

end ApiBridge
