import ApiBridge.Proofs.TypeScript.Expansion
import ApiBridge.Proofs.TypeScript.References

/-!
# The compiler's way down

The compiler goes from a schema to its items, to its properties and, where references are expanded,
to the registered schemas that are referred to. A `Position` is a place in an expression, and a
`Site` is what the compiler works on there: a schema, with the registered schemas that are being
expanded.
-/

namespace ApiBridge

/-! ### Places in an expression -/

namespace TypeExpr

/-- One level down in an expression. -/
inductive Branch
  | item
  | member (index : Nat)
  deriving DecidableEq, Repr

/-- A place in an expression: the levels on the way down to a part. -/
abbrev Position := List Branch

/-- The part of an expression at a place. -/
def at? : TypeExpr → Position → Option TypeExpr
  | e, [] => some e
  | .sequence item, .item :: place => item.at? place
  | .record properties, .member index :: place => properties[index]?.bind fun p => p.type.at? place
  | _, _ :: _ => none

variable {e f : TypeExpr} {place rest : Position} {n : String}

@[simp] lemma at?_nil (e : TypeExpr) : e.at? [] = some e := by
  cases e <;> rfl

@[simp] lemma at?_item (item : TypeExpr) (place : Position) :
    (sequence item).at? (.item :: place) = item.at? place := rfl

@[simp] lemma at?_member (properties : List (Property TypeExpr)) (index : Nat) (place : Position) :
    (record properties).at? (.member index :: place)
      = properties[index]?.bind fun p => p.type.at? place := rfl

@[simp] lemma at?_sequence_member (item : TypeExpr) (index : Nat) (place : Position) :
    (sequence item).at? (.member index :: place) = none := rfl

@[simp] lemma at?_record_item (properties : List (Property TypeExpr)) (place : Position) :
    (record properties).at? (.item :: place) = none := rfl

/-- What has no parts has nothing below. -/
lemma at?_cons_eq_none (hs : ∀ item, e ≠ sequence item) (hr : ∀ properties, e ≠ record properties)
    (b : Branch) (place : Position) : e.at? (b :: place) = none := by
  cases e with
  | sequence item => exact absurd rfl (hs item)
  | record properties => exact absurd rfl (hr properties)
  | _ => cases b <;> rfl

lemma at?_eq_some_of_isLeaf (hl : e.isLeaf = true) : e.at? place = some f ↔ place = [] ∧ f = e := by
  cases place with
  | nil => simp [eq_comm]
  | cons b place =>
    have below : e.at? (b :: place) = none := by
      refine at?_cons_eq_none ?_ ?_ b place <;>
        · rintro _ rfl
          cases hl
    simp [below]

lemma at?_reference_eq_some : (reference n).at? place = some f ↔ place = [] ∧ f = reference n := by
  cases place with
  | nil => simp [eq_comm]
  | cons b place => simp [at?_cons_eq_none]

lemma at?_sequence_cons {item : TypeExpr} {b : Branch} :
    (sequence item).at? (b :: place) = some f ↔ b = .item ∧ item.at? place = some f := by
  cases b with
  | item => simp
  | member index => simp

lemma at?_record_cons {properties : List (Property TypeExpr)} {b : Branch} :
    (record properties).at? (b :: place) = some f ↔
      ∃ index p, b = .member index ∧ properties[index]? = some p ∧ p.type.at? place = some f := by
  cases b with
  | item => simp
  | member index => simp [Option.bind_eq_some_iff]

lemma at?_append (e : TypeExpr) (place rest : Position) :
    e.at? (place ++ rest) = (e.at? place).bind (·.at? rest) := by
  induction place generalizing e with
  | nil => simp
  | cons b place ih =>
    cases e with
    | sequence item =>
      cases b with
      | item => exact ih item
      | member index => rfl
    | record properties =>
      cases b with
      | item => rfl
      | member index =>
        simp only [List.cons_append, at?_member]
        cases properties[index]? with
        | none => rfl
        | some p => exact ih p.type
    | _ => simp [at?_cons_eq_none]

/-- A reference is mentioned where it stands at some place. -/
lemma mentions_iff : e.Mentions n ↔ ∃ place, e.at? place = some (.reference n) := by
  constructor
  · intro h
    induction h with
    | reference => exact ⟨[], rfl⟩
    | item _ ih =>
      obtain ⟨place, hp⟩ := ih
      exact ⟨.item :: place, hp⟩
    | @property properties p hp _ ih =>
      obtain ⟨place, hplace⟩ := ih
      obtain ⟨index, hi⟩ := List.getElem?_of_mem hp
      exact ⟨.member index :: place, at?_record_cons.2 ⟨index, p, rfl, hi, hplace⟩⟩
  · rintro ⟨place, h⟩
    induction place generalizing e with
    | nil =>
      obtain rfl : e = .reference n := by simpa using h
      exact .reference
    | cons b place ih =>
      cases e with
      | sequence item => exact .item (ih (at?_sequence_cons.1 h).2)
      | record properties =>
        obtain ⟨index, p, -, hp, h⟩ := at?_record_cons.1 h
        exact .property (List.mem_of_getElem? hp) (ih h)
      | _ => simp [at?_cons_eq_none] at h

end TypeExpr

open TypeExpr (Position Branch)

variable {α : Type} [Layered α]

/-! ### References of a schema -/

namespace Schema

/-- A schema without a known type refers to a name, registered or not. -/
structure RefersTo (s : Schema α) (n : String) : Prop where
  untyped : s.IsUntyped
  reference : ∃ target, s.keyword? "$ref" = some (.scalar (.text target)) ∧
    Name.ofReference target = n
  named : n ≠ ""

/-- A schema is compiled as a part of another one: as its items or as one of its properties. -/
inductive Holds (s : Schema α) : Branch → Schema α → Prop
  | items {entries : List (Scalar × α)} (ht : s.declaredType? = some "array")
      (hi : s.keyword? "items" = some (.map entries)) : Holds s .item (.map entries)
  | property {properties : List (Scalar × α)} {index : Nat} {e : Scalar × α}
      (ht : s.declaredType? = some "object") (hp : s.properties? = some properties)
      (he : properties[index]? = some e) : Holds s (.member index) (layer e.2)

/-- References lead from a schema to a name: from the schema itself, from a part that is compiled,
or through the registered schemas that are referred to. -/
inductive Reaches (registry : Registry α) : Schema α → String → Prop
  | reference {s : Schema α} {n : String} (h : s.RefersTo n) : Reaches registry s n
  | part {s t : Schema α} {b : Branch} {n : String} (h : s.Holds b t) (ht : Reaches registry t n) :
      Reaches registry s n
  | entry {s : Schema α} {m n : String} {a : α} (h : s.RefersTo m)
      (hl : registry.lookup m = some a) (ha : Reaches registry (layer a) n) : Reaches registry s n

end Schema

/-! ### Sites -/

/-- Where the compiler is: at a schema, with some registered schemas being expanded. -/
structure Site (α : Type) where
  schema : Schema α
  opened : List String

namespace Site

/-- The compiler goes from one site to another. Expanding a reference leads no level down in the
expression. -/
inductive Step (registry : Registry α) (mode : ReferenceMode) :
    Site α → Position → Site α → Prop
  | part {s t : Schema α} {b : Branch} {opened : List String} (h : s.Holds b t) :
      Step registry mode ⟨s, opened⟩ [b] ⟨t, opened⟩
  | expansion {s : Schema α} {n : String} {a : α} {opened : List String} (hm : mode = .inline)
      (h : s.RefersTo n) (hl : registry.lookup n = some a) (ho : n ∉ opened) :
      Step registry mode ⟨s, opened⟩ [] ⟨layer a, n :: opened⟩

/-- The compiler comes from one site to another in so many steps. -/
inductive Visits (registry : Registry α) (mode : ReferenceMode) :
    Site α → Nat → Position → Site α → Prop
  | here (x : Site α) : Visits registry mode x 0 [] x
  | step {x y z : Site α} {place rest : Position} {depth : Nat} (h : Step registry mode x place y)
      (hv : Visits registry mode y depth rest z) :
      Visits registry mode x (depth + 1) (place ++ rest) z

/-- Where compiling a schema begins, which is registered under a name or not. -/
def start (schema : Schema α) (identity : Option String) : Site α :=
  ⟨schema, identity.toList.filter (· ≠ "")⟩

variable {registry : Registry α} {options : TypeOptions} {x y : Site α} {place : Position}
  {context : String} {e : TypeExpr}

/-- With one level less, the next site is compiled to what stands at its place. -/
lemma Step.compiled (hs : Step registry options.referenceMode x place y) {fuel : Nat}
    (h : (TypeExpr.compileWithin registry options (fuel + 1) x.schema context x.opened).outcome
      = .ok e) :
    ∃ context f, e.at? place = some f ∧
      (TypeExpr.compileWithin registry options fuel y.schema context y.opened).outcome = .ok f := by
  cases hs with
  | part hs =>
    cases hs with
    | items ht hi =>
      simp only [TypeExpr.compileWithin, ht, hi] at h
      obtain ⟨item, hitem, rfl⟩ := map_eq_ok_iff.1 (by simpa using h)
      exact ⟨_, item, TypeExpr.at?_nil item, hitem⟩
    | property ht hp he =>
      simp only [TypeExpr.compileWithin, ht, hp, Attempt.outcome_bind, Attempt.outcome_ofExcept,
        bind_eq_ok_iff, mapError_eq_ok_iff, TypeExpr.ofProperties_eq_ok] at h
      obtain ⟨required, -, members, rfl, hm⟩ := h
      obtain ⟨m, hi, hpm⟩ := exists_getElem?_left hm.flip he
      exact ⟨_, m.type, TypeExpr.at?_record_cons.2 ⟨_, m, rfl, hi, TypeExpr.at?_nil _⟩, hpm.type⟩
  | expansion hm hr hl ho =>
    obtain ⟨target, href, rfl⟩ := hr.reference
    rw [TypeExpr.compileWithin_of_isUntyped hr.untyped, href] at h
    refine ⟨Name.ofReference target, e, TypeExpr.at?_nil e, ?_⟩
    simpa [TypeExpr.ofReference, hr.named, hm, hl, ho] using h

/-- With as many levels more as it takes to come to a site, the site is compiled to what stands at
its place. -/
lemma Visits.compiled {depth : Nat} (hv : x.Visits registry options.referenceMode depth place y)
    (fuel : Nat)
    (h : (TypeExpr.compileWithin registry options (depth + fuel) x.schema context x.opened).outcome
      = .ok e) :
    ∃ context f, e.at? place = some f ∧
      (TypeExpr.compileWithin registry options fuel y.schema context y.opened).outcome = .ok f := by
  induction hv generalizing context e with
  | here x => exact ⟨context, e, TypeExpr.at?_nil e, by rwa [Nat.zero_add] at h⟩
  | step hs _ ih =>
    rw [Nat.add_right_comm] at h
    obtain ⟨context, f, hf, h⟩ := hs.compiled h
    obtain ⟨context, g, hg, h⟩ := ih h
    exact ⟨context, g, by rw [TypeExpr.at?_append, hf, Option.bind_some, hg], h⟩

end Site

end ApiBridge
