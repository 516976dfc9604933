import ApiBridge.Proofs.TypeScript.Locality
import Mathlib.Data.Set.Card

/-!
# What is reported

The compiler gives up on a schema for which no level is left, and on a reference to a name that is
not registered. Any value is meant at such a place, and the place is reported, once and in order.
The exception are references that end in a slash: they lead to no name, and nothing is said of them.
-/

namespace ApiBridge

open TypeExpr (Position Branch)

/-! ### Notices of a computation -/

namespace Attempt

variable {ε ε' β γ : Type}

@[simp] lemma notices_pure (b : β) : (pure b : Attempt ε β).run.notices = [] := rfl

@[simp] lemma notices_note (n : Notice) : (note n : Attempt ε Unit).run.notices = [n] := rfl

@[simp] lemma notices_note_bind (n : Notice) (x : Attempt ε β) :
    (note n >>= fun _ => x).run.notices = n :: x.run.notices :=
  notices_bind_of_ok rfl

@[simp] lemma notices_map (f : β → γ) (x : Attempt ε β) :
    (f <$> x).run.notices = x.run.notices := by
  rw [← bind_pure_comp]
  cases hx : outcome x with
  | ok b => rw [notices_bind_of_ok hx, notices_pure, List.append_nil]
  | error e => exact notices_bind_of_error hx

end Attempt

/-! ### Losses -/

/-- Why the compiler gives up on a schema. -/
inductive Loss
  /-- No level is left for it. -/
  | tooDeep
  /-- It refers to a name that is not registered. -/
  | unknown (target : String)
  deriving DecidableEq, Repr

namespace Loss

/-- A reference is passed over in silence where no name follows its last slash. -/
def isSilent : Loss → Bool
  | .tooDeep => false
  | .unknown target => Name.ofReference target = ""

/-- A notice tells of a loss. -/
inductive IsToldBy (limit : Nat) : Loss → Notice → Prop
  | tooDeep (context : String) : IsToldBy limit .tooDeep (.schemaTooDeep context limit)
  | unknown (target : String) : IsToldBy limit (.unknown target) (.schemaUnknown target)

lemma IsToldBy.level {limit : Nat} {loss : Loss} {n : Notice} (h : IsToldBy limit loss n) :
    n.level = .warning := by
  cases h <;> rfl

end Loss

variable {α : Type} [Layered α] {registry : Registry α} {options : TypeOptions}

/-- A schema without a known type refers to a name that is not registered. -/
structure Schema.IsUnresolved (registry : Registry α) (s : Schema α) (target : String) : Prop where
  untyped : s.IsUntyped
  reference : s.keyword? "$ref" = some (.scalar (.text target))
  unregistered : registry.lookup (Name.ofReference target) = none

lemma Schema.IsUnresolved.lookup_eq_none {s : Schema α} {target other : String}
    (hu : s.IsUnresolved registry target) (h : s.keyword? "$ref" = some (.scalar (.text other))) :
    registry.lookup (Name.ofReference other) = none := by
  obtain rfl : target = other := by simpa [hu.reference] using h
  exact hu.unregistered

lemma Schema.not_holds {s : Schema α} {w : String} (ht : s.declaredType? = some w)
    (hw : w ≠ "array" ∧ w ≠ "object") (b : Branch) (t : Schema α) : ¬s.Holds b t := by
  intro h
  cases h with
  | items ha => exact hw.1 (Option.some.inj (ht.symm.trans ha))
  | property ho => exact hw.2 (Option.some.inj (ht.symm.trans ho))

namespace Site

/-- With so many levels left, the compiler gives up at a place: it comes there when no level is
left, or to an unresolved reference before that. -/
inductive Loses (registry : Registry α) (mode : ReferenceMode) (x : Site α) (levels : Nat) :
    Position → Loss → Prop
  | tooDeep {place : Position} {y : Site α} (hv : x.Visits registry mode levels place y) :
      Loses registry mode x levels place .tooDeep
  | unknown {place : Position} {y : Site α} {depth : Nat} {target : String}
      (hv : x.Visits registry mode depth place y) (hd : depth < levels)
      (hu : y.schema.IsUnresolved registry target) :
      Loses registry mode x levels place (.unknown target)

variable {mode : ReferenceMode} {x y : Site α} {levels : Nat} {place : Position} {loss : Loss}

lemma loses_zero_iff : x.Loses registry mode 0 place loss ↔ place = [] ∧ loss = .tooDeep := by
  constructor
  · intro h
    cases h with
    | tooDeep hv =>
      cases hv
      exact ⟨rfl, rfl⟩
    | unknown _ hd => exact absurd hd (Nat.not_lt_zero _)
  · rintro ⟨rfl, rfl⟩
    exact .tooDeep (.here x)

/-- With one level more, the compiler gives up at an unresolved reference or after its first
step. -/
lemma loses_succ_iff : x.Loses registry mode (levels + 1) place loss ↔
    (place = [] ∧ ∃ target, loss = .unknown target ∧ x.schema.IsUnresolved registry target) ∨
      ∃ first y rest, Step registry mode x first y ∧ y.Loses registry mode levels rest loss ∧
        place = first ++ rest := by
  constructor
  · intro h
    cases h with
    | tooDeep hv =>
      cases hv with
      | step hs hv => exact .inr ⟨_, _, _, hs, .tooDeep hv, rfl⟩
    | unknown hv hd hu =>
      cases hv with
      | here => exact .inl ⟨rfl, _, rfl, hu⟩
      | step hs hv => exact .inr ⟨_, _, _, hs, .unknown hv (Nat.lt_of_succ_lt_succ hd) hu, rfl⟩
  · rintro (⟨rfl, target, rfl, hu⟩ | ⟨first, y, rest, hs, h, rfl⟩)
    · exact .unknown (.here x) (Nat.succ_pos _) hu
    · cases h with
      | tooDeep hv => exact .tooDeep (.step hs hv)
      | unknown hv hd hu => exact .unknown (.step hs hv) (Nat.succ_lt_succ hd) hu

/-! ### Accounts -/

/-- An account of what is lost from a site on: each place once, and a notice for each loss that is
not passed over, in order. -/
structure IsAccount (registry : Registry α) (options : TypeOptions) (x : Site α) (levels : Nat)
    (losses : List (Position × Loss)) (notices : List Notice) : Prop where
  distinct : (losses.map (·.1)).Nodup
  mem_iff : ∀ place loss,
    (place, loss) ∈ losses ↔ x.Loses registry options.referenceMode levels place loss
  told : List.Forall₂ (Loss.IsToldBy options.maxDepth)
    ((losses.map (·.2)).filter (!·.isSilent)) notices

namespace IsAccount

variable {losses : List (Position × Loss)} {notices : List Notice}

/-- At the end of all levels, one place is lost. -/
lemma zero (x : Site α) (context : String) : IsAccount registry options x 0 [([], .tooDeep)]
    [.schemaTooDeep context options.maxDepth] where
  distinct := List.nodup_singleton _
  mem_iff place loss := by rw [loses_zero_iff, List.mem_singleton, Prod.mk.injEq]
  told := .cons (.tooDeep context) .nil

/-- Where the compiler goes no further and meets no unresolved reference, nothing is lost. -/
lemma nil (hs : ∀ first y, ¬Step registry options.referenceMode x first y)
    (hu : ∀ target, ¬x.schema.IsUnresolved registry target) :
    IsAccount registry options x (levels + 1) [] [] where
  distinct := List.nodup_nil
  mem_iff place loss := by
    rw [loses_succ_iff]
    constructor
    · intro h
      cases h
    · rintro (⟨-, target, -, h⟩ | ⟨first, y, rest, h, -⟩)
      · exact absurd h (hu target)
      · exact absurd h (hs first y)
  told := .nil

/-- At an unresolved reference the place itself is lost. -/
lemma unresolved {target : String} (hu : x.schema.IsUnresolved registry target) :
    IsAccount registry options x (levels + 1) [([], .unknown target)]
      (if Name.ofReference target = "" then [] else [.schemaUnknown target]) where
  distinct := List.nodup_singleton _
  mem_iff place loss := by
    rw [loses_succ_iff, List.mem_singleton, Prod.mk.injEq]
    constructor
    · rintro ⟨rfl, rfl⟩
      exact .inl ⟨rfl, target, rfl, hu⟩
    · rintro (⟨rfl, target', rfl, hu'⟩ | ⟨first, y, rest, h, -⟩)
      · obtain rfl : target = target' := by simpa [hu.reference] using hu'.reference
        exact ⟨rfl, rfl⟩
      · cases h with
        | part h =>
          cases h with
          | items ht => exact absurd ht (hu.untyped _ (by decide))
          | property ht => exact absurd ht (hu.untyped _ (by decide))
        | expansion _ h hl =>
          rw [h.eq_ofReference hu.reference, hu.unregistered] at hl
          cases hl
  told := by
    by_cases hn : Name.ofReference target = ""
    · simp [Loss.isSilent, hn]
    · simpa [Loss.isSilent, hn] using Loss.IsToldBy.unknown target

/-- Where the compiler can only go one step, it loses what it loses from there on. -/
lemma step {first : Position}
    (hs : ∀ place z, Step registry options.referenceMode x place z ↔ place = first ∧ z = y)
    (hu : ∀ target, ¬x.schema.IsUnresolved registry target)
    (h : IsAccount registry options y levels losses notices) :
    IsAccount registry options x (levels + 1) (losses.map fun l => (first ++ l.1, l.2))
      notices where
  distinct := by
    have places := h.distinct.map (List.append_right_injective first)
    simpa [Function.comp_def] using places
  mem_iff place loss := by
    rw [loses_succ_iff, List.mem_map]
    constructor
    · rintro ⟨⟨rest, loss⟩, hl, heq⟩
      cases heq
      exact .inr ⟨first, y, rest, (hs first y).2 ⟨rfl, rfl⟩, (h.mem_iff rest loss).1 hl, rfl⟩
    · rintro (⟨-, target, -, ht⟩ | ⟨first', z, rest, hz, hl, rfl⟩)
      · exact absurd ht (hu target)
      · obtain ⟨rfl, rfl⟩ := (hs first' z).1 hz
        exact ⟨(rest, loss), (h.mem_iff rest loss).2 hl, rfl⟩
  told := by simpa [Function.comp_def] using h.told

/-! ### Counting -/

lemma encard_setOf_mem {β : Type} {bs : List β} (h : bs.Nodup) :
    {b | b ∈ bs}.encard = bs.length := by
  classical
  rw [← List.coe_toFinset bs, Set.encard_coe_eq_coe_finsetCard, List.toFinset_card_of_nodup h]

variable (h : IsAccount registry options x levels losses notices)

include h in
lemma encard_lost :
    {place | ∃ loss, x.Loses registry options.referenceMode levels place loss}.encard =
      losses.length := by
  have places : {place | ∃ loss, x.Loses registry options.referenceMode levels place loss} =
      {place | place ∈ losses.map (·.1)} := by
    ext place
    simp only [Set.mem_ofPred_eq, List.mem_map, Prod.exists, exists_and_right, exists_eq_right]
    exact exists_congr fun loss => (h.mem_iff place loss).symm
  rw [places, encard_setOf_mem h.distinct, List.length_map]

include h in
lemma encard_silent :
    {place | ∃ target, x.Loses registry options.referenceMode levels place (.unknown target) ∧
      Name.ofReference target = ""}.encard = (losses.filter (·.2.isSilent)).length := by
  have places : {place | ∃ target, x.Loses registry options.referenceMode levels place
      (.unknown target) ∧ Name.ofReference target = ""} =
        {place | place ∈ (losses.filter (·.2.isSilent)).map (·.1)} := by
    ext place
    simp only [Set.mem_ofPred_eq, List.mem_map, List.mem_filter, Prod.exists]
    constructor
    · rintro ⟨target, hl, hn⟩
      exact ⟨place, _, ⟨(h.mem_iff _ _).2 hl, by simpa [Loss.isSilent] using hn⟩, rfl⟩
    · rintro ⟨_, loss, ⟨hl, hn⟩, rfl⟩
      cases loss with
      | tooDeep => cases hn
      | unknown target => exact ⟨target, (h.mem_iff _ _).1 hl, by simpa [Loss.isSilent] using hn⟩
  rw [places, encard_setOf_mem (h.distinct.sublist (List.filter_sublist.map _)), List.length_map]

include h in
/-- Every loss is told by a notice or passed over. -/
lemma encard_eq :
    {place | ∃ loss, x.Loses registry options.referenceMode levels place loss}.encard =
      notices.length + {place | ∃ target, x.Loses registry options.referenceMode levels place
        (.unknown target) ∧ Name.ofReference target = ""}.encard := by
  have told : notices.length = (losses.filter (!·.2.isSilent)).length := by
    rw [← h.told.length_eq, List.filter_map, List.length_map]
    rfl
  rw [h.encard_lost, h.encard_silent, told, List.length_eq_length_filter_add (·.2.isSilent),
    Nat.cast_add, add_comm]

include h in
lemma mem_notices {place : Position} {target : String} (hn : Name.ofReference target ≠ "")
    (hl : x.Loses registry options.referenceMode levels place (.unknown target)) :
    .schemaUnknown target ∈ notices := by
  have mem : Loss.unknown target ∈ (losses.map (·.2)).filter (!·.isSilent) := by
    rw [List.mem_filter]
    exact ⟨List.mem_map_of_mem ((h.mem_iff place _).2 hl), by simpa [Loss.isSilent] using hn⟩
  obtain ⟨n, hmem, htold⟩ := exists_of_mem_left h.told mem
  cases htold
  exact hmem

end IsAccount

/-! ### Steps -/

variable {s : Schema α} {z : Site α} {opened : List String} {w : String}

lemma step_iff_of_typed (hw : w ∈ Schema.knownTypes) (ht : s.declaredType? = some w) :
    Step registry mode ⟨s, opened⟩ place z ↔
      ∃ b t, s.Holds b t ∧ place = [b] ∧ z = ⟨t, opened⟩ := by
  constructor
  · intro h
    cases h with
    | part h => exact ⟨_, _, h, rfl, rfl⟩
    | expansion _ h => exact absurd ht (h.untyped w hw)
  · rintro ⟨b, t, h, rfl, rfl⟩
    exact .part h

lemma step_iff_of_items {entries : List (Scalar × α)} (ht : s.declaredType? = some "array")
    (hi : s.keyword? "items" = some (.map entries)) :
    Step registry mode ⟨s, opened⟩ place z ↔ place = [.item] ∧ z = ⟨.map entries, opened⟩ := by
  rw [step_iff_of_typed (by decide) ht]
  constructor
  · rintro ⟨b, t, h, rfl, rfl⟩
    cases h with
    | items _ hi' =>
      cases hi.symm.trans hi'
      exact ⟨rfl, rfl⟩
    | property ho => simp [ht] at ho
  · rintro ⟨rfl, rfl⟩
    exact ⟨_, _, .items ht hi, rfl, rfl⟩

lemma step_iff_of_properties {ps : List (Scalar × α)} (ht : s.declaredType? = some "object")
    (hp : s.properties? = some ps) :
    Step registry mode ⟨s, opened⟩ place z ↔
      ∃ index p, ps[index]? = some p ∧ place = [.member index] ∧ z = ⟨layer p.2, opened⟩ := by
  rw [step_iff_of_typed (by decide) ht]
  constructor
  · rintro ⟨b, t, h, rfl, rfl⟩
    cases h with
    | items ha => simp [ht] at ha
    | property _ hp' he =>
      cases hp.symm.trans hp'
      exact ⟨_, _, he, rfl, rfl⟩
  · rintro ⟨index, p, he, rfl, rfl⟩
    exact ⟨_, _, .property ht hp he, rfl, rfl⟩

/-- A schema without a known type is left through its reference only. -/
lemma step_iff_of_isUntyped (ht : s.IsUntyped) :
    Step registry mode ⟨s, opened⟩ place z ↔ ∃ n a, mode = .inline ∧ s.RefersTo n ∧
      registry.lookup n = some a ∧ n ∉ opened ∧ place = [] ∧ z = ⟨layer a, n :: opened⟩ := by
  constructor
  · intro h
    cases h with
    | part h =>
      cases h with
      | items hd => exact absurd hd (ht _ (by decide))
      | property hd => exact absurd hd (ht _ (by decide))
    | expansion hm h hl ho => exact ⟨_, _, hm, h, hl, ho, rfl, rfl⟩
  · rintro ⟨n, a, hm, h, hl, ho, rfl, rfl⟩
    exact .expansion hm h hl ho

/-- A schema whose reference is expanded is left to the schema it refers to, at the same place. -/
lemma step_iff_of_expanded {target : String} {a : α} (hm : mode = .inline) (ht : s.IsUntyped)
    (href : s.keyword? "$ref" = some (.scalar (.text target))) (hn : Name.ofReference target ≠ "")
    (hl : registry.lookup (Name.ofReference target) = some a)
    (ho : Name.ofReference target ∉ opened) :
    Step registry mode ⟨s, opened⟩ place z ↔
      place = [] ∧ z = ⟨layer a, Name.ofReference target :: opened⟩ := by
  rw [step_iff_of_isUntyped ht]
  constructor
  · rintro ⟨n, b, -, hr, hb, -, rfl, rfl⟩
    obtain rfl := hr.eq_ofReference href
    rw [hl, Option.some.injEq] at hb
    exact ⟨rfl, hb ▸ rfl⟩
  · rintro ⟨rfl, rfl⟩
    exact ⟨_, a, hm, ⟨ht, ⟨target, href, rfl⟩, hn⟩, hl, ho, rfl, rfl⟩

end Site

namespace TypeExpr

variable {schema : Schema α} {context : String} {opened : List String} {fuel : Nat} {e : TypeExpr}

/-! ### Records -/

lemma notices_ofProperties_cons {expand : Schema α → String → Compiling} {required : List String}
    {p : Scalar × α} {ps : List (Scalar × α)} {name : String} {type : TypeExpr}
    (hname : p.1.written = .ok name) (htype : (expand (layer p.2) name).outcome = .ok type) :
    (ofProperties expand required (p :: ps)).run.notices =
      (expand (layer p.2) name).run.notices ++ (ofProperties expand required ps).run.notices := by
  have member : (Attempt.ofExcept id p.1.written >>= fun name =>
      expand (layer p.2) name >>= fun type =>
        pure (⟨name, !required.contains name, type⟩ : Property TypeExpr)) =
      (⟨name, !required.contains name, ·⟩) <$> expand (layer p.2) name := by
    rw [hname, Attempt.ofExcept_ok_bind, bind_pure_comp]
  have first : Attempt.outcome ((⟨name, !required.contains name, ·⟩) <$> expand (layer p.2) name) =
      .ok (⟨name, !required.contains name, type⟩ : Property TypeExpr) := by
    rw [Attempt.outcome_map, htype]
    rfl
  rw [ofProperties, Attempt.notices_map, List.mapM_cons]
  simp only [member]
  rw [Attempt.notices_bind_of_ok first, Attempt.notices_map, bind_pure_comp, Attempt.notices_map,
    ofProperties, Attempt.notices_map]

/-- Accounts of the properties of a record, from an index on, make up one of all of them. -/
lemma exists_account_of_properties {expand : Schema α → String → Compiling} {required : List String}
    {ps : List (Scalar × α)} {members : List (Property TypeExpr)}
    (hm : List.Forall₂ (MemberOf expand required) ps members)
    (h : ∀ p ∈ ps, ∀ name e, (expand (layer p.2) name).outcome = .ok e → ∃ losses,
      Site.IsAccount registry options ⟨layer p.2, opened⟩ fuel losses
        (expand (layer p.2) name).run.notices) (start : Nat) :
    ∃ losses : List (Position × Loss), (losses.map (·.1)).Nodup ∧
      (∀ place loss, (place, loss) ∈ losses ↔ ∃ index p rest, ps[index]? = some p ∧
        place = .member (start + index) :: rest ∧
        Site.Loses registry options.referenceMode ⟨layer p.2, opened⟩ fuel rest loss) ∧
      List.Forall₂ (Loss.IsToldBy options.maxDepth) ((losses.map (·.2)).filter (!·.isSilent))
        (ofProperties expand required ps).run.notices := by
  induction hm generalizing start with
  | nil => exact ⟨[], List.nodup_nil, by simp, .nil⟩
  | @cons p m ps members hpm _ ih =>
    obtain ⟨first, hfirst⟩ := h p (by simp) m.name m.type hpm.type
    obtain ⟨others, hdistinct, hmem, htold⟩ := ih (fun q hq => h q (by simp [hq])) (start + 1)
    refine ⟨first.map (fun l => (.member start :: l.1, l.2)) ++ others, ?_,
      fun place loss => ?_, ?_⟩
    · rw [List.map_append, List.nodup_append]
      refine ⟨?_, hdistinct, ?_⟩
      · have places := hfirst.distinct.map (List.cons_injective (a := Branch.member start))
        simpa [Function.comp_def] using places
      · -- The places of the first property begin with its index, all others with a later one.
        rintro _ hp _ hq rfl
        obtain ⟨⟨place, loss⟩, hl, rfl⟩ := List.mem_map.1 hq
        obtain ⟨index, q, rest, -, rfl, -⟩ := (hmem _ _).1 hl
        simp at hp
        omega
    · rw [List.mem_append, List.mem_map, hmem]
      constructor
      · rintro (⟨⟨rest, loss⟩, hl, heq⟩ | ⟨index, q, rest, hq, rfl, hl⟩)
        · cases heq
          exact ⟨0, p, rest, rfl, rfl, (hfirst.mem_iff rest loss).1 hl⟩
        · exact ⟨index + 1, q, rest, hq, by rw [Nat.add_right_comm, Nat.add_assoc], hl⟩
      · rintro ⟨index, q, rest, hq, rfl, hl⟩
        cases index with
        | zero =>
          obtain rfl : p = q := by simpa using hq
          exact .inl ⟨(rest, loss), (hfirst.mem_iff rest loss).2 hl, rfl⟩
        | succ index =>
          exact .inr ⟨index, q, rest, hq, by rw [Nat.add_right_comm, Nat.add_assoc], hl⟩
    · rw [notices_ofProperties_cons hpm.name hpm.type, List.map_append, List.filter_append]
      refine List.rel_append ?_ htold
      simpa [Function.comp_def] using hfirst.told

/-! ### References -/

section Reference

variable {mode : ReferenceMode} {recompile : Schema α → String → List String → Compiling}
  {target : String} {a : α}

lemma notices_ofReference_of_unregistered (hm : mode ≠ .name)
    (hl : registry.lookup (Name.ofReference target) = none) :
    (ofReference registry mode opened recompile target).run.notices =
      if Name.ofReference target = "" then [] else [.schemaUnknown target] := by
  by_cases hn : Name.ofReference target = ""
  · simp [ofReference, hn]
  · cases mode with
    | name => exact absurd rfl hm
    | verify | inline =>
      simp only [ofReference, hn, ↓reduceIte, hl]
      rfl

lemma ofReference_of_expanded (hn : Name.ofReference target ≠ "")
    (hl : registry.lookup (Name.ofReference target) = some a)
    (ho : Name.ofReference target ∉ opened) :
    ofReference registry .inline opened recompile target =
      recompile (layer a) (Name.ofReference target) (Name.ofReference target :: opened) := by
  simp [ofReference, hn, hl, ho]

lemma notices_ofReference_of_registered (hm : mode ≠ .name)
    (hl : registry.lookup (Name.ofReference target) = some a)
    (hx : ¬(mode = .inline ∧ Name.ofReference target ≠ "" ∧ Name.ofReference target ∉ opened)) :
    (ofReference registry mode opened recompile target).run.notices = [] := by
  by_cases hn : Name.ofReference target = ""
  · simp [ofReference, hn]
  · cases mode with
    | name => exact absurd rfl hm
    | verify => simp [ofReference, hn, hl]
    | inline =>
      have ho : Name.ofReference target ∈ opened := by
        by_contra ho
        exact hx ⟨rfl, hn, ho⟩
      simp [ofReference, hn, hl, ho]

end Reference

/-! ### Compiling -/

/-- One level more at a schema without a known type: the reference is unresolved, or it is expanded,
or there is nothing more to compile. -/
lemma exists_account_of_isUntyped (hm : options.referenceMode ≠ .name) (ht : schema.IsUntyped)
    (h : (compileWithin registry options (fuel + 1) schema context opened).outcome = .ok e)
    (ih : ∀ n a, (compileWithin registry options fuel (layer a) n (n :: opened)).outcome = .ok e →
      ∃ losses, Site.IsAccount registry options ⟨layer a, n :: opened⟩ fuel losses
        (compileWithin registry options fuel (layer a) n (n :: opened)).run.notices) :
    ∃ losses, Site.IsAccount registry options ⟨schema, opened⟩ (fuel + 1) losses
      (compileWithin registry options (fuel + 1) schema context opened).run.notices := by
  rw [compileWithin_of_isUntyped ht] at h ⊢
  by_cases href : ∃ target, schema.keyword? "$ref" = some (.scalar (.text target))
  case neg =>
    have hnone (target : String) := not_exists.1 href target
    refine ⟨[], ?_⟩
    split
    case h_1 target hr => exact absurd hr (hnone target)
    case h_2 =>
      refine .nil (fun first y hs => ?_) fun target hu => hnone target hu.reference
      obtain ⟨n, a, -, hn, -⟩ := (Site.step_iff_of_isUntyped ht).1 hs
      obtain ⟨target, hr, -⟩ := hn.reference
      exact hnone target hr
  obtain ⟨target, href⟩ := href
  simp only [href] at h ⊢
  cases hl : registry.lookup (Name.ofReference target) with
  | none =>
    rw [notices_ofReference_of_unregistered hm hl]
    exact ⟨_, .unresolved ⟨ht, href, hl⟩⟩
  | some a =>
    have resolved (t : String) (hu : schema.IsUnresolved registry t) : False := by
      cases (hu.lookup_eq_none href).symm.trans hl
    by_cases hx : options.referenceMode = .inline ∧ Name.ofReference target ≠ "" ∧
        Name.ofReference target ∉ opened
    · obtain ⟨hinline, hn, ho⟩ := hx
      rw [hinline, ofReference_of_expanded hn hl ho] at h ⊢
      obtain ⟨losses, hlosses⟩ := ih _ a h
      exact ⟨_, hlosses.step (fun _ _ => Site.step_iff_of_expanded hinline ht href hn hl ho)
        resolved⟩
    · rw [notices_ofReference_of_registered hm hl hx]
      refine ⟨[], .nil (fun first y hs => ?_) resolved⟩
      obtain ⟨n, b, hinline, hr, -, ho, -⟩ := (Site.step_iff_of_isUntyped ht).1 hs
      obtain rfl := hr.eq_ofReference href
      exact hx ⟨hinline, hr.named, ho⟩

/-- One level more at a schema with properties: there is an account of each of them. -/
lemma exists_account_of_record {ps : List (Scalar × α)} {required : List String}
    {members : List (Property TypeExpr)} (ht : schema.declaredType? = some "object")
    (hp : schema.properties? = some ps) (hr : schema.requiredNames = .ok required)
    (hms : List.Forall₂ (MemberOf
      (fun schema name => compileWithin registry options fuel schema name opened) required)
      ps members)
    (ih : ∀ p ∈ ps, ∀ name e,
      (compileWithin registry options fuel (layer p.2) name opened).outcome = .ok e → ∃ losses,
        Site.IsAccount registry options ⟨layer p.2, opened⟩ fuel losses
          (compileWithin registry options fuel (layer p.2) name opened).run.notices) :
    ∃ losses, Site.IsAccount registry options ⟨schema, opened⟩ (fuel + 1) losses
      (compileWithin registry options (fuel + 1) schema context opened).run.notices := by
  obtain ⟨losses, hdistinct, hmem, htold⟩ := exists_account_of_properties hms ih 0
  have inner : (compileWithin registry options (fuel + 1) schema context opened).run.notices =
      (ofProperties (fun schema name => compileWithin registry options fuel schema name opened)
        required ps).run.notices := by
    simp only [compileWithin, ht, hp, hr, Attempt.ofExcept_ok_bind]
  refine ⟨losses, hdistinct, fun place loss => ?_, inner ▸ htold⟩
  rw [hmem, Site.loses_succ_iff]
  constructor
  · rintro ⟨index, p, rest, hi, rfl, hl⟩
    rw [Nat.zero_add]
    exact .inr ⟨[.member index], _, rest, .part (.property ht hp hi), hl, rfl⟩
  · rintro (⟨-, target, -, hu⟩ | ⟨first, z, rest, hz, hl, rfl⟩)
    · exact absurd ht (hu.untyped _ (by decide))
    · obtain ⟨index, p, hi, rfl, rfl⟩ := (Site.step_iff_of_properties ht hp).1 hz
      exact ⟨index, p, rest, hi, by rw [Nat.zero_add]; rfl, hl⟩

/-- Where names are looked up, the notices of a compilation are those of an account of what is lost:
by induction on the levels left, one case for each kind of schema. -/
lemma exists_account (hm : options.referenceMode ≠ .name)
    (h : (compileWithin registry options fuel schema context opened).outcome = .ok e) :
    ∃ losses, Site.IsAccount registry options ⟨schema, opened⟩ fuel losses
      (compileWithin registry options fuel schema context opened).run.notices := by
  induction fuel generalizing schema context opened e with
  | zero => exact ⟨_, .zero _ context⟩
  | succ fuel ih =>
    by_cases ht : schema.IsUntyped
    · exact exists_account_of_isUntyped hm ht h fun n a h => ih h
    simp only [Schema.IsUntyped, not_forall, not_not] at ht
    obtain ⟨w, hw, ht⟩ := ht
    have resolved (target : String) (hu : schema.IsUnresolved registry target) : False :=
      hu.untyped w hw ht
    have leaf (hh : ∀ b t, ¬schema.Holds b t)
        (hn : (compileWithin registry options (fuel + 1) schema context opened).run.notices = []) :
        ∃ losses, Site.IsAccount registry options ⟨schema, opened⟩ (fuel + 1) losses
          (compileWithin registry options (fuel + 1) schema context opened).run.notices := by
      refine ⟨[], hn ▸ .nil (fun place z hs => ?_) resolved⟩
      obtain ⟨b, t, hb, -⟩ := (Site.step_iff_of_typed hw ht).1 hs
      exact hh b t hb
    cases compileWithin_succ.1 h with
    | nameless hu | named hu | unknown hu | registered hu | expanded hu | any hu =>
      exact absurd ht (hu w hw)
    | literals ht hv =>
      exact leaf (Schema.not_holds ht (by decide)) (by simp [compileWithin, ht, hv])
    | string ht => exact leaf (Schema.not_holds ht (by decide)) (by simp [compileWithin, ht])
    | number ht =>
      rcases ht with ht | ht
      all_goals exact leaf (Schema.not_holds ht (by decide)) (by simp [compileWithin, ht])
    | boolean ht => exact leaf (Schema.not_holds ht (by decide)) (by simp [compileWithin, ht])
    | anySequence ht hi =>
      refine leaf (fun b t hb => ?_) (by simp [compileWithin, ht])
      cases hb with
      | items _ hi' => exact hi _ hi'
      | property ho => simp [ht] at ho
    | mapping ht hp =>
      refine leaf (fun b t hb => ?_) (by simp [compileWithin, ht, hp])
      cases hb with
      | items ha => simp [ht] at ha
      | property _ hp' => simp [hp] at hp'
    | @sequence entries item ht hi hitem =>
      obtain ⟨losses, hlosses⟩ := ih hitem
      have inner : (compileWithin registry options (fuel + 1) schema context opened).run.notices =
          (compileWithin registry options fuel (.map entries) (context ++ "Item")
            opened).run.notices := by
        simp only [compileWithin, ht, hi, Attempt.notices_map]
      exact ⟨_, inner ▸ hlosses.step (fun _ _ => Site.step_iff_of_items ht hi) resolved⟩
    | record ht hp hr hms =>
      exact exists_account_of_record ht hp hr hms fun p _ name e he => ih he

/-! ### Losses and warnings -/

/-- Where the compiler gives up, any value is meant. -/
lemma at?_of_loses (hm : options.referenceMode ≠ .name) {place : Position} {loss : Loss}
    (h : (compileWithin registry options fuel schema context opened).outcome = .ok e)
    (hl : Site.Loses registry options.referenceMode ⟨schema, opened⟩ fuel place loss) :
    e.at? place = some .any := by
  cases hl with
  | tooDeep hv =>
    obtain ⟨context, f, hf, h⟩ := hv.compiled 0 h
    rw [compileWithin_zero] at h
    cases h
    exact hf
  | @unknown y depth target hv hd hu =>
    obtain ⟨fuel, rfl⟩ := Nat.exists_eq_add_of_lt hd
    obtain ⟨context, f, hf, h⟩ := hv.compiled (fuel + 1) h
    cases compileWithin_succ.1 h with
    | nameless | unknown | any => exact hf
    | named _ _ _ hname => exact absurd hname hm
    | registered _ hr _ ha | expanded _ hr _ _ ha => cases (hu.lookup_eq_none hr).symm.trans ha
    | literals ht | string ht | boolean ht | sequence ht | anySequence ht | record ht
    | mapping ht => exact absurd ht (hu.untyped _ (by decide))
    | number ht =>
      rcases ht with ht | ht
      all_goals exact absurd ht (hu.untyped _ (by decide))

/-- Where names are looked up, the warnings of a compilation are as many as the places where the
compiler gives up, but for the references without a name after their last slash: these become any
value without a warning. There is one level more than the limit says: on the last one, schemas are
nested too deep. -/
theorem compile_reports (registry : Registry α) (options : TypeOptions) (schema : Schema α)
    (context : String) (identity : Option String) (hm : options.referenceMode ≠ .name) :
    let compiled := compile registry options schema context identity
    let Lost := (Site.start schema identity).Loses registry options.referenceMode
      (options.maxDepth + 1)
    (schema.IsWritableWithin → (∀ e ∈ registry, Schema.IsWritableWithin (layer e.2)) →
      ∃ e, compiled.outcome = .ok e) ∧
    ∀ e, compiled.outcome = .ok e →
      (∀ place loss, Lost place loss → e.at? place = some .any) ∧
      (∀ n ∈ compiled.run.notices, n.level = .warning) ∧
      (∀ place target, Lost place (.unknown target) → Name.ofReference target ≠ "" →
        .schemaUnknown target ∈ compiled.run.notices) ∧
      {place | ∃ loss, Lost place loss}.encard = compiled.run.notices.length +
        {place | ∃ target, Lost place (.unknown target) ∧ Name.ofReference target = ""}.encard ∧
      ({place | ∃ loss, Lost place loss}.encard = compiled.run.notices.length ↔
        ∀ place target, Lost place (.unknown target) → Name.ofReference target ≠ "") := by
  intro compiled Lost
  refine ⟨fun hs hr => compileWithin_returns hr _ hs _ _, fun e he => ?_⟩
  obtain ⟨losses, account⟩ := exists_account hm he
  have total : {place | ∃ loss, Lost place loss}.encard = compiled.run.notices.length +
      {place | ∃ target, Lost place (.unknown target) ∧ Name.ofReference target = ""}.encard :=
    account.encard_eq
  refine ⟨fun place loss => at?_of_loses hm he, fun n hn => ?_,
    fun place target hl hn => account.mem_notices hn hl, total, ?_⟩
  · obtain ⟨loss, -, hloss⟩ := exists_of_mem_right account.told hn
    exact hloss.level
  · rw [total]
    simp [Set.eq_empty_iff_forall_notMem]

/-- A pet with an owner that is not registered, and a keeper whose name is missing. -/
def boardedPet : Value :=
  .ofFields [("type", .text "object"), ("properties", .ofFields [
    ("owner", .ofFields [("$ref", .text "#/components/schemas/Owner")]),
    ("keeper", .ofFields [("$ref", .text "#/components/schemas/")])])]

/-- Of two references that are lost, one is reported. -/
theorem compile_reports_owner :
    let options : TypeOptions := { referenceMode := .verify }
    let compiled := compile [] options boardedPet.layer "Pet" none
    let Lost := (Site.start boardedPet.layer none).Loses ([] : Registry Value)
      options.referenceMode (options.maxDepth + 1)
    compiled.outcome = .ok (.record [⟨"owner", true, .any⟩, ⟨"keeper", true, .any⟩]) ∧
    compiled.run.notices = [.schemaUnknown "#/components/schemas/Owner"] ∧
    Lost [.member 0] (.unknown "#/components/schemas/Owner") ∧
    Lost [.member 1] (.unknown "#/components/schemas/") ∧
    {place | ∃ loss, Lost place loss}.encard ≠ compiled.run.notices.length := by
  intro options compiled Lost
  have owner : Lost [.member 0] (.unknown "#/components/schemas/Owner") :=
    .unknown (.step (.part (.property rfl rfl rfl)) (.here _)) (by decide) ⟨nofun, rfl, rfl⟩
  have keeper : Lost [.member 1] (.unknown "#/components/schemas/") :=
    .unknown (.step (.part (.property rfl rfl rfl)) (.here _)) (by decide) ⟨nofun, rfl, rfl⟩
  have outcome : compiled.outcome = .ok (.record [⟨"owner", true, .any⟩, ⟨"keeper", true, .any⟩]) :=
    rfl
  obtain ⟨-, reports⟩ := compile_reports [] options boardedPet.layer "Pet" none (by decide)
  obtain ⟨-, -, -, -, all⟩ := reports _ outcome
  exact ⟨outcome, rfl, owner, keeper, fun h => all.1 h _ _ keeper rfl⟩

end TypeExpr

end ApiBridge
