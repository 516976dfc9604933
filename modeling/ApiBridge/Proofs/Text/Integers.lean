import ApiBridge.Proofs.Outcome
import ApiBridge.Text.Integer
import Mathlib.Data.List.Induction
import Mathlib.Data.List.TakeWhile
import Mathlib.Data.Nat.Digits.Lemmas
import Mathlib.Tactic.Ring

/-!
# Texts of integers

An integer is read from exactly those texts that spell it: padding, a sign or none, digits of any
row with single underscores between them, and padding again. The digits that a number is written
with are one of its spellings.
-/

namespace ApiBridge.Text

/-! ### Spellings -/

/-- Groups of decimal digits, of any row and not too many, spell a number. -/
inductive SpellsNatural : List Char → Nat → Prop
  | groups {gs : List (List Char)} {ds : List Nat} (hne : gs ≠ []) (hgs : ∀ g ∈ gs, g ≠ [])
      (hds : List.Forall₂ (fun c d => digitValue? c = some d) gs.flatten ds)
      (hlen : ds.length ≤ decimalDigitLimit) :
      SpellsNatural (['_'].intercalate gs) (Nat.ofDigits 10 ds.reverse)

/-- A number with a sign, or without one, spells an integer. -/
inductive SpellsSigned : List Char → Int → Prop
  | plain {cs : List Char} {n : Nat} (h : SpellsNatural cs n) : SpellsSigned cs n
  | plus {cs : List Char} {n : Nat} (h : SpellsNatural cs n) : SpellsSigned ('+' :: cs) n
  | minus {cs : List Char} {n : Nat} (h : SpellsNatural cs n) : SpellsSigned ('-' :: cs) (-n)

/-- A number with a sign or without one, and padding around it, spells an integer. -/
inductive Spells : List Char → Int → Prop
  | padded {front body back : List Char} {z : Int} (hfront : ∀ c ∈ front, isPadding c = true)
      (hback : ∀ c ∈ back, isPadding c = true) (h : SpellsSigned body z) :
      Spells (front ++ body ++ back) z

/-! ### Digits -/

variable {c : Char} {cs : List Char} {d n : Nat} {z : Int}

lemma exists_of_digitValue? (h : digitValue? c = some d) :
    ∃ start ∈ digitZeros, start ≤ c.toNat ∧ c.toNat < start + 10 ∧ d = c.toNat - start := by
  obtain ⟨start, hfind, rfl⟩ := Option.map_eq_some_iff.1 h
  have hrange := List.find?_some hfind
  simp only [Bool.and_eq_true, decide_eq_true_eq] at hrange
  exact ⟨start, List.mem_of_find?_eq_some hfind, hrange.1, hrange.2, rfl⟩

lemma digitValue?_lt (h : digitValue? c = some d) : d < 10 := by
  obtain ⟨start, -, hle, hlt, rfl⟩ := exists_of_digitValue? h
  omega

/-- The digits of ASCII are decimal digits. -/
lemma digitValue?_of_isDigit (h : c.isDigit = true) : digitValue? c = some (c.toNat - 48) := by
  have hrange : 48 ≤ c.toNat ∧ c.toNat ≤ 57 := Char.isDigit_iff_toNat.1 h
  have hfirst : (decide (48 ≤ c.toNat) && decide (c.toNat < 48 + 10)) = true := by
    simp only [Bool.and_eq_true, decide_eq_true_eq]
    omega
  simp only [digitValue?, digitZeros, List.find?_cons, hfirst, Option.map_some]

/-- No decimal digit is padding. -/
lemma isPadding_of_digitValue? (h : digitValue? c = some d) : isPadding c = false := by
  obtain ⟨start, hmem, hle, hlt, -⟩ := exists_of_digitValue? h
  have apart : ∀ start ∈ digitZeros, ∀ r ∈ blanks, r.last < start ∨ start + 10 ≤ r.first := by
    decide
  have blank : isBlank c = false := by
    refine List.any_eq_false.2 fun r hr => ?_
    simp only [Bool.and_eq_true, decide_eq_true_eq]
    have := apart start hmem r hr
    omega
  rw [isPadding, blank, Bool.false_and]

lemma underscore_not_mem (h : ∀ c ∈ cs, ∃ d, digitValue? c = some d) : '_' ∉ cs := by
  intro hmem
  obtain ⟨d, hd⟩ := h _ hmem
  have none : digitValue? '_' = none := by decide
  rw [none] at hd
  cases hd

/-- Of digits and letters only decimal digits are digits of the base ten. -/
lemma digitOrLetter?_lt_ten : (digitOrLetter? c = some d ∧ d < 10) ↔ digitValue? c = some d := by
  unfold digitOrLetter?
  cases hd : digitValue? c with
  | some e =>
    simp only [Option.some.injEq, and_iff_left_iff_imp]
    rintro rfl
    exact digitValue?_lt hd
  | none =>
    simp only [reduceCtorEq, iff_false, not_and, Option.ite_none_right_eq_some, Bool.and_eq_true,
      decide_eq_true_eq, Option.some.injEq]
    rintro ⟨⟨ha, -⟩, rfl⟩
    have ha : 97 ≤ c.toLower.toNat := ha
    omega

/-- One more digit is read. -/
lemma readDigit_eq_some_iff {m : Nat} :
    ((digitOrLetter? c).bind fun d => if d < 10 then some (m * 10 + d) else none) = some n ↔
      ∃ d, digitValue? c = some d ∧ n = m * 10 + d := by
  rw [Option.bind_eq_some_iff]
  refine exists_congr fun d => ?_
  rw [← digitOrLetter?_lt_ten, and_assoc, Option.ite_none_right_eq_some, Option.some.injEq,
    eq_comm (a := n)]

/-- Digits are read as the number that they stand for, behind the number read so far. -/
lemma foldlM_eq_some_iff (m : Nat) : cs.foldlM (fun n c =>
      (digitOrLetter? c).bind fun d => if d < 10 then some (n * 10 + d) else none) m = some n ↔
    ∃ ds, List.Forall₂ (fun c d => digitValue? c = some d) cs ds ∧
      n = Nat.ofDigits 10 ds.reverse + 10 ^ ds.length * m := by
  induction cs generalizing m with
  | nil => simp [eq_comm]
  | cons c cs ih =>
    have value (d : Nat) (ds : List Nat) :
        Nat.ofDigits 10 (d :: ds).reverse + 10 ^ (d :: ds).length * m =
          Nat.ofDigits 10 ds.reverse + 10 ^ ds.length * (m * 10 + d) := by
      rw [List.reverse_cons, Nat.ofDigits_append, Nat.ofDigits_singleton, List.length_reverse,
        List.length_cons]
      ring
    simp only [List.foldlM_cons, Option.bind_eq_bind, Option.bind_eq_some_iff (b := n),
      readDigit_eq_some_iff, ih]
    constructor
    · rintro ⟨_, ⟨d, hd, rfl⟩, ds, hds, rfl⟩
      exact ⟨d :: ds, .cons hd hds, (value d ds).symm⟩
    · rintro ⟨_, hds, rfl⟩
      cases hds with
      | @cons _ d _ ds hd hds => exact ⟨_, ⟨d, hd, rfl⟩, ds, hds, value d ds⟩

lemma readDigits?_eq_some_iff : readDigits? 10 cs = some n ↔
    ∃ ds, List.Forall₂ (fun c d => digitValue? c = some d) cs ds ∧
      n = Nat.ofDigits 10 ds.reverse := by
  have h := @foldlM_eq_some_iff cs n 0
  simp only [Nat.mul_zero, Nat.add_zero] at h
  exact h

/-! ### Natural numbers -/

/-- A spelled number consists of digits and underscores. -/
lemma SpellsNatural.mem_cases (h : SpellsNatural cs n) (hc : c ∈ cs) :
    c = '_' ∨ ∃ d, digitValue? c = some d := by
  obtain @⟨gs, ds, -, -, hds, -⟩ := h
  by_contra hn
  rw [not_or] at hn
  refine absurd hc (not_mem_intercalate (by simpa using hn.1) fun g hg hcg => hn.2 ?_)
  obtain ⟨d, -, hd⟩ := exists_of_mem_left hds (List.mem_flatten.2 ⟨g, hg, hcg⟩)
  exact ⟨d, hd⟩

lemma dropBaseMark_ten (cs : List Char) : dropBaseMark 10 cs = cs := by
  unfold dropBaseMark
  split
  case h_1 => rw [if_neg (by simp [baseMark?])]
  case h_2 => rfl

/-- A natural number is read from the texts that spell it. -/
lemma readNatural?_eq_some_iff : readNatural? 10 cs = some n ↔ SpellsNatural cs n := by
  simp only [readNatural?, dropBaseMark_ten, decide_true, Bool.true_and,
    Option.ite_none_left_eq_some, readDigits?_eq_some_iff, List.any_eq_true, decide_eq_true_eq,
    List.isEmpty_iff]
  constructor
  · rintro ⟨hgroups, hlen, ds, hds, rfl⟩
    have hjoin : ['_'].intercalate (cs.splitOn '_') = cs := List.intercalate_splitOn '_'
    rw [← hjoin]
    refine .groups (List.splitOn_ne_nil _ _) (fun g hg hnil => hgroups ⟨g, hg, hnil⟩) hds ?_
    rw [← hds.length_eq]
    exact Nat.not_lt.1 hlen
  · rintro @⟨gs, ds, hne, hgs, hds, hlen⟩
    -- The underscores are those between the groups, since they are no digits.
    have hsplit : (['_'].intercalate gs).splitOn '_' = gs := by
      refine List.splitOn_intercalate '_' (fun g hg => underscore_not_mem fun c hc => ?_) hne
      obtain ⟨d, -, hd⟩ := exists_of_mem_left hds (List.mem_flatten.2 ⟨g, hg, hc⟩)
      exact ⟨d, hd⟩
    rw [hsplit]
    refine ⟨?_, ?_, ds, hds, rfl⟩
    · rintro ⟨g, hg, hnil⟩
      exact hgs g hg hnil
    · rw [hds.length_eq]
      exact Nat.not_lt.2 hlen

/-- The characters of a text as digits stand for the number that they are the digits of. -/
lemma ofDigits_map_toNat (cs : List Char) :
    Nat.ofDigits 10 (cs.map fun c => c.toNat - 48).reverse = Nat.ofDigitChars 10 cs 0 := by
  induction cs using List.reverseRecOn with
  | nil => rfl
  | append_singleton cs c ih =>
    rw [Nat.ofDigitChars_eq_foldl] at ih ⊢
    rw [List.map_append, List.map_singleton, List.reverse_concat, Nat.ofDigits_cons, ih,
      List.foldl_concat, Nat.add_comm]
    rfl

lemma digitValue?_of_mem_toDigits (hc : c ∈ Nat.toDigits 10 n) :
    digitValue? c = some (c.toNat - 48) :=
  digitValue?_of_isDigit (Nat.isDigit_of_mem_toDigits (by decide) (by decide) hc)

/-- The digits that a number is written with spell it, if they are not too many. -/
lemma spellsNatural_toDigits (hn : n < 10 ^ decimalDigitLimit) :
    SpellsNatural (Nat.toDigits 10 n) n := by
  have digits : List.Forall₂ (fun c d => digitValue? c = some d) [Nat.toDigits 10 n].flatten
      ((Nat.toDigits 10 n).map fun c => c.toNat - 48) := by
    rw [List.flatten_singleton]
    exact List.forall₂_map_right_iff.2 (List.forall₂_same.2 fun _ => digitValue?_of_mem_toDigits)
  have length : ((Nat.toDigits 10 n).map fun c => c.toNat - 48).length ≤ decimalDigitLimit := by
    rw [List.length_map]
    exact (Nat.length_toDigits_le_iff (by decide) (by decide)).2 hn
  have hspells := SpellsNatural.groups (by simp) (by simp [Nat.toDigits_ne_nil]) digits length
  rwa [List.intercalate_singleton, ofDigits_map_toNat, Nat.ofDigitChars_ten_toDigits] at hspells

/-- The digits that a number is written with spell no other number. -/
lemma SpellsNatural.eq_of_toDigits {m : Nat} (h : SpellsNatural (Nat.toDigits 10 n) m) :
    m = n := by
  have digit : ∀ c ∈ Nat.toDigits 10 n, digitValue? c = some (c.toNat - 48) := fun _ =>
    digitValue?_of_mem_toDigits
  have value : Nat.ofDigitChars 10 (Nat.toDigits 10 n) 0 = n := Nat.ofDigitChars_ten_toDigits
  generalize Nat.toDigits 10 n = cs at digit h value
  have single : cs.splitOn '_' = [cs] := by
    have hmem : '_' ∉ cs := underscore_not_mem fun c hc => ⟨_, digit c hc⟩
    have hsplit : (['_'].intercalate [cs]).splitOn '_' = [cs] :=
      List.splitOn_intercalate '_' (by simpa using hmem) (by simp)
    rwa [List.intercalate_singleton] at hsplit
  have hread := readNatural?_eq_some_iff.2 h
  simp only [readNatural?, dropBaseMark_ten, Option.ite_none_left_eq_some, single,
    List.flatten_singleton, readDigits?_eq_some_iff] at hread
  obtain ⟨-, -, ds, hds, rfl⟩ := hread
  have hmap : ds = cs.map fun c => c.toNat - 48 := by
    clear single h value
    induction hds with
    | nil => rfl
    | cons hd _ ih =>
      rw [List.forall_mem_cons] at digit
      rw [List.map_cons, ← ih digit.2, Option.some.inj (hd.symm.trans digit.1)]
  rw [hmap, ofDigits_map_toNat, value]

/-! ### Integers -/

/-- Nothing in what spells an integer is padding. -/
lemma SpellsSigned.isPadding (h : SpellsSigned cs z) (hc : c ∈ cs) : isPadding c = false := by
  have natural {cs : List Char} {n : Nat} (h : SpellsNatural cs n) (hc : c ∈ cs) :
      Text.isPadding c = false := by
    rcases h.mem_cases hc with rfl | ⟨d, hd⟩
    · decide
    · exact isPadding_of_digitValue? hd
  cases h with
  | plain h => exact natural h hc
  | plus h | minus h =>
    rcases List.mem_cons.1 hc with rfl | hc
    · decide
    · exact natural h hc

/-- A text that starts with no digit spells no number. -/
lemma not_spellsNatural_cons (hc : c ≠ '_') (hd : digitValue? c = none) :
    ¬SpellsNatural (c :: cs) n := by
  intro h
  rcases h.mem_cases List.mem_cons_self with h | ⟨d, hd'⟩
  · exact hc h
  · simp [hd] at hd'

/-- Without its padding, a text is read as an integer if it spells one. -/
lemma readInteger?_eq_some_iff_spellsSigned :
    readInteger? 10 cs = some z ↔ SpellsSigned (trimPadding cs) z := by
  unfold readInteger?
  generalize trimPadding cs = body
  split
  all_goals simp only [Option.map_eq_some_iff, Option.bind_eq_bind, Option.bind_eq_some_iff,
    Option.pure_def, Option.some.injEq, readNatural?_eq_some_iff]
  case h_1 body =>
    constructor
    · rintro ⟨_, ⟨n, hn, rfl⟩, rfl⟩
      exact .minus hn
    · intro h
      cases h with
      | plain h => exact absurd h (not_spellsNatural_cons (by decide) (by decide))
      | minus h => exact ⟨_, ⟨_, h, rfl⟩, rfl⟩
  case h_2 body =>
    constructor
    · rintro ⟨_, ⟨n, hn, rfl⟩, rfl⟩
      exact .plus hn
    · intro h
      cases h with
      | plain h => exact absurd h (not_spellsNatural_cons (by decide) (by decide))
      | plus h => exact ⟨_, ⟨_, h, rfl⟩, rfl⟩
  case h_3 hminus hplus =>
    constructor
    · rintro ⟨_, ⟨n, hn, rfl⟩, rfl⟩
      exact .plain hn
    · intro h
      cases h with
      | plain h => exact ⟨_, ⟨_, h, rfl⟩, rfl⟩
      | minus => exact absurd rfl (hminus _)
      | plus => exact absurd rfl (hplus _)

/-! ### Padding -/

/-- Padding is what is trimmed. -/
lemma exists_trimPadding (cs : List Char) : ∃ front back, cs = front ++ trimPadding cs ++ back ∧
    (∀ c ∈ front, isPadding c = true) ∧ ∀ c ∈ back, isPadding c = true := by
  refine ⟨cs.takeWhile isPadding,
    ((cs.dropWhile isPadding).reverse.takeWhile isPadding).reverse, ?_, ?_, ?_⟩
  · rw [trimPadding, List.append_assoc, ← List.reverse_append, List.takeWhile_append_dropWhile,
      List.reverse_reverse, List.takeWhile_append_dropWhile]
  · exact fun c hc => List.mem_takeWhile_imp hc
  · exact fun c hc => List.mem_takeWhile_imp (List.mem_reverse.1 hc)

lemma dropWhile_padding {front rest : List Char} (hfront : ∀ c ∈ front, isPadding c = true)
    (hc : isPadding c = false) : (front ++ c :: rest).dropWhile isPadding = c :: rest := by
  rw [List.dropWhile_append_of_pos hfront, List.dropWhile_cons_of_neg (by simp [hc])]

lemma trimPadding_padded {front body back : List Char} (hfront : ∀ c ∈ front, isPadding c = true)
    (hback : ∀ c ∈ back, isPadding c = true) (hbody : ∀ c ∈ body, isPadding c = false) :
    trimPadding (front ++ body ++ back) = body := by
  cases body with
  | nil =>
    have all : ∀ c ∈ front ++ [] ++ back, isPadding c = true := by
      simp only [List.append_nil, List.mem_append]
      exact fun c hc => hc.elim (hfront c) (hback c)
    rw [trimPadding, List.dropWhile_eq_nil_iff.2 all]
    rfl
  | cons c cs =>
    have front : (front ++ c :: cs ++ back).dropWhile isPadding = c :: cs ++ back := by
      rw [List.append_assoc, List.cons_append]
      exact dropWhile_padding hfront (hbody c (by simp))
    obtain ⟨init, last, hlast⟩ := List.eq_nil_or_concat (c :: cs) |>.resolve_left (by simp)
    rw [List.concat_eq_append] at hlast
    rw [trimPadding, front, List.reverse_append, hlast, List.reverse_concat, dropWhile_padding,
      List.reverse_cons, List.reverse_reverse]
    · exact fun c hc => hback c (List.mem_reverse.1 hc)
    · exact hbody last (by simp [hlast])

/-- An integer is read from exactly the texts that spell it. -/
theorem readInteger?_eq_some_iff : readInteger? 10 cs = some z ↔ Spells cs z := by
  rw [readInteger?_eq_some_iff_spellsSigned]
  constructor
  · intro h
    obtain ⟨front, back, hcs, hfront, hback⟩ := exists_trimPadding cs
    rw [hcs]
    exact .padded hfront hback h
  · rintro ⟨hfront, hback, h⟩
    rwa [trimPadding_padded hfront hback fun c => h.isPadding]

/-- The digits that a number is written with spell no other integer. -/
lemma eq_of_spells_toString (h : Spells (toString n).toList z) : z = n := by
  have hdigits : (toString n).toList = Nat.toDigits 10 n := Nat.toList_repr
  have trimmed : trimPadding (Nat.toDigits 10 n) = Nat.toDigits 10 n := by
    have h : trimPadding ([] ++ Nat.toDigits 10 n ++ []) = Nat.toDigits 10 n :=
      trimPadding_padded (by simp) (by simp) fun c hc =>
        isPadding_of_digitValue? (digitValue?_of_mem_toDigits hc)
    rwa [List.nil_append, List.append_nil] at h
  rw [hdigits, ← readInteger?_eq_some_iff, readInteger?_eq_some_iff_spellsSigned, trimmed] at h
  -- A sign is no digit.
  have unsigned {c : Char} (hc : digitValue? c = none) : c ∉ Nat.toDigits 10 n := fun hmem => by
    rw [digitValue?_of_mem_toDigits hmem] at hc
    cases hc
  generalize hcs : Nat.toDigits 10 n = cs at h
  cases h with
  | plain h =>
    subst hcs
    rw [h.eq_of_toDigits]
  | plus | minus => exact absurd (hcs ▸ List.mem_cons_self) (unsigned (by decide))

/-- The digits that a number is written with are one of its spellings. -/
theorem spells_toString (hn : n < 10 ^ decimalDigitLimit) : Spells (toString n).toList n := by
  have hdigits : (toString n).toList = Nat.toDigits 10 n := Nat.toList_repr
  have h : Spells ([] ++ Nat.toDigits 10 n ++ []) n :=
    .padded (by simp) (by simp) (.plain (spellsNatural_toDigits hn))
  rwa [List.nil_append, List.append_nil, ← hdigits] at h

end ApiBridge.Text
