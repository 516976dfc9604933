import ApiBridge.Proofs.TypeScript.Literals
import ApiBridge.TypeScript.Name
import Mathlib.Data.List.DropRight

/-!
# Names of types as identifiers

What is left of an operation id is its runs of letters and digits, in order, with one underscore
between two of them. So two ids have the same names where they have the same runs, but for the case
of the first character. The names hold only characters of identifiers, and they start with a word of
their own or with the first letter or digit of the id. They are identifiers exactly where that is no
digit, and the name of a response also takes the key of the response as it stands.
-/

namespace ApiBridge.Name

open Literal (ContinuesIdentifier IsIdentifier StartsIdentifier continuesKey startsKey)

variable {p : Char → Bool} {c : Char} {cs : List Char}

/-! ### Characters -/

lemma isUpper_iff : c.isUpper = true ↔ 65 ≤ c.toNat ∧ c.toNat ≤ 90 := by
  have codes : c.isUpper = decide (65 ≤ c.val ∧ c.val ≤ 90) := rfl
  rw [codes, decide_eq_true_eq, UInt32.le_iff_toNat_le, UInt32.le_iff_toNat_le]
  rfl

lemma isLower_iff : c.isLower = true ↔ 97 ≤ c.toNat ∧ c.toNat ≤ 122 := by
  have codes : c.isLower = (decide (97 ≤ c.val) && decide (c.val ≤ 122)) := rfl
  rw [codes, Bool.and_eq_true, decide_eq_true_eq, decide_eq_true_eq, UInt32.le_iff_toNat_le,
    UInt32.le_iff_toNat_le]
  rfl

lemma isAlpha_iff : c.isAlpha = true ↔ c.isUpper = true ∨ c.isLower = true := by
  have cases : c.isAlpha = (c.isUpper || c.isLower) := rfl
  rw [cases, Bool.or_eq_true]

/-- No blank is a letter or a digit: they have other codes. -/
lemma isAlphanumeric_of_isBlank (h : Text.isBlank c = true) : isAlphanumeric c = false := by
  have codes : isAlphanumeric c = true → (48 ≤ c.toNat ∧ c.toNat ≤ 57) ∨
      (65 ≤ c.toNat ∧ c.toNat ≤ 90) ∨ (97 ≤ c.toNat ∧ c.toNat ≤ 122) := by
    have value : c.toNat = c.val.toNat := rfl
    simp [isAlphanumeric, Char.isAlphanum, Char.isDigit, isAlpha_iff, isUpper_iff, isLower_iff,
      UInt32.le_iff_toNat_le]
    omega
  by_contra hn
  have code := codes (by simpa using hn)
  simp [Text.isBlank, Text.blanks, Text.CodeRange.ofPair] at h
  omega

lemma isAlphanumeric_iff : isAlphanumeric c = true ↔ isIdentifierChar c = true ∧ c ≠ '_' := by
  simp only [isAlphanumeric, isIdentifierChar, Bool.or_eq_true, decide_eq_true_eq]
  constructor
  · intro h
    refine ⟨.inl h, ?_⟩
    rintro rfl
    exact absurd h (by decide)
  · rintro ⟨h | h, hc⟩
    · exact h
    · exact absurd h hc

lemma toNat_toUpper (c : Char) :
    c.toUpper.toNat = if 97 ≤ c.toNat ∧ c.toNat ≤ 122 then c.toNat - 32 else c.toNat := by
  have codes : 'a'.val ≤ c.val ∧ c.val ≤ 'z'.val ↔ 97 ≤ c.toNat ∧ c.toNat ≤ 122 := by
    rw [UInt32.le_iff_toNat_le, UInt32.le_iff_toNat_le]
    rfl
  unfold Char.toUpper
  split
  case isTrue h =>
    -- The difference of the codes is negative, so the sum wraps around.
    have difference : ('A'.val - 'a'.val).toNat = 2 ^ 32 - 32 := by decide
    have range := codes.1 h
    rw [if_pos range]
    show (c.val + ('A'.val - 'a'.val)).toNat = c.toNat - 32
    rw [UInt32.toNat_add, difference, Char.toNat_val]
    omega
  case isFalse h => rw [if_neg (mt codes.2 h)]

lemma toNat_toLower (c : Char) :
    c.toLower.toNat = if 65 ≤ c.toNat ∧ c.toNat ≤ 90 then c.toNat + 32 else c.toNat := by
  have codes : c.val ≥ 'A'.val ∧ c.val ≤ 'Z'.val ↔ 65 ≤ c.toNat ∧ c.toNat ≤ 90 := by
    rw [ge_iff_le, UInt32.le_iff_toNat_le, UInt32.le_iff_toNat_le]
    rfl
  unfold Char.toLower
  split
  case isTrue h =>
    have difference : ('a'.val - 'A'.val).toNat = 32 := by decide
    have range := codes.1 h
    rw [if_pos range]
    show (c.val + ('a'.val - 'A'.val)).toNat = c.toNat + 32
    rw [UInt32.toNat_add, difference, Char.toNat_val]
    omega
  case isFalse h => rw [if_neg (mt codes.2 h)]

/-- Characters are the same in upper case where they are in lower case. -/
lemma toUpper_eq_toUpper_iff {d : Char} : c.toUpper = d.toUpper ↔ c.toLower = d.toLower := by
  rw [← Char.toNat_inj, ← Char.toNat_inj, toNat_toUpper, toNat_toUpper, toNat_toLower,
    toNat_toLower]
  split_ifs <;> omega

/-- In upper case a letter is a letter again, and no other character changes. -/
lemma toUpper_cases (c : Char) :
    c.isAlpha = true ∧ c.toUpper.isAlpha = true ∨ c.isAlpha = false ∧ c.toUpper = c := by
  rw [← Char.toNat_inj, Bool.eq_false_iff]
  simp only [ne_eq, isAlpha_iff, isUpper_iff, isLower_iff, toNat_toUpper]
  split_ifs <;> omega

/-- A letter or digit in upper case starts a key if it is a letter. -/
lemma startsKey_toUpper (h : isAlphanumeric c = true) :
    startsKey c.toUpper = true ↔ c.isAlpha = true := by
  rcases toUpper_cases c with ⟨letter, upper⟩ | ⟨letter, same⟩
  · simp [startsKey, letter, upper]
  · have other : c ≠ '$' := by
      rintro rfl
      exact absurd h (by decide)
    simp [startsKey, letter, same, other, (isAlphanumeric_iff.1 h).2]

lemma continuesKey_of_isIdentifierChar (h : isIdentifierChar c = true) : continuesKey c = true := by
  simp only [isIdentifierChar, continuesKey, Bool.or_eq_true] at h ⊢
  exact .inl h

lemma continuesKey_toUpper (h : isIdentifierChar c = true) : continuesKey c.toUpper = true := by
  rcases toUpper_cases c with ⟨-, upper⟩ | ⟨-, same⟩
  · exact Literal.continuesKey_of_startsKey (by simp [startsKey, upper])
  · rw [same]
    exact continuesKey_of_isIdentifierChar h

/-! ### Runs of letters and digits -/

/-- The maximal runs of letters and digits, in order: the characters are cut at all others, and what
is empty between two cuts is left out. -/
def runs (cs : List Char) : List (List Char) :=
  (cs.splitOnP fun c => !isAlphanumeric c).filter (!·.isEmpty)

lemma runs_nil : runs [] = [] := by
  simp [runs]

/-- No run goes on over another character. -/
lemma runs_append_cons (hc : isAlphanumeric c = false) (before after : List Char) :
    runs (before ++ c :: after) = runs before ++ runs after := by
  rw [runs, List.splitOnP_append_cons before after (by simpa using hc), List.filter_append]
  rfl

lemma runs_cons (hc : isAlphanumeric c = false) (cs : List Char) : runs (c :: cs) = runs cs :=
  runs_append_cons hc [] cs

lemma runs_concat (hc : isAlphanumeric c = false) (cs : List Char) :
    runs (cs ++ [c]) = runs cs := by
  rw [runs_append_cons hc, runs_nil, List.append_nil]

/-- The runs hold all letters and digits, and nothing else. -/
lemma flatten_runs (cs : List Char) : (runs cs).flatten = cs.filter isAlphanumeric := by
  rw [runs, List.flatten_filter_not_isEmpty]
  induction cs with
  | nil => rfl
  | cons c cs ih =>
    obtain ⟨first, rest, pieces⟩ := List.exists_cons_of_ne_nil
      (List.splitOnP_ne_nil (fun c => !isAlphanumeric c) cs)
    rw [pieces] at ih
    rw [List.splitOnP_cons_eq_if_modifyHead, pieces]
    by_cases hc : isAlphanumeric c = true
    · simpa [hc] using ih
    · simpa [hc] using ih

lemma ne_nil_of_mem_runs {run : List Char} (h : run ∈ runs cs) : run ≠ [] := by
  simpa using (List.mem_filter.1 h).2

lemma isAlphanumeric_of_mem_runs {run : List Char} (h : run ∈ runs cs) (hc : c ∈ run) :
    isAlphanumeric c = true := by
  have own : c ∈ cs.filter isAlphanumeric := flatten_runs cs ▸ List.mem_flatten_of_mem h hc
  exact (List.mem_filter.1 own).2

/-! ### Runs are kept -/

lemma isAlphanumeric_underscore : isAlphanumeric '_' = false := by
  decide

/-- Joining runs of other characters keeps the runs of letters and digits, also those that have
begun before. -/
lemma runs_joinRuns (hp : ∀ c, p c = true → isAlphanumeric c = false) (cs : List Char) :
    (∀ before, runs (before ++ joinRuns p false cs) = runs (before ++ cs)) ∧
      runs (joinRuns p true cs) = runs cs := by
  induction cs with
  | nil => exact ⟨fun _ => rfl, rfl⟩
  | cons c cs ih =>
    obtain ⟨outside, inside⟩ := ih
    simp only [joinRuns]
    by_cases hc : p c = true
    · simp only [hc, if_true, Bool.false_eq_true, if_false]
      constructor
      · intro before
        rw [runs_append_cons isAlphanumeric_underscore, runs_append_cons (hp c hc), inside]
      · rw [runs_cons (hp c hc), inside]
    · simp only [hc]
      constructor
      · intro before
        simpa using outside (before ++ [c])
      · exact outside [c]

lemma runs_replaced (before cs : List Char) :
    runs (before ++ cs.map fun c => if isIdentifierChar c then c else '_') =
      runs (before ++ cs) := by
  induction cs generalizing before with
  | nil => rfl
  | cons c cs ih =>
    rw [List.map_cons]
    by_cases hc : isIdentifierChar c = true
    · simpa [hc] using ih (before ++ [c])
    · have other : isAlphanumeric c = false :=
        Bool.eq_false_iff.2 fun h => hc (isAlphanumeric_iff.1 h).1
      rw [if_neg hc, runs_append_cons isAlphanumeric_underscore, runs_append_cons other]
      exact congrArg _ (ih [])

lemma trimUnderscores_eq (cs : List Char) :
    trimUnderscores cs = (cs.dropWhile (· = '_')).rdropWhile (· = '_') :=
  rfl

lemma runs_trimUnderscores (cs : List Char) : runs (trimUnderscores cs) = runs cs := by
  have start (cs : List Char) : runs (cs.dropWhile (· = '_')) = runs cs := by
    induction cs with
    | nil => rfl
    | cons c cs ih =>
      rw [List.dropWhile_cons]
      split
      case isTrue h =>
        obtain rfl : c = '_' := by simpa using h
        rw [ih, runs_cons isAlphanumeric_underscore]
      case isFalse => rfl
  have stop (cs : List Char) : runs (cs.rdropWhile (· = '_')) = runs cs := by
    induction cs using List.reverseRecOn with
    | nil => rfl
    | append_singleton cs c ih =>
      rw [List.rdropWhile_concat]
      split
      case isTrue h =>
        obtain rfl : c = '_' := by simpa using h
        rw [ih, runs_concat isAlphanumeric_underscore]
      case isFalse => rfl
  rw [trimUnderscores_eq, stop, start]

/-- A sanitized text has the runs of the text. -/
lemma runs_sanitizedChars (cs : List Char) : runs (sanitizedChars cs) = runs cs := by
  have blanks : ∀ c, (c = '-' || Text.isBlank c) = true → isAlphanumeric c = false := by
    intro c h
    rcases Bool.or_eq_true_iff.1 h with h | h
    · obtain rfl : c = '-' := by simpa using h
      decide
    · exact isAlphanumeric_of_isBlank h
  have underscores : ∀ c, decide (c = '_') = true → isAlphanumeric c = false := by
    intro c h
    obtain rfl : c = '_' := by simpa using h
    decide
  let joined := joinRuns (fun c => c = '-' || Text.isBlank c) false cs
  let replaced := joined.map fun c => if isIdentifierChar c then c else '_'
  calc runs (sanitizedChars cs)
    _ = runs (joinRuns (· = '_') false replaced) := runs_trimUnderscores _
    _ = runs replaced := (runs_joinRuns underscores replaced).1 []
    _ = runs joined := runs_replaced [] joined
    _ = runs cs := (runs_joinRuns blanks cs).1 []

/-- The letters and digits of a sanitized text are those of the text. -/
lemma filter_sanitizedChars (cs : List Char) :
    (sanitizedChars cs).filter isAlphanumeric = cs.filter isAlphanumeric := by
  rw [← flatten_runs, runs_sanitizedChars, flatten_runs]

/-! ### What is left between them -/

lemma mem_joinRuns {d : Char} {inside : Bool} (h : d ∈ joinRuns p inside cs) : d = '_' ∨ d ∈ cs := by
  induction cs generalizing inside with
  | nil => cases h
  | cons c cs ih =>
    rw [joinRuns] at h
    split at h
    · split at h
      · exact (ih h).imp_right (List.mem_cons_of_mem c)
      · rcases List.mem_cons.1 h with rfl | h
        · exact .inl rfl
        · exact (ih h).imp_right (List.mem_cons_of_mem c)
    · rcases List.mem_cons.1 h with rfl | h
      · exact .inr List.mem_cons_self
      · exact (ih h).imp_right (List.mem_cons_of_mem c)

/-- Trimming cuts off the end of what it leaves of the start. -/
lemma prefix_trimUnderscores (cs : List Char) : trimUnderscores cs <+: cs.dropWhile (· = '_') :=
  List.rdropWhile_prefix _ _

lemma infix_trimUnderscores (cs : List Char) : trimUnderscores cs <:+: cs :=
  (prefix_trimUnderscores cs).isInfix.trans (List.dropWhile_suffix _).isInfix

lemma head?_trimUnderscores (cs : List Char) : (trimUnderscores cs).head? ≠ some '_' := by
  intro h
  obtain ⟨rest, hrest⟩ := List.head?_eq_some_iff.1 h
  obtain ⟨more, hmore⟩ := prefix_trimUnderscores cs
  have first := List.head?_dropWhile_not (· = '_') cs
  rw [← hmore, hrest] at first
  simp at first

lemma getLast?_trimUnderscores (cs : List Char) : (trimUnderscores cs).getLast? ≠ some '_' := by
  intro h
  have hne : trimUnderscores cs ≠ [] := List.ne_nil_of_mem (List.mem_of_getLast? h)
  have last := List.rdropWhile_last_not (· = '_') (cs.dropWhile (· = '_')) hne
  rw [List.getLast?_eq_some_getLast hne, Option.some.injEq] at h
  exact last (decide_eq_true h)

/-- A sanitized text holds characters of identifiers only. -/
lemma isIdentifierChar_of_mem_sanitizedChars (h : c ∈ sanitizedChars cs) :
    isIdentifierChar c = true := by
  rcases mem_joinRuns ((infix_trimUnderscores _).subset h) with rfl | hc
  · decide
  · obtain ⟨d, -, rfl⟩ := List.mem_map.1 hc
    by_cases hd : isIdentifierChar d = true
    · rw [if_pos hd, hd]
    · rw [if_neg hd]
      decide

/-! ### Single underscores -/

/-- No underscore stands at an end or beside another one. -/
structure IsTight (cs : List Char) : Prop where
  leading : cs.head? ≠ some '_'
  trailing : cs.getLast? ≠ some '_'
  doubled : ¬['_', '_'] <:+: cs

/-- No underscore is doubled, once runs of underscores are joined. -/
lemma not_doubled_joinRuns (cs : List Char) :
    ¬['_', '_'] <:+: joinRuns (· = '_') false cs ∧
      (joinRuns (· = '_') true cs).head? ≠ some '_' ∧
      ¬['_', '_'] <:+: joinRuns (· = '_') true cs := by
  induction cs with
  | nil => simp [joinRuns]
  | cons c cs ih =>
    obtain ⟨outside, first, inside⟩ := ih
    simp only [joinRuns]
    by_cases hc : c = '_'
    · simp only [hc, decide_true, if_true, Bool.false_eq_true, if_false]
      refine ⟨?_, first, inside⟩
      rw [List.infix_cons_iff, not_or]
      refine ⟨fun h => first ?_, inside⟩
      obtain ⟨more, hmore⟩ := (List.prefix_cons_inj '_').1 h
      simp [← hmore]
    · have kept : ¬['_', '_'] <:+: c :: joinRuns (· = '_') false cs := by
        rw [List.infix_cons_iff, not_or]
        refine ⟨fun h => hc ?_, outside⟩
        exact (List.cons_prefix_cons.1 h).1.symm
      simpa [hc] using kept

lemma isTight_sanitizedChars (cs : List Char) : IsTight (sanitizedChars cs) where
  leading := head?_trimUnderscores _
  trailing := getLast?_trimUnderscores _
  doubled := fun h => (not_doubled_joinRuns _).1 (h.trans (infix_trimUnderscores _))

/-- Between underscores that are not doubled there is always something, and before the first one
unless it stands at the start. -/
lemma ne_nil_of_splitOn_underscore {first : List Char} {rest : List (List Char)}
    (trailing : cs.getLast? ≠ some '_') (doubled : ¬['_', '_'] <:+: cs)
    (h : cs.splitOn '_' = first :: rest) :
    (first = [] → cs = [] ∨ cs.head? = some '_') ∧ ∀ piece ∈ rest, piece ≠ [] := by
  induction cs generalizing first rest with
  | nil => simp_all
  | cons c cs ih =>
    obtain ⟨first', rest', pieces⟩ := List.exists_cons_of_ne_nil (List.splitOn_ne_nil '_' cs)
    rw [List.infix_cons_iff, not_or] at doubled
    have trailing' : cs.getLast? ≠ some '_' :=
      fun hlast => trailing (by rw [List.getLast?_cons, hlast, Option.getD_some])
    obtain ⟨empty, others⟩ := ih trailing' doubled.2 pieces
    rw [List.splitOn_cons_eq_if_modifyHead, pieces] at h
    by_cases hc : c = '_'
    · subst hc
      simp only [beq_self_eq_true, if_true, List.cons.injEq] at h
      obtain ⟨rfl, rfl⟩ := h
      refine ⟨fun _ => .inr rfl, ?_⟩
      rw [List.forall_mem_cons]
      refine ⟨fun hempty => ?_, others⟩
      rcases empty hempty with rfl | hhead
      · exact trailing rfl
      · obtain ⟨more, rfl⟩ := List.head?_eq_some_iff.1 hhead
        exact doubled.1 ⟨more, rfl⟩
    · simp only [beq_iff_eq, hc, if_false, List.modifyHead_cons, List.cons.injEq] at h
      obtain ⟨rfl, rfl⟩ := h
      exact ⟨fun h => absurd h (List.cons_ne_nil _ _), others⟩

lemma splitOnP_congr {q : Char → Bool} (h : ∀ c ∈ cs, p c = q c) :
    cs.splitOnP p = cs.splitOnP q := by
  induction cs with
  | nil => rfl
  | cons c cs ih =>
    rw [List.forall_mem_cons] at h
    rw [List.splitOnP_cons_eq_if_modifyHead, List.splitOnP_cons_eq_if_modifyHead, h.1, ih h.2]

/-- Characters of identifiers with single underscores between them are their runs, joined. -/
lemma IsTight.eq_intercalate (h : IsTight cs) (hcs : ∀ c ∈ cs, isIdentifierChar c = true) :
    cs = ['_'].intercalate (runs cs) := by
  by_cases hne : cs = []
  · simp [hne, runs_nil]
  have cut : (cs.splitOnP fun c => !isAlphanumeric c) = cs.splitOn '_' := by
    refine splitOnP_congr fun c hc => ?_
    by_cases underscore : c = '_'
    · rw [underscore]
      decide
    · have own : isAlphanumeric c = true := isAlphanumeric_iff.2 ⟨hcs c hc, underscore⟩
      simp [own, underscore]
  obtain ⟨first, rest, pieces⟩ := List.exists_cons_of_ne_nil (List.splitOn_ne_nil '_' cs)
  obtain ⟨empty, others⟩ := ne_nil_of_splitOn_underscore h.trailing h.doubled pieces
  have full : ∀ piece ∈ cs.splitOn '_', (!piece.isEmpty) = true := by
    simp only [Bool.not_eq_true', List.isEmpty_eq_false_iff, pieces, List.forall_mem_cons]
    exact ⟨fun hfirst => (empty hfirst).elim hne h.leading, others⟩
  rw [runs, cut, List.filter_eq_self.2 full, List.intercalate_splitOn]

lemma sanitizedChars_eq_intercalate (cs : List Char) :
    sanitizedChars cs = ['_'].intercalate (runs cs) := by
  have own := (isTight_sanitizedChars cs).eq_intercalate fun _ =>
    isIdentifierChar_of_mem_sanitizedChars
  rwa [runs_sanitizedChars] at own

/-- A sanitized text starts with the first letter or digit. -/
lemma head?_sanitizedChars (cs : List Char) :
    (sanitizedChars cs).head? = cs.find? isAlphanumeric := by
  rw [← List.head?_filter, ← filter_sanitizedChars]
  cases h : sanitizedChars cs with
  | nil => rfl
  | cons c rest =>
    have first : c ∈ sanitizedChars cs := h ▸ List.mem_cons_self
    have leading := (isTight_sanitizedChars cs).leading
    rw [h, List.head?_cons, ne_eq, Option.some.injEq] at leading
    have own : isAlphanumeric c = true :=
      isAlphanumeric_iff.2 ⟨isIdentifierChar_of_mem_sanitizedChars first, leading⟩
    rw [List.filter_cons_of_pos own, List.head?_cons, List.head?_cons]

/-! ### Names of operations -/

/-- The first letter or digit of an operation id, if there is one, is a letter. -/
def LeadsWithLetter (operationId : String) : Prop :=
  ∀ c, operationId.toList.find? isAlphanumeric = some c → c.isAlpha = true

/-- The name of an operation is empty, or it starts with the first letter or digit of the id and
goes on with characters of identifiers. -/
lemma toList_ofOperation (operationId : String) :
    (ofOperation operationId).toList = [] ∧ operationId.toList.find? isAlphanumeric = none ∨
    ∃ c rest, (ofOperation operationId).toList = c.toUpper :: rest ∧
      operationId.toList.find? isAlphanumeric = some c ∧ isAlphanumeric c = true ∧
      rest.all continuesKey = true := by
  have first := head?_sanitizedChars operationId.toList
  unfold ofOperation
  cases h : sanitizedChars operationId.toList with
  | nil =>
    rw [h] at first
    exact .inl ⟨rfl, first.symm⟩
  | cons c rest =>
    rw [h] at first
    refine .inr ⟨c, rest, String.toList_ofList, first.symm, List.find?_some first.symm, ?_⟩
    refine List.all_eq_true.2 fun d hd => continuesKey_of_isIdentifierChar ?_
    exact isIdentifierChar_of_mem_sanitizedChars (h ▸ List.mem_cons_of_mem c hd)

/-- The name of an operation with a word after it holds characters of identifiers if what follows
does. -/
lemma all_ofOperation_append (operationId : String) {suffix : String} :
    ((ofOperation operationId ++ suffix).toList.all continuesKey = true) ↔
      suffix.toList.all continuesKey = true := by
  rw [String.toList_append, List.all_append, Bool.and_eq_true]
  refine and_iff_right ?_
  rcases toList_ofOperation operationId with ⟨none, -⟩ | ⟨c, rest, chars, -, own, hrest⟩
  · rw [none, List.all_nil]
  · rw [chars, List.all_cons, hrest, Bool.and_true]
    exact continuesKey_toUpper (isAlphanumeric_iff.1 own).1

/-- The name of an operation, followed by a text that starts like an identifier, is an identifier
if the id leads with a letter and what follows holds characters of identifiers only. -/
lemma isIdentifier_ofOperation_append (operationId : String) {suffix : String}
    (hs : ∃ d more, suffix.toList = d :: more ∧ startsKey d = true) :
    IsIdentifier (ofOperation operationId ++ suffix) ↔
      LeadsWithLetter operationId ∧ suffix.toList.all continuesKey = true := by
  obtain ⟨d, more, hd, starts⟩ := hs
  rw [Literal.isIdentifier_iff, String.toList_append]
  rcases toList_ofOperation operationId with ⟨none, first⟩ | ⟨c, rest, chars, first, own, hrest⟩
  · have leads : LeadsWithLetter operationId := fun c hc => nomatch first.symm.trans hc
    have continues := Literal.continuesKey_of_startsKey starts
    simp [none, hd, starts, continues, leads]
  · have leads : LeadsWithLetter operationId ↔ startsKey c.toUpper = true := by
      simp [LeadsWithLetter, first, startsKey_toUpper own]
    rw [leads, chars, List.cons_append]
    constructor
    · rintro ⟨_, _, ⟨⟩, hc, hall⟩
      rw [List.all_append, hrest, Bool.true_and] at hall
      exact ⟨hc, hall⟩
    · rintro ⟨hc, hall⟩
      exact ⟨_, _, rfl, hc, by rw [List.all_append, hrest, hall, Bool.and_self]⟩

/-- Two lists of runs are the same but for the case of the first character. -/
inductive AgreeUpToFirstCase : List (List Char) → List (List Char) → Prop
  | nil : AgreeUpToFirstCase [] []
  | cons {c d : Char} (h : c.toLower = d.toLower) (run : List Char) (rest : List (List Char)) :
    AgreeUpToFirstCase ((c :: run) :: rest) ((d :: run) :: rest)

/-- The name of an operation is made of the runs of the id, the first of them with a capital. -/
lemma ofOperation_cases (operationId : String) :
    runs operationId.toList = [] ∧ ofOperation operationId = "" ∨
    ∃ c run rest, runs operationId.toList = (c :: run) :: rest ∧
      ofOperation operationId = String.ofList (c.toUpper :: ['_'].intercalate (run :: rest)) := by
  rw [ofOperation, sanitizedChars_eq_intercalate]
  cases h : runs operationId.toList with
  | nil => exact .inl ⟨rfl, rfl⟩
  | cons run rest =>
    have hne : run ≠ [] := ne_nil_of_mem_runs (h ▸ List.mem_cons_self)
    obtain ⟨c, run, rfl⟩ := List.exists_cons_of_ne_nil hne
    refine .inr ⟨c, run, rest, rfl, ?_⟩
    rw [List.intercalate_cons_cons_left]

/-- Runs are found again between underscores, also when the first one is cut. -/
lemma splitOn_intercalate_runs {run : List Char} {rest : List (List Char)}
    (h : runs cs = (c :: run) :: rest) :
    (['_'].intercalate (run :: rest)).splitOn '_' = run :: rest := by
  have apart : ∀ r ∈ runs cs, '_' ∉ r := by
    intro r hr hmem
    exact absurd (isAlphanumeric_of_mem_runs hr hmem) (by decide)
  rw [h, List.forall_mem_cons, List.mem_cons, not_or] at apart
  refine List.splitOn_intercalate '_' ?_ (List.cons_ne_nil _ _)
  rw [List.forall_mem_cons]
  exact ⟨apart.1.2, apart.2⟩

/-- Operations have one name if their ids have the same runs, but for the case of the first
character. -/
lemma ofOperation_eq_iff {s t : String} :
    ofOperation s = ofOperation t ↔ AgreeUpToFirstCase (runs s.toList) (runs t.toList) := by
  rcases ofOperation_cases s with ⟨hs, name⟩ | ⟨c, run, rest, hs, name⟩
  · rw [hs, name]
    rcases ofOperation_cases t with ⟨ht, other⟩ | ⟨d, run', rest', ht, other⟩
    · rw [ht, other]
      exact iff_of_true rfl .nil
    · rw [ht, other]
      exact iff_of_false (Ne.symm (by simp)) (nomatch ·)
  · rw [name]
    rcases ofOperation_cases t with ⟨ht, other⟩ | ⟨d, run', rest', ht, other⟩
    · rw [hs, ht, other]
      exact iff_of_false (by simp) (nomatch ·)
    · rw [other, String.ofList_inj, List.cons.injEq, toUpper_eq_toUpper_iff]
      constructor
      · rintro ⟨first, joined⟩
        have same : run :: rest = run' :: rest' := by
          rw [← splitOn_intercalate_runs hs, joined, splitOn_intercalate_runs ht]
        obtain ⟨rfl, rfl⟩ := List.cons.inj same
        rw [hs, ht]
        exact .cons first run rest
      · intro h
        rw [hs, ht] at h
        cases h with
        | cons first => exact ⟨first, rfl⟩

lemma all_continuesKey_iff {s : String} :
    s.toList.all continuesKey = true ↔ ∀ c ∈ s.toList, ContinuesIdentifier c := by
  simp only [List.all_eq_true, Literal.continuesKey_iff]

/-! ### Names of types -/

/-- The names of the parameters and the body of an operation are identifiers exactly where the
operation id leads with a letter, and those of its responses where the key of the response also
holds nothing but characters of identifiers. All of them are never empty, and the first two hold
only such characters, whatever the id is: it can only be a digit that they start with. -/
theorem isIdentifier_names_iff (operationId status : String) :
    (IsIdentifier (ofParameters operationId) ↔ LeadsWithLetter operationId) ∧
    (IsIdentifier (ofRequestBody operationId) ↔ LeadsWithLetter operationId) ∧
    (IsIdentifier (ofResponse operationId status) ↔
      LeadsWithLetter operationId ∧ ∀ c ∈ status.toList, ContinuesIdentifier c) ∧
    ofResponse operationId status ≠ "" ∧
    ∀ name ∈ [ofParameters operationId, ofRequestBody operationId],
      name ≠ "" ∧ ∀ c ∈ name.toList, ContinuesIdentifier c := by
  have parameters : "Params".toList.all continuesKey = true := by decide
  have body : "RequestBody".toList.all continuesKey = true := by decide
  have response : ("Response" ++ status).toList.all continuesKey =
      status.toList.all continuesKey := by
    rw [String.toList_append, List.all_append, show "Response".toList.all continuesKey = true from
      by decide, Bool.true_and]
  have split : ofResponse operationId status = ofOperation operationId ++ ("Response" ++ status) :=
    String.append_assoc ..
  refine ⟨?_, ?_, ?_, ?_, ?_⟩
  · rw [ofParameters, isIdentifier_ofOperation_append operationId ⟨_, _, rfl, by decide⟩, parameters,
      and_iff_left rfl]
  · rw [ofRequestBody, isIdentifier_ofOperation_append operationId ⟨_, _, rfl, by decide⟩, body,
      and_iff_left rfl]
  · rw [split, isIdentifier_ofOperation_append operationId ⟨'R', _, String.toList_append, by decide⟩,
      response, all_continuesKey_iff]
  · rw [split]
    simp [String.append_eq_empty_iff]
  · simp only [List.forall_mem_cons, List.not_mem_nil, false_implies, implies_true, and_true,
      ← all_continuesKey_iff]
    refine ⟨⟨?_, ?_⟩, ?_, ?_⟩
    · simp [ofParameters]
    · exact (all_ofOperation_append operationId).2 parameters
    · simp [ofRequestBody]
    · exact (all_ofOperation_append operationId).2 body

/-- An id that leads with a digit, and a key that holds a blank: none of the names is an
identifier. -/
theorem isIdentifier_names_iff_numbered :
    ¬IsIdentifier (ofParameters "1st") ∧ ¬IsIdentifier (ofRequestBody "/2/pets") ∧
      ¬IsIdentifier (ofResponse "listPets" "2 00") ∧ IsIdentifier (ofResponse "-list pets" "2XX") := by
  have first : ¬LeadsWithLetter "1st" := fun h => absurd (h '1' (by decide)) (by decide)
  have second : ¬LeadsWithLetter "/2/pets" := fun h => absurd (h '2' (by decide)) (by decide)
  have blank : ¬∀ c ∈ "2 00".toList, ContinuesIdentifier c := by
    rw [← all_continuesKey_iff]
    decide
  have letter : LeadsWithLetter "-list pets" := fun c hc => by
    obtain rfl : 'l' = c := Option.some.inj hc
    decide
  have key : ∀ c ∈ "2XX".toList, ContinuesIdentifier c := all_continuesKey_iff.1 (by decide)
  exact ⟨mt (isIdentifier_names_iff "1st" "").1.1 first,
    mt (isIdentifier_names_iff "/2/pets" "").2.1.1 second,
    fun h => blank ((isIdentifier_names_iff "listPets" "2 00").2.2.1.1 h).2,
    (isIdentifier_names_iff "-list pets" "2XX").2.2.1.2 ⟨letter, key⟩⟩

/-- A sanitized text is made of the maximal runs of letters and digits of the text, with one
underscore between two of them. So it is sanitized itself, no underscore stands at its ends or
beside another one, and the names that are made of two operation ids are the same exactly where the
ids have the same runs, but for the case of the first character. -/
theorem sanitized_runs (s t : String) :
    sanitized s = String.ofList (['_'].intercalate (runs s.toList)) ∧
    sanitized (sanitized s) = sanitized s ∧ IsTight (sanitized s).toList ∧
    (ofOperation s = ofOperation t ↔ AgreeUpToFirstCase (runs s.toList) (runs t.toList)) ∧
    (ofParameters s = ofParameters t ↔ AgreeUpToFirstCase (runs s.toList) (runs t.toList)) ∧
    (ofRequestBody s = ofRequestBody t ↔ AgreeUpToFirstCase (runs s.toList) (runs t.toList)) ∧
    ∀ status, ofResponse s status = ofResponse t status ↔
      AgreeUpToFirstCase (runs s.toList) (runs t.toList) := by
  have closed (s : String) : sanitized s = String.ofList (['_'].intercalate (runs s.toList)) := by
    rw [sanitized, sanitizedChars_eq_intercalate]
  have kept : runs (sanitized s).toList = runs s.toList := by
    rw [sanitized, String.toList_ofList, runs_sanitizedChars]
  have tight : IsTight (sanitized s).toList := by
    rw [sanitized, String.toList_ofList]
    exact isTight_sanitizedChars s.toList
  refine ⟨closed s, ?_, tight, ofOperation_eq_iff, ?_, ?_, ?_⟩
  · rw [closed (sanitized s), kept, ← closed s]
  · rw [ofParameters, ofParameters, String.append_left_inj, ofOperation_eq_iff]
  · rw [ofRequestBody, ofRequestBody, String.append_left_inj, ofOperation_eq_iff]
  · intro status
    rw [ofResponse, ofResponse, String.append_left_inj, String.append_left_inj, ofOperation_eq_iff]

example : runs "-get pets/by_id".toList = ["get", "pets", "by", "id"].map String.toList := by
  decide +kernel

end ApiBridge.Name
