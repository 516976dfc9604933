import ApiBridge.Proofs.Json.Reading
import ApiBridge.Proofs.Json.Strings
import ApiBridge.Proofs.Value.Keys
import Mathlib.Data.List.Nodup

/-!
# Spellings of values

`Spells` says of a text that it spells a value: words, natural numbers and strings, and lists and
maps with blanks between their parts. Every spelling is read as the value that it spells, whatever
follows, if only that does not carry on a number, and what is written in any style is a spelling.
-/

namespace ApiBridge.Json

/-! ### Blanks -/

/-- All characters are blank. -/
def IsBlank (cs : List Char) : Prop :=
  ∀ c ∈ cs, isSpace c = true

lemma isBlank_nil : IsBlank [] := by
  simp [IsBlank]

lemma eq_of_isSpace {c : Char} (h : isSpace c = true) :
    c = ' ' ∨ c = '\n' ∨ c = '\t' ∨ c = '\r' := by
  simpa [isSpace, or_assoc] using h

lemma skipSpace_append {blank : List Char} (h : IsBlank blank) (cs : List Char) :
    skipSpace (blank ++ cs) = skipSpace cs :=
  List.dropWhile_append_of_pos h

lemma skipSpace_cons {c : Char} (h : isSpace c = false) (cs : List Char) :
    skipSpace (c :: cs) = c :: cs :=
  List.dropWhile_cons_of_neg (by simp [h])

/-! ### Spellings -/

/-- An item of a list with its spelling, and the blanks in front. -/
structure Item where
  before : List Char
  text : List Char
  value : Value

def Item.spelled (i : Item) : List Char :=
  i.before ++ i.text

/-- An entry of a map with the spellings of its name and its value, and the blanks between them. -/
structure Entry where
  before : List Char
  name : String
  style : Style
  afterName : List Char
  beforeValue : List Char
  text : List Char
  value : Value

def Entry.spelled (e : Entry) : List Char :=
  e.before ++ (writeString e.style e.name).toList ++ e.afterName ++ ':' :: (e.beforeValue ++ e.text)

/-- All blanks of an entry are blank. -/
structure Entry.IsSpaced (e : Entry) : Prop where
  before : IsBlank e.before
  afterName : IsBlank e.afterName
  beforeValue : IsBlank e.beforeValue

/-- The words that stand for a value, without those that stand for a double. -/
def plainWords : List (String × Value) :=
  [("null", .null), ("true", .bool true), ("false", .bool false)]

/-- A text spells a value. -/
inductive Spells : List Char → Value → Prop
  | word {w : String × Value} (h : w ∈ plainWords) : Spells w.1.toList w.2
  | nat (n : Nat) : Spells (Nat.toDigits 10 n) (.int n)
  | text (style : Style) (s : String) : Spells (writeString style s).toList (.text s)
  | emptyList {blank : List Char} (hb : IsBlank blank) :
      Spells ('[' :: (blank ++ [']'])) (.list [])
  | list {items : List Item} {after : List Char} (hne : items ≠ [])
      (hb : ∀ i ∈ items, IsBlank i.before) (ha : IsBlank after)
      (h : ∀ i ∈ items, Spells i.text i.value) :
      Spells ('[' :: ([','].intercalate (items.map (·.spelled)) ++ (after ++ [']'])))
        (.list (items.map (·.value)))
  | emptyMap {blank : List Char} (hb : IsBlank blank) :
      Spells ('\x7b' :: (blank ++ ['\x7d'])) (.map [])
  | map {entries : List Entry} {after : List Char} (hne : entries ≠ [])
      (hb : ∀ e ∈ entries, e.IsSpaced) (ha : IsBlank after)
      (hn : (entries.map (·.name)).Nodup) (h : ∀ e ∈ entries, Spells e.text e.value) :
      Spells ('\x7b' :: ([','].intercalate (entries.map (·.spelled)) ++ (after ++ ['\x7d'])))
        (.map (entries.map fun e => (.text e.name, e.value)))

/-! ### Spellings are read -/

/-- Does the character carry on a number? -/
def carriesOn (c : Char) : Bool :=
  c.isDigit || c = '.' || c = 'e' || c = 'E'

/-- What follows a value does not carry it on, in case that it is a number. -/
def EndsBefore (v : Value) (rest : List Char) : Prop :=
  ∀ n, v = .int n → ∀ c cs, rest = c :: cs → carriesOn c = false

lemma endsBefore_of_ne {v : Value} (h : ∀ n, v ≠ .int n) (rest : List Char) :
    EndsBefore v rest :=
  fun n hv => absurd hv (h n)

lemma carriesOn_of_isSpace {c : Char} (h : isSpace c = true) : carriesOn c = false := by
  rcases eq_of_isSpace h with rfl | rfl | rfl | rfl <;> rfl

lemma endsBefore_of_isBlank {blank : List Char} (hb : IsBlank blank) (v : Value) :
    EndsBefore v blank := by
  rintro n - c cs rfl
  exact carriesOn_of_isSpace (hb c (by simp))

/-- Numbers end before blanks and before the marks between values. -/
lemma endsBefore_blank {blank : List Char} (hb : IsBlank blank) {mark : Char}
    (hm : carriesOn mark = false) (v : Value) (rest : List Char) :
    EndsBefore v (blank ++ mark :: rest) := by
  rintro n - c cs h
  cases blank with
  | nil =>
    obtain ⟨rfl, -⟩ := List.cons.inj h
    exact hm
  | cons b blank =>
    obtain ⟨rfl, -⟩ := List.cons.inj h
    exact carriesOn_of_isSpace (hb b (by simp))

lemma endsBefore_mark {mark : Char} (hm : carriesOn mark = false) (v : Value)
    (rest : List Char) : EndsBefore v (mark :: rest) :=
  endsBefore_blank isBlank_nil hm v rest

/-- A reader takes a spelling for its value, whatever follows that does not carry it on. -/
def IsRead (cs : List Char) (v : Value) : Prop :=
  v.isWritable = true → ∀ fuel, cs.length ≤ fuel → ∀ rest, EndsBefore v rest →
    readValue fuel (cs ++ rest) = .ok (v, rest)

variable {cs after : List Char} {v : Value}

lemma toList_writeString (style : Style) (s : String) : (writeString style s).toList
    = '"' :: (s.toList.flatMap (writtenChar style) ++ ['"']) := by
  simp [writeString]

/-- No spelling starts with a blank, ends a list or starts with the mark of a byte order. -/
lemma Spells.exists_cons (h : Spells cs v) :
    ∃ c rest, cs = c :: rest ∧ isSpace c = false ∧ c ≠ ']' ∧ c ≠ '\ufeff' := by
  cases h with
  | @word w h =>
    have heads : ∀ w ∈ plainWords,
        ∃ c rest, w.1.toList = c :: rest ∧ isSpace c = false ∧ c ≠ ']' ∧ c ≠ '\ufeff' := by
      simp [plainWords, isSpace]
    exact heads w h
  | nat n =>
    obtain ⟨c, rest, hcs⟩ := List.exists_cons_of_ne_nil (Nat.toDigits_ne_nil (n := n) (b := 10))
    have digit : c.isDigit = true :=
      Nat.isDigit_of_mem_toDigits (b := 10) (by decide) (by decide) (n := n) (by rw [hcs]; simp)
    have marks : c ≠ ']' ∧ c ≠ '\ufeff' := by
      constructor <;> rintro rfl <;> exact absurd digit (by decide)
    refine ⟨c, rest, hcs, ?_, marks⟩
    rw [Bool.eq_false_iff]
    intro blank
    rcases eq_of_isSpace blank with rfl | rfl | rfl | rfl <;> exact absurd digit (by decide)
  | text style s => exact ⟨'"', _, toList_writeString style s, rfl, by decide, by decide⟩
  | emptyList | list => exact ⟨'[', _, rfl, rfl, by decide, by decide⟩
  | emptyMap | map => exact ⟨'\x7b', _, rfl, rfl, by decide, by decide⟩

lemma isRead_word {w : String × Value} (h : w ∈ plainWords) : IsRead w.1.toList w.2 := by
  intro _ fuel hf rest _
  simp only [plainWords, List.mem_cons, List.not_mem_nil, or_false] at h
  rcases h with rfl | rfl | rfl
  all_goals
    obtain ⟨fuel, rfl⟩ := Nat.exists_eq_add_of_le' hf
    rfl

lemma isRead_text (style : Style) (s : String) : IsRead (writeString style s).toList (.text s) := by
  rintro - (_ | fuel) hf rest -
  · simp [toList_writeString] at hf
  · rw [toList_writeString, List.cons_append, List.append_assoc, readValue, List.singleton_append,
      readString_written]
    simp [bind, Except.bind, pure, Except.pure]

lemma length_toDigits_le {n limit : Nat} (hl : 0 < limit) (hn : n < Nat.pow 10 limit) :
    (Nat.toDigits 10 n).length ≤ limit :=
  (Nat.length_toDigits_le_iff (by decide) hl).2 hn

section Numbers

variable {rest : List Char} (hr : ∀ c cs, rest = c :: cs → carriesOn c = false)

include hr

lemma fractionPart_of_ends : fractionPart rest = ([], rest) := by
  unfold fractionPart
  split
  case h_1 => exact absurd (hr '.' _ rfl) (by decide)
  case h_2 => rfl

lemma exponentPart_of_ends : exponentPart rest = none := by
  unfold exponentPart
  split
  case h_1 e rest =>
    have mark : ¬(e = 'e' ∨ e = 'E') := by
      rintro (rfl | rfl)
      · exact absurd (hr 'e' _ rfl) (by decide)
      · exact absurd (hr 'E' _ rfl) (by decide)
    rw [if_neg mark]
  case h_2 => rfl

/-- Digits are read up to what does not carry them on. -/
lemma spanDigits_append {ds : List Char} (hd : ∀ c ∈ ds, c.isDigit = true) :
    (ds ++ rest).takeWhile Char.isDigit = ds ∧ (ds ++ rest).dropWhile Char.isDigit = rest := by
  have stops : rest.takeWhile Char.isDigit = [] ∧ rest.dropWhile Char.isDigit = rest := by
    cases rest with
    | nil => exact ⟨rfl, rfl⟩
    | cons c cs =>
      have digit : c.isDigit = false := by
        have none := hr c cs rfl
        simp only [carriesOn, Bool.or_eq_false_iff] at none
        exact none.1.1.1
      simp [digit]
  rw [List.takeWhile_append_of_pos hd, List.dropWhile_append_of_pos hd, stops.1, stops.2]
  exact ⟨List.append_nil ds, rfl⟩

lemma readUnsigned_toDigits {n : Nat} (hn : Text.isWritable n = true) :
    readUnsigned false (Nat.toDigits 10 n ++ rest) = some (.ok (.int n, rest)) := by
  have digits : ∀ c ∈ Nat.toDigits 10 n, c.isDigit = true :=
    fun c hc => Nat.isDigit_of_mem_toDigits (by decide) (by decide) hc
  have length : ¬digitLimit < (Nat.toDigits 10 n).length := by
    have same : Text.decimalDigitLimit = digitLimit := rfl
    rw [Text.isWritable, decide_eq_true_iff, Int.natAbs_natCast, same] at hn
    exact Nat.not_lt.2 (length_toDigits_le (by decide) hn)
  refine Option.map_eq_some_iff.2 ⟨(Nat.toDigits 10 n, rest), ?_, ?_⟩
  · by_cases zero : n = 0
    · subst zero
      rfl
    · obtain ⟨c, cs, hcs⟩ := List.exists_cons_of_ne_nil (Nat.toDigits_ne_nil (n := n) (b := 10))
      have span := spanDigits_append hr digits
      rw [hcs] at digits span ⊢
      rw [List.cons_append] at span ⊢
      split
      case h_1 heq =>
        obtain ⟨rfl, -⟩ := List.cons.inj heq
        exact absurd hcs (toDigits_ne_zero_cons zero cs)
      case h_2 heq =>
        obtain ⟨rfl, rfl⟩ := List.cons.inj heq
        rw [if_pos (digits _ (by simp)), span.1, span.2]
      case h_3 heq => cases heq
  · simp only [fractionPart_of_ends hr, exponentPart_of_ends hr, List.isEmpty_nil,
      Option.isNone_none, Bool.and_self, if_true, length, if_false, natOfDigits_toDigits,
      Bool.false_eq_true]

end Numbers

/-- The digits of a number are read as the number, where no further ones follow. -/
lemma isRead_nat (n : Nat) : IsRead (Nat.toDigits 10 n) (.int n) := by
  rintro hw (_ | fuel) hf rest hr
  · exact absurd (List.eq_nil_of_length_eq_zero (Nat.le_zero.1 hf)) Nat.toDigits_ne_nil
  rw [Value.isWritable, Scalar.isWritable] at hw
  have number := readUnsigned_toDigits (hr n rfl) hw
  obtain ⟨c, cs, hcs⟩ := List.exists_cons_of_ne_nil (Nat.toDigits_ne_nil (n := n) (b := 10))
  have digit : c.isDigit = true :=
    Nat.isDigit_of_mem_toDigits (b := 10) (by decide) (by decide) (n := n) (by rw [hcs]; simp)
  rw [hcs, List.cons_append] at number ⊢
  have no_word : readWord? (c :: (cs ++ rest)) = none := by
    have other : ∀ w ∈ words, ∃ first more, w.1.toList = first :: more ∧ first.isDigit = false := by
      simp [words]
    rw [readWord?, Option.map_eq_none_iff, List.find?_eq_none]
    intro w hw
    obtain ⟨first, more, htext, hfirst⟩ := other w hw
    have differ : first ≠ c := by
      rintro rfl
      rw [hfirst] at digit
      cases digit
    simp [htext, differ]
  have signed : readNumber (c :: (cs ++ rest)) = .ok (.int n, rest) := by
    unfold readNumber
    split
    case h_1 heq =>
      obtain ⟨rfl, -⟩ := List.cons.inj heq
      exact absurd digit (by decide)
    case h_2 =>
      rw [number]
      rfl
  rw [readValue]
  · rw [no_word]
    exact signed
  all_goals
    rintro _ heq
    obtain ⟨rfl, -⟩ := List.cons.inj heq
    exact absurd digit (by decide)

lemma Spells.skipSpace_blank {before text : List Char} (hb : IsBlank before)
    (h : Spells text v) (rest : List Char) :
    skipSpace (before ++ (text ++ rest)) = text ++ rest := by
  obtain ⟨c, cs, rfl, hc, -⟩ := h.exists_cons
  rw [skipSpace_append hb, List.cons_append, skipSpace_cons hc]

/-- Items are read up to the end of the list, one after another. -/
lemma readItems_spelled {items : List Item} (hne : items ≠ [])
    (hb : ∀ i ∈ items, IsBlank i.before) (ha : IsBlank after)
    (hs : ∀ i ∈ items, Spells i.text i.value) (hr : ∀ i ∈ items, IsRead i.text i.value)
    (hw : ∀ i ∈ items, i.value.isWritable = true) {fuel : Nat} (hf : ([','].intercalate (items.map (·.spelled)) ++ after).length < fuel)
    (rest : List Char) :
    readItems fuel
        (skipSpace ([','].intercalate (items.map (·.spelled)) ++ (after ++ ']' :: rest)))
      = .ok (items.map (·.value), rest) := by
  induction items generalizing fuel with
  | nil => contradiction
  | cons i items ih =>
    obtain ⟨before, text, v⟩ := i
    obtain ⟨hb₁, hb⟩ := List.forall_mem_cons.1 hb
    obtain ⟨hs₁, hs⟩ := List.forall_mem_cons.1 hs
    obtain ⟨hr₁, hr⟩ := List.forall_mem_cons.1 hr
    obtain ⟨hw₁, hw⟩ := List.forall_mem_cons.1 hw
    replace hr₁ : IsRead text v := hr₁
    cases fuel with
    | zero => exact absurd hf (Nat.not_lt_zero _)
    | succ fuel =>
      cases items with
      | nil =>
        simp only [List.map_cons, List.map_nil, List.intercalate_singleton, Item.spelled,
          List.append_assoc, List.length_append] at hf ⊢
        have value := hr₁ hw₁ fuel (by omega) (after ++ ']' :: rest)
          (endsBefore_blank ha (by decide) v rest)
        rw [hs₁.skipSpace_blank hb₁, readItems, value]
        simp [bind, Except.bind, pure, Except.pure, Json.skipSpace_append ha,
          skipSpace_cons (c := ']') rfl]
      | cons j items =>
        simp only [List.map_cons, List.intercalate_cons_cons, Item.spelled, List.append_assoc,
          List.cons_append, List.length_append, List.length_cons] at hf ih ⊢
        have value := fun rest => hr₁ hw₁ fuel (by omega) (',' :: rest)
          (endsBefore_mark (by decide) v rest)
        rw [hs₁.skipSpace_blank hb₁, readItems, value]
        have rest : readItems fuel _ = _ := ih (by simp) hb hs hr hw (by omega)
        simp [bind, Except.bind, pure, Except.pure, skipSpace_cons (c := ',') rfl, rest]

lemma Entry.skipSpace_spelled {e : Entry} (hb : IsBlank e.before) (rest : List Char) :
    skipSpace (e.spelled ++ rest) = '"' :: (e.name.toList.flatMap (writtenChar e.style) ++
      '"' :: (e.afterName ++ ':' :: (e.beforeValue ++ (e.text ++ rest)))) := by
  simp only [Entry.spelled, toList_writeString, List.append_assoc, List.cons_append,
    List.nil_append]
  rw [skipSpace_append hb, skipSpace_cons (by rfl)]

/-- Entries are read up to the end of the map, one after another. -/
lemma readEntries_spelled {entries : List Entry} (hne : entries ≠ [])
    (hb : ∀ e ∈ entries, e.IsSpaced) (ha : IsBlank after)
    (hs : ∀ e ∈ entries, Spells e.text e.value) (hr : ∀ e ∈ entries, IsRead e.text e.value)
    (hw : ∀ e ∈ entries, e.value.isWritable = true) {fuel : Nat} (hf : ([','].intercalate (entries.map (·.spelled)) ++ after).length < fuel)
    (rest : List Char) :
    readEntries fuel
        (skipSpace ([','].intercalate (entries.map (·.spelled)) ++ (after ++ '\x7d' :: rest)))
      = .ok (entries.map fun e => (.text e.name, e.value), rest) := by
  induction entries generalizing fuel with
  | nil => contradiction
  | cons e entries ih =>
    obtain ⟨hb₁, hb⟩ := List.forall_mem_cons.1 hb
    obtain ⟨hs₁, hs⟩ := List.forall_mem_cons.1 hs
    obtain ⟨hr₁, hr⟩ := List.forall_mem_cons.1 hr
    obtain ⟨hw₁, hw⟩ := List.forall_mem_cons.1 hw
    have length : e.text.length ≤ e.spelled.length := by
      simp [Entry.spelled]
      omega
    cases fuel with
    | zero => exact absurd hf (Nat.not_lt_zero _)
    | succ fuel =>
      cases entries with
      | nil =>
        simp only [List.map_cons, List.map_nil, List.intercalate_singleton,
          List.length_append] at hf ⊢
        have value := hr₁ hw₁ fuel (by omega) (after ++ '\x7d' :: rest)
          (endsBefore_blank ha (by decide) e.value rest)
        rw [Entry.skipSpace_spelled hb₁.before, readEntries, readString_written]
        simp [bind, Except.bind, pure, Except.pure, skipSpace_append hb₁.afterName,
          skipSpace_cons (c := ':') rfl, hs₁.skipSpace_blank hb₁.beforeValue, value,
          skipSpace_append ha, skipSpace_cons (c := '\x7d') rfl]
      | cons e' entries =>
        simp only [List.map_cons, List.intercalate_cons_cons, List.append_assoc,
          List.length_append, List.length_cons, List.length_nil] at hf ih ⊢
        have rest : readEntries fuel _ = _ := ih (by simp) hb hs hr hw (by omega)
        have value := fun rest => hr₁ hw₁ fuel (by omega) (',' :: rest)
          (endsBefore_mark (by decide) e.value rest)
        rw [Entry.skipSpace_spelled hb₁.before, readEntries, readString_written]
        simp [bind, Except.bind, pure, Except.pure, skipSpace_append hb₁.afterName,
          skipSpace_cons (c := ':') rfl, hs₁.skipSpace_blank hb₁.beforeValue, value,
          skipSpace_cons (c := ',') rfl, rest]

lemma readValue_of_items {fuel : Nat} {cs rest : List Char} {vs : List Value}
    (head : ∀ rest, skipSpace cs ≠ ']' :: rest)
    (h : readItems fuel (skipSpace cs) = .ok (vs, rest)) :
    readValue (fuel + 1) ('[' :: cs) = .ok (.list vs, rest) := by
  rw [readValue]
  split
  case h_1 hend => exact absurd hend (head _)
  case h_2 =>
    rw [h]
    rfl

lemma readValue_of_entries {fuel : Nat} {cs rest : List Char} {es : List (Scalar × Value)}
    (head : ∀ rest, skipSpace cs ≠ '\x7d' :: rest)
    (h : readEntries fuel (skipSpace cs) = .ok (es, rest)) :
    readValue (fuel + 1) ('\x7b' :: cs) = .ok (.map (mergeKeys es), rest) := by
  rw [readValue]
  split
  case h_1 hend => exact absurd hend (head _)
  case h_2 =>
    rw [h]
    rfl

lemma exists_intercalate_cons (sep cs : List Char) (css : List (List Char)) :
    ∃ rest, sep.intercalate (cs :: css) = cs ++ rest := by
  cases css with
  | nil => exact ⟨[], by simp⟩
  | cons cs' css => exact ⟨_, by rw [List.intercalate_cons_cons, List.append_assoc]⟩

/-- Every spelling is read as its value: by induction on the spelling, with as much fuel as there
are characters. -/
theorem Spells.isRead (h : Spells cs v) : IsRead cs v := by
  induction h with
  | word h => exact isRead_word h
  | text style s => exact isRead_text style s
  | nat n => exact isRead_nat n
  | @emptyList blank hb =>
    rintro - (_ | fuel) hf rest -
    · simp at hf
    · rw [List.cons_append, List.append_assoc, readValue, skipSpace_append hb]
      rfl
  | @list items after hne hb ha h ih =>
    rintro hw (_ | fuel) hf rest -
    · simp at hf
    have writable : ∀ i ∈ items, i.value.isWritable = true :=
      List.forall_mem_map.1 (Value.areWritable_iff.1 hw)
    rw [List.cons_append, List.append_assoc, List.append_assoc]
    refine readValue_of_items (fun rest' hend => ?_) (readItems_spelled hne hb ha h ih writable ?_ rest)
    · obtain ⟨i, items, rfl⟩ := List.exists_cons_of_ne_nil hne
      obtain ⟨more, hmore⟩ := exists_intercalate_cons [','] i.spelled (items.map (·.spelled))
      obtain ⟨c, text, htext, -, hc, -⟩ := (h i (by simp)).exists_cons
      rw [List.map_cons, hmore, Item.spelled, List.append_assoc, List.append_assoc,
        (h i (by simp)).skipSpace_blank (hb i (by simp)), htext] at hend
      exact hc (List.cons.inj hend).1
    · simp only [List.length_cons, List.length_append] at hf ⊢
      omega
  | @emptyMap blank hb =>
    rintro - (_ | fuel) hf rest -
    · simp at hf
    · rw [List.cons_append, List.append_assoc, readValue, skipSpace_append hb]
      rfl
  | @map entries after hne hb ha hn h ih =>
    rintro hw (_ | fuel) hf rest -
    · simp at hf
    have writable : ∀ e ∈ entries, e.value.isWritable = true :=
      fun e he => (List.forall_mem_map.1 (Value.entriesWritable_iff.1 hw) e he).2
    have names : ((entries.map fun e => (Scalar.text e.name, e.value)).map (·.1)).Pairwise
        fun k k' => k.same k' = false := by
      have := pairwise_text hn
      rw [List.map_map] at this ⊢
      exact this
    rw [List.cons_append, List.append_assoc, List.append_assoc, ← mergeKeys_eq_self names]
    refine readValue_of_entries (fun rest' hend => ?_) (readEntries_spelled hne hb ha h ih writable ?_ rest)
    · obtain ⟨e, entries, rfl⟩ := List.exists_cons_of_ne_nil hne
      obtain ⟨more, hmore⟩ := exists_intercalate_cons [','] e.spelled (entries.map (·.spelled))
      rw [List.map_cons, hmore, List.append_assoc,
        Entry.skipSpace_spelled (hb e (by simp)).before] at hend
      simp at hend
    · simp only [List.length_cons, List.length_append] at hf ⊢
      omega

/-- A text that is a spelling with blanks after it is read as the value. -/
lemma Spells.read_eq {s : String} {blank : List Char} (h : Spells cs v)
    (hw : v.isWritable = true) (hb : IsBlank blank) (hs : s.toList = cs ++ blank) :
    read s = .ok v := by
  have value := h.isRead hw ((cs ++ blank).length + 1) (by simp; omega) blank
    (endsBefore_of_isBlank hb v)
  have rest : skipSpace blank = [] := by
    rw [← List.append_nil blank, skipSpace_append hb]
    rfl
  have all : readAll (cs ++ blank) = .ok v := by
    obtain ⟨c, cs, rfl, hc, -, hmark⟩ := h.exists_cons
    rw [List.cons_append] at value ⊢
    rw [readAll, skipSpace_cons hc, value]
    · simp [bind, Except.bind, rest, pure, Except.pure]
    · intro cs' heq
      exact hmark (List.cons.inj heq).1
  rw [read, hs, all]

/-! ### What is written -/

/-- A value is made of what is written as itself: words and texts, and lists and maps of them, where
the names of a map are all different. -/
inductive IsPlain : Value → Prop
  | null : IsPlain .null
  | bool (b : Bool) : IsPlain (.bool b)
  | text (s : String) : IsPlain (.text s)
  | list {items : List Value} (h : ∀ v ∈ items, IsPlain v) : IsPlain (.list items)
  | map {fields : List (String × Value)} (hn : (fields.map (·.1)).Nodup)
      (h : ∀ f ∈ fields, IsPlain f.2) : IsPlain (.ofFields fields)

lemma writeItems_eq_map (style : Style) (level : Nat) (items : List Value) :
    writeItems style level items = items.map (writeAt style level) := by
  induction items with
  | nil => rfl
  | cons v vs ih => rw [writeItems, ih, List.map_cons]

lemma writeEntries_fields (style : Style) (level : Nat) (fields : List (String × Value)) :
    writeEntries style level (fields.map fun f => (.text f.1, f.2))
      = fields.map fun f => writeString style f.1 ++ ": " ++ writeAt style level f.2 := by
  induction fields with
  | nil => rfl
  | cons f fs ih =>
    rw [List.map_cons, writeEntries, ih, List.map_cons]
    rfl

/-- Parts are written with the same blanks after each comma. -/
lemma toList_bracket (style : Style) (level : Nat) (opening closing : String) (parts : List String)
    (hne : parts ≠ []) : ∃ lead gap after, IsBlank lead ∧ IsBlank gap ∧ IsBlank after ∧
      (bracket style level opening closing parts).toList = opening.toList ++ (lead
        ++ (',' :: gap).intercalate (parts.map String.toList) ++ (after ++ closing.toList)) := by
  have some : parts.isEmpty = false := by simpa using hne
  by_cases hi : style.indented = true
  · have line (n : Nat) : IsBlank ('\n' :: List.replicate n ' ') := by
      intro c hc
      rcases List.mem_cons.1 hc with rfl | hc
      · rfl
      · rw [List.eq_of_mem_replicate hc]
        rfl
    refine ⟨_, _, _, line (2 * (level + 1)), line (2 * (level + 1)), line (2 * level), ?_⟩
    simp [bracket, some, hi, String.toList_intercalate]
  · refine ⟨[], [' '], [], isBlank_nil, by simp [IsBlank, isSpace], isBlank_nil, ?_⟩
    simp [bracket, some, hi, String.toList_intercalate]

/-- Blanks after the commas are blanks before the parts. -/
lemma append_intercalate (lead gap cs : List Char) (css : List (List Char)) :
    lead ++ (',' :: gap).intercalate (cs :: css)
      = [','].intercalate ((lead ++ cs) :: css.map (gap ++ ·)) := by
  induction css generalizing lead cs with
  | nil => simp
  | cons cs' css ih =>
    rw [List.intercalate_cons_cons, List.map_cons, List.intercalate_cons_cons, ← ih gap cs']
    simp

section Parts

variable {lead gap after : List Char}

/-- Items with the same blanks after each comma spell a list. -/
lemma spells_items (hl : IsBlank lead) (hg : IsBlank gap) (ha : IsBlank after)
    (written : Value → List Char) {v : Value} {vs : List Value}
    (h : ∀ v' ∈ v :: vs, Spells (written v') v') :
    Spells ('[' :: (lead ++ (',' :: gap).intercalate ((v :: vs).map written) ++ (after ++ [']'])))
      (.list (v :: vs)) := by
  let item (before : List Char) (v : Value) : Item := ⟨before, written v, v⟩
  let items := item lead v :: vs.map (item gap)
  have blank : ∀ i ∈ items, IsBlank i.before := by
    simp [items, item, hl, hg]
  have spells : ∀ i ∈ items, Spells i.text i.value := by
    obtain ⟨hv, hvs⟩ := List.forall_mem_cons.1 h
    refine List.forall_mem_cons.2 ⟨hv, fun i hi => ?_⟩
    obtain ⟨v', hv', rfl⟩ := List.mem_map.1 hi
    exact hvs v' hv'
  have list := Spells.list (List.cons_ne_nil _ _) blank ha spells
  rw [List.map_cons, append_intercalate]
  simpa [items, item, Item.spelled, Function.comp_def] using list

/-- Entries with the same blanks after each comma spell a map. -/
lemma spells_fields (hl : IsBlank lead) (hg : IsBlank gap) (ha : IsBlank after) (style : Style)
    (written : Value → List Char) {f : String × Value} {fs : List (String × Value)}
    (hn : ((f :: fs).map (·.1)).Nodup) (h : ∀ f' ∈ f :: fs, Spells (written f'.2) f'.2) :
    Spells ('\x7b' :: (lead ++ (',' :: gap).intercalate ((f :: fs).map fun f =>
        (writeString style f.1).toList ++ ':' :: ' ' :: written f.2) ++ (after ++ ['\x7d'])))
      (.ofFields (f :: fs)) := by
  let entry (before : List Char) (f : String × Value) : Entry :=
    ⟨before, f.1, style, [], [' '], written f.2, f.2⟩
  let entries := entry lead f :: fs.map (entry gap)
  have spaced (before : List Char) (hb : IsBlank before) (f : String × Value) :
      (entry before f).IsSpaced := ⟨hb, isBlank_nil, by simp [IsBlank, isSpace, entry]⟩
  have blank : ∀ e ∈ entries, e.IsSpaced := by
    refine List.forall_mem_cons.2 ⟨spaced lead hl f, fun e he => ?_⟩
    obtain ⟨f', -, rfl⟩ := List.mem_map.1 he
    exact spaced gap hg f'
  have spells : ∀ e ∈ entries, Spells e.text e.value := by
    obtain ⟨hf, hfs⟩ := List.forall_mem_cons.1 h
    refine List.forall_mem_cons.2 ⟨hf, fun e he => ?_⟩
    obtain ⟨f', hf', rfl⟩ := List.mem_map.1 he
    exact hfs f' hf'
  have names : (entries.map (·.name)).Nodup := by
    simpa [entries, entry, Function.comp_def] using hn
  have map := Spells.map (List.cons_ne_nil _ _) blank ha names spells
  rw [List.map_cons, append_intercalate]
  simpa [entries, entry, Entry.spelled, Value.ofFields, Function.comp_def] using map

end Parts

/-- A map is spelled by what is written of it if its values are. -/
lemma spells_writeAt_ofFields (style : Style) (level : Nat) {fields : List (String × Value)}
    (hn : (fields.map (·.1)).Nodup)
    (h : ∀ f ∈ fields, Spells (writeAt style (level + 1) f.2).toList f.2) :
    Spells (writeAt style level (.ofFields fields)).toList (.ofFields fields) := by
  rw [Value.ofFields, writeAt, writeEntries_fields]
  cases fields with
  | nil => simpa [bracket] using Spells.emptyMap isBlank_nil
  | cons f fs =>
    obtain ⟨lead, gap, after, hl, hg, ha, htext⟩ := toList_bracket style level "\x7b" "\x7d"
      ((f :: fs).map fun f => writeString style f.1 ++ ": " ++ writeAt style (level + 1) f.2)
      (by simp)
    have spells := spells_fields hl hg ha style
      (fun v => (writeAt style (level + 1) v).toList) hn h
    rw [htext, List.map_map]
    simpa [Value.ofFields, Function.comp_def] using spells

/-- A natural number is spelled by its digits. -/
lemma spells_writeAt_nat (style : Style) (level n : Nat) :
    Spells (writeAt style level (.int n)).toList (.int n) := by
  have digits : (writeAt style level (.int n)).toList = Nat.toDigits 10 n := Nat.toList_repr
  rw [digits]
  exact .nat n

/-- What is written of a plain value spells it, in every style and at every level. -/
theorem spells_writeAt (style : Style) (level : Nat) (h : IsPlain v) :
    Spells (writeAt style level v).toList v := by
  induction h generalizing level with
  | null => exact .word (w := ("null", .null)) (by simp [plainWords])
  | bool b =>
    cases b with
    | true => exact .word (w := ("true", .bool true)) (by simp [plainWords])
    | false => exact .word (w := ("false", .bool false)) (by simp [plainWords])
  | text s => exact .text style s
  | @list items _ ih =>
    rw [writeAt, writeItems_eq_map]
    cases items with
    | nil => simpa [bracket] using Spells.emptyList isBlank_nil
    | cons v vs =>
      obtain ⟨lead, gap, after, hl, hg, ha, htext⟩ := toList_bracket style level "[" "]"
        ((v :: vs).map (writeAt style (level + 1))) (by simp)
      rw [htext, List.map_map]
      exact spells_items hl hg ha (String.toList ∘ writeAt style (level + 1))
        fun v' hv' => ih v' hv' (level + 1)
  | @map fields hn _ ih =>
    exact spells_writeAt_ofFields style level hn fun f hf => ih f hf (level + 1)

/-- A plain value has a text. -/
lemma IsPlain.isWritable (h : IsPlain v) : v.isWritable = true := by
  induction h with
  | null | bool | text => rfl
  | list _ ih => exact Value.areWritable_iff.2 ih
  | map _ _ ih => exact Value.isWritable_ofFields_iff.2 ih

/-- A plain value is no number. -/
lemma IsPlain.endsBefore (h : IsPlain v) (rest : List Char) : EndsBefore v rest := by
  refine endsBefore_of_ne (fun n hn => ?_) rest
  subst hn
  cases h

end ApiBridge.Json
