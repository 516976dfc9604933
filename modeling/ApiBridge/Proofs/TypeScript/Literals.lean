import ApiBridge.Proofs.Json.Spelling
import ApiBridge.TypeScript.Literal
import Mathlib.Data.List.DropRight

/-!
# Keys and string literals

A text is spelled in source text as a string literal, on one line, that is read back to the text.
Every quote inside it is escaped, so the literal ends at its closing quote and not before. The key
of a property stands for itself where it is an identifier. An identifier with a line feed at its end
is taken for one as well, and there it is the identifier that names the property.
-/

namespace ApiBridge.Literal

open Json (writtenChar charEscape readString)

/-! ### Runs of characters -/

/-- The characters do not start with one that carries on a run. -/
def Stops (p : Char → Bool) (cs : List Char) : Prop :=
  ∀ c rest, cs = c :: rest → p c = false

section Runs

variable {p : Char → Bool} {run run' rest rest' : List Char}

lemma stops_cons {c : Char} (h : p c = false) (cs : List Char) : Stops p (c :: cs) := by
  rintro d rest ⟨⟩
  exact h

lemma takeWhile_run (h : ∀ c ∈ run, p c = true) (hs : Stops p rest) :
    (run ++ rest).takeWhile p = run := by
  rw [List.takeWhile_append_of_pos h]
  cases rest with
  | nil => simp
  | cons c rest => simp [hs c rest rfl]

lemma dropWhile_run (h : ∀ c ∈ run, p c = true) (hs : Stops p rest) :
    (run ++ rest).dropWhile p = rest := by
  have whole : (run ++ rest).takeWhile p ++ (run ++ rest).dropWhile p = run ++ rest :=
    List.takeWhile_append_dropWhile
  rw [takeWhile_run h hs] at whole
  exact List.append_cancel_left whole

/-- A run ends where it is not carried on. -/
lemma run_inj (h : ∀ c ∈ run, p c = true) (h' : ∀ c ∈ run', p c = true) (hs : Stops p rest)
    (hs' : Stops p rest') (heq : run ++ rest = run' ++ rest') : run = run' ∧ rest = rest' := by
  have same : run = run' := by
    rw [← takeWhile_run h hs, heq, takeWhile_run h' hs']
  subst same
  exact ⟨rfl, List.append_cancel_left heq⟩

end Runs

/-! ### Characters of a literal -/

/-- A character ends a line of source text. -/
def IsLineTerminator (c : Char) : Prop :=
  c = '\n' ∨ c = '\r' ∨ c = '\u2028' ∨ c = '\u2029'

/-- A character as it stands in a string literal. -/
def literalChar (c : Char) : List Char :=
  (writtenChar .compact c).flatMap escapeSeparator

lemma digitChar_lt {n : Nat} (h : n < 16) : n.digitChar.toNat < 0x80 := by
  interval_cases n
  all_goals decide

lemma lt_of_mem_charEscape {c d : Char} (hd : d ∈ charEscape c) : d.toNat < 0x80 := by
  rcases Json.mem_charEscape hd with rfl | rfl | ⟨n, hn, rfl⟩
  · decide
  · decide
  · exact digitChar_lt hn

/-- What is not written as it is, is written in ASCII. -/
lemma writtenChar_compact (c : Char) :
    writtenChar .compact c = [c] ∨ ∀ d ∈ writtenChar .compact c, d.toNat < 0x80 := by
  unfold writtenChar
  split
  case h_8 =>
    split
    case isTrue => exact .inr fun d hd => lt_of_mem_charEscape hd
    case isFalse => exact .inl rfl
  all_goals
    refine .inr fun d hd => ?_
    simp only [List.mem_cons, List.not_mem_nil, or_false] at hd
    rcases hd with rfl | rfl <;> decide

lemma ne_separator_of_lt {c : Char} (h : c.toNat < 0x80) : c ≠ '\u2028' ∧ c ≠ '\u2029' := by
  constructor <;> rintro rfl <;> exact absurd h (by decide)

lemma escapeSeparator_of_lt {c : Char} (h : c.toNat < 0x80) : escapeSeparator c = [c] := by
  obtain ⟨line, paragraph⟩ := ne_separator_of_lt h
  rw [escapeSeparator, if_neg line, if_neg paragraph]

/-- A separator is escaped by its code, and all other characters are written as in JSON. -/
lemma literalChar_eq (c : Char) :
    literalChar c = charEscape c ∨
      literalChar c = writtenChar .compact c ∧ c ≠ '\u2028' ∧ c ≠ '\u2029' := by
  by_cases first : c = '\u2028'
  · subst first
    exact .inl (by decide)
  by_cases second : c = '\u2029'
  · subst second
    exact .inl (by decide)
  refine .inr ⟨?_, first, second⟩
  rw [literalChar]
  rcases writtenChar_compact c with h | h
  · simp [h, escapeSeparator, first, second]
  · rw [List.flatMap_congr fun d hd => escapeSeparator_of_lt (h d hd), List.flatMap_singleton']

/-- A character of a literal is read back. -/
lemma readString_literalChar {string done rest : List Char} (c next : Char) :
    readString string done (literalChar c ++ next :: rest)
      = readString string (c :: done) (next :: rest) := by
  rcases literalChar_eq c with h | ⟨h, -⟩
  · rw [h]
    exact Json.readString_charEscape c next
  · rw [h]
    exact Json.readString_writtenChar .compact c next

lemma literalChar_ne_nil (c : Char) : literalChar c ≠ [] := by
  intro h
  have same : readString [] [] (literalChar c ++ ['"']) = readString [] [c] ['"'] :=
    readString_literalChar c '"'
  simp [h, readString] at same

/-- A literal holds no control characters and no separators. -/
lemma printable_of_mem_literalChar {c d : Char} (hd : d ∈ literalChar c) :
    0x20 ≤ d.toNat ∧ d ≠ '\u2028' ∧ d ≠ '\u2029' := by
  rcases literalChar_eq c with h | ⟨h, separators⟩
  · rw [h] at hd
    exact ⟨Json.le_of_mem_charEscape hd, ne_separator_of_lt (lt_of_mem_charEscape hd)⟩
  · rw [h] at hd
    refine ⟨Json.le_of_mem_writtenChar hd, ?_⟩
    rcases writtenChar_compact c with hself | hascii
    · rw [hself, List.mem_singleton] at hd
      exact hd ▸ separators
    · exact ne_separator_of_lt (hascii d hd)

/-- No character of a literal ends a line. -/
lemma not_isLineTerminator_of_mem_literalChar {c d : Char} (hd : d ∈ literalChar c) :
    ¬IsLineTerminator d := by
  have printable := printable_of_mem_literalChar hd
  rintro (rfl | rfl | rfl | rfl)
  all_goals exact absurd printable (by decide)

/-! ### Literals -/

lemma toList_ofText (s : String) :
    (ofText s).toList = '"' :: (s.toList.flatMap literalChar ++ ['"']) := by
  have quote : escapeSeparator '"' = ['"'] := by decide
  simp only [ofText, Json.toList_writeString, String.toList_ofList, List.flatMap_cons, quote,
    List.flatMap_append, List.flatMap_nil, List.append_nil, List.flatMap_assoc,
    List.singleton_append]
  rfl

/-- What stands in a literal is read up to the closing quote. -/
lemma readString_literal {string rest : List Char} (s : String) :
    readString string [] (s.toList.flatMap literalChar ++ '"' :: rest) = .ok (s, rest) := by
  rw [Json.readString_flatMap fun _ _ => readString_literalChar, List.reverse_nil, List.nil_append,
    String.ofList_toList]

/-- A literal ends at its closing quote, and is that of one text. -/
lemma ofText_append_inj {s t : String} {rest rest' : List Char}
    (h : (ofText s).toList ++ rest = (ofText t).toList ++ rest') : s = t ∧ rest = rest' := by
  simp only [toList_ofText, List.cons_append, List.append_assoc, List.nil_append] at h
  have read := congrArg (readString [] []) (List.cons.inj h).2
  rw [readString_literal, readString_literal] at read
  simpa using read

/-- A literal is read back to its text. -/
lemma read_ofText (s : String) : Json.read (ofText s) = .ok (.text s) := by
  have all : Json.readAll (ofText s).toList = .ok (.text s) := by
    rw [toList_ofText, Json.readAll, Json.skipSpace_cons (by decide), Json.readValue,
      readString_literal]
    · rfl
    · simp
  rw [Json.read, all]

lemma not_isLineTerminator_of_mem_ofText {s : String} {c : Char} (hc : c ∈ (ofText s).toList) :
    ¬IsLineTerminator c := by
  have quote : ¬IsLineTerminator '"' := by simp [IsLineTerminator]
  rw [toList_ofText, List.mem_cons, List.mem_append, List.mem_singleton, List.mem_flatMap] at hc
  rcases hc with rfl | ⟨d, -, hc⟩ | rfl
  · exact quote
  · exact not_isLineTerminator_of_mem_literalChar hc
  · exact quote

lemma length_le_flatMap_literalChar (cs : List Char) :
    cs.length ≤ (cs.flatMap literalChar).length := by
  induction cs with
  | nil => rfl
  | cons c cs ih =>
    have positive : 0 < (literalChar c).length := List.length_pos_iff.2 (literalChar_ne_nil c)
    rw [List.flatMap_cons, List.length_append, List.length_cons]
    omega

/-- A literal is longer than its text. -/
lemma ofText_ne (s : String) : ofText s ≠ s := by
  intro h
  have length := congrArg List.length (toList_ofText s)
  rw [h, List.length_cons, List.length_append, List.length_singleton] at length
  have longer := length_le_flatMap_literalChar s.toList
  omega

/-! ### Quotes inside literals -/

/-- What follows the characters is escaped: the backslashes right before it are odd in number. -/
def EscapesNext (before : List Char) : Prop :=
  (before.rtakeWhile (· = '\\')).length % 2 = 1

lemma not_escapesNext_nil : ¬EscapesNext [] := by
  simp [EscapesNext]

/-- A backslash escapes what follows it, unless it is escaped itself. -/
lemma escapesNext_concat {before : List Char} {c : Char} :
    EscapesNext (before ++ [c]) ↔ c = '\\' ∧ ¬EscapesNext before := by
  rw [EscapesNext, EscapesNext, List.rtakeWhile_concat]
  by_cases hc : c = '\\'
  · simp only [hc, decide_true, if_true, List.length_append, List.length_singleton, true_and]
    omega
  · simp [hc]

/-- Characters between two quotes in which every quote is escaped: a backslash takes the character
after it along, and no other character is a quote. -/
inductive IsEnclosed : List Char → Prop
  | nil : IsEnclosed []
  | plain {c : Char} {cs : List Char} (hq : c ≠ '"') (hb : c ≠ '\\') (h : IsEnclosed cs) :
    IsEnclosed (c :: cs)
  | escape (c : Char) {cs : List Char} (h : IsEnclosed cs) : IsEnclosed ('\\' :: c :: cs)

namespace IsEnclosed

variable {cs ds before after done : List Char}

lemma append (h : IsEnclosed cs) (h' : IsEnclosed ds) : IsEnclosed (cs ++ ds) := by
  induction h with
  | nil => exact h'
  | plain hq hb _ ih => exact .plain hq hb ih
  | escape c _ ih => exact .escape c ih

lemma flatMap {write : Char → List Char} (h : ∀ c, IsEnclosed (write c)) (cs : List Char) :
    IsEnclosed (cs.flatMap write) := by
  induction cs with
  | nil => exact .nil
  | cons c cs ih => exact (h c).append ih

/-- After characters that leave the next one alone, every quote is escaped and the end is not. -/
lemma escapesNext (h : IsEnclosed cs) (hd : ¬EscapesNext done) :
    (∀ before after, cs = before ++ '"' :: after → EscapesNext (done ++ before)) ∧
      ¬EscapesNext (done ++ cs) := by
  induction h generalizing done with
  | nil => simpa using hd
  | @plain c cs hq hb _ ih =>
    have next : ¬EscapesNext (done ++ [c]) := fun h => hb (escapesNext_concat.1 h).1
    obtain ⟨quotes, stop⟩ := ih next
    rw [List.append_assoc, List.singleton_append] at stop
    refine ⟨?_, stop⟩
    intro before after heq
    cases before with
    | nil => exact absurd (List.cons.inj heq).1 hq
    | cons b before =>
      rw [List.cons_append, List.cons.injEq] at heq
      obtain ⟨rfl, heq⟩ := heq
      simpa using quotes before after heq
  | @escape c cs _ ih =>
    have first : EscapesNext (done ++ ['\\']) := escapesNext_concat.2 ⟨rfl, hd⟩
    have next : ¬EscapesNext (done ++ ['\\'] ++ [c]) := fun h => (escapesNext_concat.1 h).2 first
    obtain ⟨quotes, stop⟩ := ih next
    refine ⟨?_, by simpa using stop⟩
    intro before after heq
    match before with
    | [] => exact absurd (List.cons.inj heq).1 (by decide)
    | [b] =>
      rw [List.cons_append, List.cons.injEq] at heq
      exact heq.1 ▸ first
    | b :: d :: before =>
      simp only [List.cons_append, List.cons.injEq] at heq
      obtain ⟨rfl, rfl, heq⟩ := heq
      simpa using quotes before after heq

end IsEnclosed

/-- A hexadecimal digit is no other character. -/
lemma digitChar_ne {n : Nat} (h : n < 16) {c : Char} (hc : Json.hexValue? c = none) :
    n.digitChar ≠ c := by
  rintro rfl
  simp [Json.hexValue?_digitChar h] at hc

lemma isEnclosed_codeEscape {n : Nat} (h : n < 0x10000) : IsEnclosed (Json.codeEscape n) := by
  have digit {d : Nat} (hd : d < 16) {cs : List Char} (h : IsEnclosed cs) :
      IsEnclosed (d.digitChar :: cs) :=
    .plain (digitChar_ne hd (by decide)) (digitChar_ne hd (by decide)) h
  rw [Json.codeEscape, Text.hex_four h]
  exact .escape 'u' (digit (by omega) (digit (Nat.mod_lt _ (by decide))
    (digit (Nat.mod_lt _ (by decide)) (digit (Nat.mod_lt _ (by decide)) .nil))))

lemma isEnclosed_charEscape (c : Char) : IsEnclosed (charEscape c) := by
  have valid : c.toNat < 0xd800 ∨ 0xdfff < c.toNat ∧ c.toNat < 0x110000 := c.valid
  rw [charEscape]
  split
  case isTrue h => exact isEnclosed_codeEscape h
  case isFalse => exact (isEnclosed_codeEscape (by omega)).append (isEnclosed_codeEscape (by omega))

lemma isEnclosed_writtenChar (style : Json.Style) (c : Char) :
    IsEnclosed (writtenChar style c) := by
  unfold writtenChar
  split
  case h_8 hquote hbackslash _ _ _ _ _ =>
    split
    case isTrue => exact isEnclosed_charEscape c
    case isFalse => exact .plain hquote hbackslash .nil
  all_goals exact .escape _ .nil

lemma isEnclosed_literalChar (c : Char) : IsEnclosed (literalChar c) := by
  rcases literalChar_eq c with h | ⟨h, -⟩
  · rw [h]
    exact isEnclosed_charEscape c
  · rw [h]
    exact isEnclosed_writtenChar .compact c

/-- A text is spelled between two quotes. Every quote between them is escaped and the closing one is
not, no control character and no line or paragraph separator stands there, and the literal is read
back to the text. -/
theorem ofText_encloses (s : String) : ∃ body, (ofText s).toList = '"' :: (body ++ ['"']) ∧
    (∀ before after, body = before ++ '"' :: after → EscapesNext before) ∧ ¬EscapesNext body ∧
    (∀ c ∈ body, 0x20 ≤ c.toNat ∧ c ≠ '\u2028' ∧ c ≠ '\u2029') ∧
    Json.read (ofText s) = .ok (.text s) := by
  have enclosed : IsEnclosed (s.toList.flatMap literalChar) := .flatMap isEnclosed_literalChar _
  obtain ⟨quotes, stop⟩ := enclosed.escapesNext not_escapesNext_nil
  refine ⟨s.toList.flatMap literalChar, toList_ofText s, quotes, stop, ?_, read_ofText s⟩
  intro c hc
  obtain ⟨d, -, hc⟩ := List.mem_flatMap.1 hc
  exact printable_of_mem_literalChar hc

/-! ### Identifiers -/

/-- A character can start an identifier: a letter, an underscore or a dollar sign. -/
def StartsIdentifier (c : Char) : Prop :=
  'A' ≤ c ∧ c ≤ 'Z' ∨ 'a' ≤ c ∧ c ≤ 'z' ∨ c = '_' ∨ c = '$'

/-- A character can stand in an identifier: one that can start it, or a digit. -/
def ContinuesIdentifier (c : Char) : Prop :=
  StartsIdentifier c ∨ '0' ≤ c ∧ c ≤ '9'

/-- A text is an identifier. -/
inductive IsIdentifier : String → Prop
  | intro {c : Char} {cs : List Char} (hc : StartsIdentifier c)
      (hcs : ∀ d ∈ cs, ContinuesIdentifier d) : IsIdentifier (String.ofList (c :: cs))

lemma startsKey_iff {c : Char} : startsKey c = true ↔ StartsIdentifier c := by
  have letter : c.isAlpha =
      (decide ('A' ≤ c ∧ c ≤ 'Z') || decide ('a' ≤ c) && decide (c ≤ 'z')) := rfl
  simp only [startsKey, StartsIdentifier, letter, Bool.or_eq_true, Bool.and_eq_true,
    decide_eq_true_eq, or_assoc]

lemma continuesKey_iff {c : Char} : continuesKey c = true ↔ ContinuesIdentifier c := by
  simp only [continuesKey, ContinuesIdentifier, ← startsKey_iff, startsKey, Char.isAlphanum,
    Char.isDigit, Char.le_def, Bool.or_eq_true, Bool.and_eq_true, decide_eq_true_eq]
  tauto

lemma isIdentifier_iff {s : String} : IsIdentifier s ↔
    ∃ c rest, s.toList = c :: rest ∧ startsKey c = true ∧ rest.all continuesKey = true := by
  simp only [startsKey_iff, List.all_eq_true, continuesKey_iff]
  constructor
  · rintro ⟨hc, hcs⟩
    exact ⟨_, _, String.toList_ofList, hc, hcs⟩
  · rintro ⟨c, rest, hs, hc, hrest⟩
    rw [← String.ofList_toList (s := s), hs]
    exact .intro hc hrest

instance (s : String) : Decidable (IsIdentifier s) :=
  decidable_of_iff
    ((match s.toList with
      | [] => false
      | c :: rest => startsKey c && rest.all continuesKey) = true) <| by
    rw [isIdentifier_iff]
    cases s.toList <;> simp

lemma continuesKey_of_startsKey {c : Char} (h : startsKey c = true) : continuesKey c = true :=
  continuesKey_iff.2 (.inl (startsKey_iff.1 h))

namespace IsIdentifier

variable {name : String}

lemma continuesKey_of_mem (h : IsIdentifier name) {c : Char} (hc : c ∈ name.toList) :
    continuesKey c = true := by
  obtain ⟨d, rest, hname, hd, hrest⟩ := isIdentifier_iff.1 h
  rw [hname, List.mem_cons] at hc
  rcases hc with rfl | hc
  · exact continuesKey_of_startsKey hd
  · exact List.all_eq_true.1 hrest c hc

/-- No identifier starts with a quote. -/
lemma ne_quote (h : IsIdentifier name) (rest more : List Char) :
    name.toList ++ more ≠ '"' :: rest := by
  obtain ⟨c, cs, hname, hc, -⟩ := isIdentifier_iff.1 h
  rw [hname, List.cons_append]
  rintro heq
  obtain ⟨rfl, -⟩ := List.cons.inj heq
  exact absurd hc (by decide)

end IsIdentifier

/-- A key is a line with an identifier: a line feed follows the identifier, and nothing else. -/
def IsLineOf (name key : String) : Prop :=
  IsIdentifier name ∧ key = name ++ "\n"

/-- A key is bare where it is an identifier, with a line feed at its end or without. -/
lemma isBareKey_iff {key : String} :
    isBareKey key = true ↔ IsIdentifier key ∨ ∃ name, IsLineOf name key := by
  rw [isBareKey, isIdentifier_iff]
  constructor
  · intro h
    cases hkey : key.toList with
    | nil => simp [hkey, isBareChars] at h
    | cons c cs =>
      simp only [hkey, isBareChars, Bool.and_eq_true, Bool.or_eq_true, decide_eq_true_eq] at h
      obtain ⟨hc, hcs | ⟨hlast, hcs⟩⟩ := h
      · exact .inl ⟨c, cs, rfl, hc, hcs⟩
      · refine .inr ⟨String.ofList (c :: cs.dropLast), ?_, ?_⟩
        · exact isIdentifier_iff.2 ⟨c, _, String.toList_ofList, hc, hcs⟩
        · rw [← String.toList_inj, String.toList_append, String.toList_ofList, hkey,
            List.cons_append]
          exact congrArg _ (List.dropLast_append_getLast? _ hlast).symm
  · rintro (⟨c, rest, hkey, hc, hrest⟩ | ⟨name, hname, rfl⟩)
    · simp [hkey, isBareChars, hc, hrest]
    · obtain ⟨c, rest, hname, hc, hrest⟩ := isIdentifier_iff.1 hname
      simp [hname, isBareChars, hc, hrest]

lemma IsLineOf.unique {name other key : String} (h : IsLineOf name key) (h' : IsLineOf other key) :
    name = other := by
  have same : name ++ "\n" = other ++ "\n" := h.2.symm.trans h'.2
  simpa using same

/-- No identifier holds a line feed. -/
lemma IsLineOf.not_isIdentifier {name key : String} (h : IsLineOf name key) :
    ¬IsIdentifier key := by
  intro hkey
  have feed : '\n' ∈ key.toList := by simp [h.2]
  exact absurd (hkey.continuesKey_of_mem feed) (by decide)

/-! ### Keys -/

/-- A key in source text denotes the property of a name: the name itself, where it is an identifier,
with any blanks after it, or a literal that is read back to the name. -/
inductive Denotes : String → String → Prop
  | identifier {name : String} {blank : List Char} (h : IsIdentifier name)
      (hb : Json.IsBlank blank) : Denotes (name ++ String.ofList blank) name
  | literal {text name : String} {rest : List Char} (hq : text.toList = '"' :: rest)
      (h : Json.read text = .ok (.text name)) : Denotes text name

lemma stops_of_isBlank {blank : List Char} (h : Json.IsBlank blank) : Stops continuesKey blank := by
  rintro c rest rfl
  rcases Json.eq_of_isSpace (h c (by simp)) with rfl | rfl | rfl | rfl <;> decide

lemma denotes_identifier_iff {key name : String} {blank : List Char} (h : IsIdentifier key)
    (hb : Json.IsBlank blank) : Denotes (key ++ String.ofList blank) name ↔ name = key := by
  constructor
  · intro hd
    generalize htext : key ++ String.ofList blank = text at hd
    have chars : key.toList ++ blank = text.toList := by
      rw [← htext, String.toList_append, String.toList_ofList]
    cases hd with
    | @identifier name blank' h' hb' =>
      rw [String.toList_append, String.toList_ofList] at chars
      obtain ⟨same, -⟩ := run_inj (fun _ => h.continuesKey_of_mem) (fun _ => h'.continuesKey_of_mem)
        (stops_of_isBlank hb) (stops_of_isBlank hb') chars
      exact (String.toList_injective same).symm
    | literal hq => exact absurd (chars.trans hq) (h.ne_quote _ _)
  · rintro rfl
    exact .identifier h hb

lemma denotes_ofText_iff {s name : String} : Denotes (ofText s) name ↔ name = s := by
  constructor
  · intro hd
    generalize htext : ofText s = text at hd
    cases hd with
    | @identifier name blank h hb =>
      have chars := toList_ofText s
      rw [htext, String.toList_append] at chars
      exact absurd chars (h.ne_quote _ _)
    | literal hq h =>
      rw [← htext, read_ofText] at h
      simpa [Value.text, eq_comm] using h
  · rintro rfl
    exact .literal (toList_ofText name) (read_ofText name)

/-- What a key of a record denotes: an identifier with a line feed the identifier, and any other key
itself. -/
lemma denotes_ofKey_iff {key name : String} : Denotes (ofKey key) name ↔
    IsLineOf name key ∨ name = key ∧ ∀ other, ¬IsLineOf other key := by
  by_cases hbare : isBareKey key = true
  · rw [ofKey, if_pos hbare]
    rcases isBareKey_iff.1 hbare with hkey | ⟨line, hline⟩
    · have lines (other : String) (h : IsLineOf other key) : False := h.not_isIdentifier hkey
      have denoted : Denotes (key ++ String.ofList []) name ↔ name = key :=
        denotes_identifier_iff hkey Json.isBlank_nil
      rw [or_iff_right (lines name), and_iff_left lines]
      simpa using denoted
    · have feed : Json.IsBlank ['\n'] := by simp [Json.IsBlank, Json.isSpace]
      have denoted : Denotes (line ++ String.ofList ['\n']) name ↔ name = line :=
        denotes_identifier_iff hline.1 feed
      rw [or_iff_left fun h => h.2 line hline, hline.2]
      refine denoted.trans ⟨?_, fun h => ?_⟩
      · rintro rfl
        exact ⟨hline.1, rfl⟩
      · exact h.unique ⟨hline.1, rfl⟩
  · have lines (other : String) (h : IsLineOf other key) : False :=
      hbare (isBareKey_iff.2 (.inr ⟨other, h⟩))
    rw [ofKey, if_neg hbare, denotes_ofText_iff, or_iff_right (lines name), and_iff_left lines]

/-- A key stands for itself exactly when it is an identifier, with a line feed at its end or
without. All others become literals on one line that are read back to them. So each key denotes
itself, but for an identifier with a line feed: it denotes the identifier, as no other key does
besides the identifier itself. -/
theorem ofKey_denotes (key : String) :
    (ofKey key = key ↔ IsIdentifier key ∨ ∃ name, IsLineOf name key) ∧
    (ofKey key ≠ key → (∃ body, (ofKey key).toList = '"' :: (body ++ ['"'])) ∧
      (∀ c ∈ (ofKey key).toList, ¬IsLineTerminator c) ∧ Json.read (ofKey key) = .ok (.text key)) ∧
    (∀ name, Denotes (ofKey key) name ↔
      IsLineOf name key ∨ name = key ∧ ∀ other, ¬IsLineOf other key) ∧
    ∀ other, other ≠ key → ((∃ name, Denotes (ofKey key) name ∧ Denotes (ofKey other) name) ↔
      IsLineOf key other ∨ IsLineOf other key) := by
  have self : ofKey key = key ↔ isBareKey key = true := by
    rw [ofKey]
    split
    case isTrue h => exact iff_of_true rfl h
    case isFalse h => exact iff_of_false (ofText_ne key) h
  refine ⟨self.trans isBareKey_iff, fun hquoted => ?_, fun name => denotes_ofKey_iff,
    fun other hne => ⟨?_, ?_⟩⟩
  · rw [ofKey, if_neg (mt self.2 hquoted)]
    exact ⟨⟨_, toList_ofText key⟩, fun c => not_isLineTerminator_of_mem_ofText, read_ofText key⟩
  · rintro ⟨name, hkey, hother⟩
    rcases denotes_ofKey_iff.1 hkey with hkey | ⟨rfl, -⟩
    · rcases denotes_ofKey_iff.1 hother with hother | ⟨rfl, -⟩
      · exact absurd (hother.2.trans hkey.2.symm) hne
      · exact .inr hkey
    · rcases denotes_ofKey_iff.1 hother with hother | ⟨rfl, -⟩
      · exact .inl hother
      · exact absurd rfl hne
  · rintro (h | h)
    · exact ⟨key, denotes_ofKey_iff.2 (.inr ⟨rfl, fun _ hline => hline.not_isIdentifier h.1⟩),
        denotes_ofKey_iff.2 (.inl h)⟩
    · exact ⟨other, denotes_ofKey_iff.2 (.inl h),
        denotes_ofKey_iff.2 (.inr ⟨rfl, fun _ hline => hline.not_isIdentifier h.1⟩)⟩

/-- An identifier with a line feed stands as it is, and denotes the same property as the
identifier. -/
theorem ofKey_denotes_feed : ofKey "a\n" = "a\n" ∧ IsLineOf "a" "a\n" ∧
    ∃ name, Denotes (ofKey "a\n") name ∧ Denotes (ofKey "a") name := by
  obtain ⟨bare, -, -, same⟩ := ofKey_denotes "a\n"
  have line : IsLineOf "a" "a\n" := ⟨by decide, by decide⟩
  exact ⟨bare.2 (.inr ⟨"a", line⟩), line, (same "a" (by decide)).2 (.inr line)⟩

end ApiBridge.Literal
