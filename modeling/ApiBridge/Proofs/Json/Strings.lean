import ApiBridge.Json.Reader
import ApiBridge.Json.Writer
import Mathlib.Tactic.IntervalCases
import Mathlib.Tactic.Lemma

/-!
# Strings are read back

Whatever a style escapes in a string, a reader gives back the characters of the text: one lemma for
the digits of a code, one for each kind of escape, and one for each character of the text.
-/

namespace ApiBridge

/-! ### Hexadecimal digits -/

namespace Text

lemma hex_one {n : Nat} (h : n < 16) : hex 1 n = [n.digitChar] := by
  simp [hex, Nat.toDigits_of_lt_base h]

/-- One more digit stands for the remainder. -/
lemma hex_succ {width : Nat} (hw : 0 < width) (n : Nat) :
    hex (width + 1) n = hex width (n / 16) ++ [(n % 16).digitChar] := by
  by_cases h : n < 16
  · obtain ⟨width, rfl⟩ := Nat.exists_eq_add_of_le' hw
    have zero : n / 16 = 0 := Nat.div_eq_of_lt h
    simp [hex, Nat.toDigits_of_lt_base h, zero, Nat.mod_eq_of_lt h, List.replicate_succ']
  · simp [hex, Nat.toDigits_of_base_le (by decide) (Nat.le_of_not_lt h)]

lemma hex_four {n : Nat} (h : n < 0x10000) :
    hex 4 n = [(n / 0x1000).digitChar, (n / 0x100 % 16).digitChar, (n / 16 % 16).digitChar,
      (n % 16).digitChar] := by
  rw [hex_succ (by decide), hex_succ (by decide), hex_succ (by decide), hex_one (by omega)]
  simp [Nat.div_div_eq_div_mul]

end Text

namespace Json

lemma hexValue?_digitChar {d : Nat} (h : d < 16) : hexValue? d.digitChar = some d := by
  interval_cases d
  all_goals rfl

/-- The number of four digits is read back. -/
lemma hexCode?_digits {n : Nat} (h : n < 0x10000) :
    hexCode? (n / 0x1000).digitChar (n / 0x100 % 16).digitChar (n / 16 % 16).digitChar
      (n % 16).digitChar = some n := by
  rw [hexCode?, hexValue?_digitChar (by omega), hexValue?_digitChar (Nat.mod_lt _ (by decide)),
    hexValue?_digitChar (Nat.mod_lt _ (by decide)), hexValue?_digitChar (Nat.mod_lt _ (by decide))]
  refine congrArg some ?_
  omega

/-! ### Escapes -/

section Escapes

variable {string done cs rest : List Char} {a b c d e f g h next : Char} {n high low : Nat}

lemma readEscape_short (he : shortEscape? e = some c) :
    ∃ fewer, readEscape string (e :: cs) = .ok (c, ⟨cs, fewer⟩) := by
  have letter : e ≠ 'u' := by
    rintro rfl
    simp [shortEscape?] at he
  refine ⟨by simp, ?_⟩
  rw [readEscape]
  · simp [he]
  all_goals grind

/-- The code need not be a surrogate for more codes to follow. -/
lemma readEscape_code (code : hexCode? a b c d = some n) (hs : isHighSurrogate n = false) :
    ∃ fewer, readEscape string ('u' :: a :: b :: c :: d :: next :: rest)
      = .ok (charOfCode n, ⟨next :: rest, fewer⟩) := by
  refine ⟨by simp, ?_⟩
  by_cases follows : ∃ e f g h next' cs,
      next = '\\' ∧ rest = 'u' :: e :: f :: g :: h :: next' :: cs
  · obtain ⟨e, f, g, h, next', cs, rfl, rfl⟩ := follows
    simp only [readEscape, code, hs]
    rfl
  · rw [readEscape]
    · simp only [code]
      rfl
    · grind

lemma readEscape_surrogates (hc : hexCode? a b c d = some high) (hh : isHighSurrogate high = true)
    (lc : hexCode? e f g h = some low) (hl : isLowSurrogate low = true) :
    ∃ fewer, readEscape string
        ('u' :: a :: b :: c :: d :: '\\' :: 'u' :: e :: f :: g :: h :: next :: rest)
      = .ok (joinSurrogates high low, ⟨next :: rest, fewer⟩) := by
  refine ⟨by simp, ?_⟩
  simp only [readEscape, hc, hh, lc, hl]
  rfl

/-- An escape is read, and the string is read on. -/
lemma readString_of_escape
    (h : ∃ fewer, readEscape string cs = .ok (c, ⟨rest, fewer⟩)) :
    readString string done ('\\' :: cs) = readString string (c :: done) rest := by
  obtain ⟨fewer, h⟩ := h
  rw [readString, h]
  rfl

end Escapes

/-! ### Characters -/

variable {string done rest : List Char}

lemma isSurrogate_toNat (c : Char) :
    isHighSurrogate c.toNat = false ∧ isLowSurrogate c.toNat = false := by
  have valid : c.toNat < 0xd800 ∨ 0xdfff < c.toNat ∧ c.toNat < 0x110000 := c.valid
  simp only [isHighSurrogate, isLowSurrogate]
  grind

lemma charOfCode_toNat (c : Char) : charOfCode c.toNat = c := by
  simp [charOfCode, isSurrogate_toNat c]

lemma isHighSurrogate_add {n : Nat} (h : n < 0x400) : isHighSurrogate (0xd800 + n) = true := by
  rw [isHighSurrogate, Bool.and_eq_true, decide_eq_true_eq, decide_eq_true_eq]
  omega

lemma isLowSurrogate_add {n : Nat} (h : n < 0x400) : isLowSurrogate (0xdc00 + n) = true := by
  rw [isLowSurrogate, Bool.and_eq_true, decide_eq_true_eq, decide_eq_true_eq]
  omega

/-- A character beyond the codes of four digits is the one that its two surrogates stand for. -/
lemma joinSurrogates_toNat {c : Char} (h : 0x10000 ≤ c.toNat) :
    joinSurrogates (0xd800 + (c.toNat - 0x10000) / 0x400) (0xdc00 + (c.toNat - 0x10000) % 0x400)
      = c := by
  rw [joinSurrogates]
  calc Char.ofNat _
    _ = Char.ofNat c.toNat := by
      refine congrArg Char.ofNat ?_
      omega
    _ = c := Char.ofNat_toNat c

lemma readString_charEscape (c next : Char) :
    readString string done (charEscape c ++ next :: rest)
      = readString string (c :: done) (next :: rest) := by
  have valid : c.toNat < 0xd800 ∨ 0xdfff < c.toNat ∧ c.toNat < 0x110000 := c.valid
  by_cases h : c.toNat < 0x10000
  · simp only [charEscape, h, ↓reduceIte, codeEscape, Text.hex_four h]
    conv_rhs => rw [← charOfCode_toNat c]
    exact readString_of_escape (readEscape_code (hexCode?_digits h) (isSurrogate_toNat c).1)
  · have hhigh : 0xd800 + (c.toNat - 0x10000) / 0x400 < 0x10000 := by omega
    have hlow : 0xdc00 + (c.toNat - 0x10000) % 0x400 < 0x10000 := by omega
    simp only [charEscape, h, ↓reduceIte, codeEscape, Text.hex_four hhigh, Text.hex_four hlow]
    conv_rhs => rw [← joinSurrogates_toNat (Nat.le_of_not_lt h)]
    refine readString_of_escape (readEscape_surrogates (hexCode?_digits hhigh) ?_
      (hexCode?_digits hlow) ?_)
    · exact isHighSurrogate_add (by omega)
    · exact isLowSurrogate_add (Nat.mod_lt _ (by decide))

/-- A character is read back, whether it was escaped or not. -/
lemma readString_writtenChar (style : Style) (c next : Char) :
    readString string done (writtenChar style c ++ next :: rest)
      = readString string (c :: done) (next :: rest) := by
  unfold writtenChar
  split
  case h_8 hquote hbackslash _ _ _ _ _ =>
    split
    case isTrue => exact readString_charEscape c next
    case isFalse h =>
      simp only [Bool.or_eq_true, not_or, decide_eq_true_eq] at h
      rw [List.singleton_append, readString, if_neg h.1.1]
      · exact hquote
      · exact hbackslash
  all_goals exact readString_of_escape (readEscape_short rfl)

/-! ### Strings -/

/-- Where each character is read back from how it is written, so are all up to the closing quote. -/
lemma readString_flatMap {write : Char → List Char}
    (h : ∀ done rest c next, readString string done (write c ++ next :: rest)
      = readString string (c :: done) (next :: rest)) (cs : List Char) :
    readString string done (cs.flatMap write ++ '"' :: rest)
      = .ok (String.ofList (done.reverse ++ cs), rest) := by
  induction cs generalizing done with
  | nil => simp [readString]
  | cons c cs ih =>
    -- A code escape is read only where a character follows, here the next one or the quote.
    obtain ⟨next, after, hnext⟩ : ∃ next after, cs.flatMap write ++ '"' :: rest = next :: after :=
      List.exists_cons_of_ne_nil (by simp)
    rw [List.flatMap_cons, List.append_assoc, hnext, h, ← hnext, ih]
    simp

lemma readString_written (style : Style) (cs : List Char) :
    readString string done (cs.flatMap (writtenChar style) ++ '"' :: rest)
      = .ok (String.ofList (done.reverse ++ cs), rest) :=
  readString_flatMap (fun _ _ => readString_writtenChar style) cs

/-! ### Lines -/

/-- An escape is made of its marks and of hexadecimal digits. -/
lemma mem_charEscape {c d : Char} (hd : d ∈ charEscape c) :
    d = '\\' ∨ d = 'u' ∨ ∃ n < 16, d = n.digitChar := by
  have valid : c.toNat < 0xd800 ∨ 0xdfff < c.toNat ∧ c.toNat < 0x110000 := c.valid
  have code {n : Nat} (h : n < 0x10000) (hd : d ∈ codeEscape n) :
      d = '\\' ∨ d = 'u' ∨ ∃ n < 16, d = n.digitChar := by
    simp only [codeEscape, Text.hex_four h, List.mem_cons, List.not_mem_nil, or_false] at hd
    rcases hd with rfl | rfl | rfl | rfl | rfl | rfl
    · exact .inl rfl
    · exact .inr (.inl rfl)
    · exact .inr (.inr ⟨_, by omega, rfl⟩)
    · exact .inr (.inr ⟨_, Nat.mod_lt _ (by decide), rfl⟩)
    · exact .inr (.inr ⟨_, Nat.mod_lt _ (by decide), rfl⟩)
    · exact .inr (.inr ⟨_, Nat.mod_lt _ (by decide), rfl⟩)
  rw [charEscape] at hd
  split at hd
  case isTrue h => exact code h hd
  case isFalse =>
    rcases List.mem_append.1 hd with hd | hd
    · exact code (by omega) hd
    · exact code (by omega) hd

lemma le_digitChar {d : Nat} (h : d < 16) : 0x20 ≤ d.digitChar.toNat := by
  interval_cases d
  all_goals decide

lemma le_of_mem_charEscape {c d : Char} (hd : d ∈ charEscape c) : 0x20 ≤ d.toNat := by
  rcases mem_charEscape hd with rfl | rfl | ⟨n, hn, rfl⟩
  · decide
  · decide
  · exact le_digitChar hn

lemma le_of_mem_writtenChar {style : Style} {c d : Char} (hd : d ∈ writtenChar style c) :
    0x20 ≤ d.toNat := by
  unfold writtenChar at hd
  split at hd
  case h_8 =>
    split at hd
    case isTrue => exact le_of_mem_charEscape hd
    case isFalse h =>
      rw [List.mem_singleton.1 hd]
      simp only [Bool.or_eq_true, decide_eq_true_eq, not_or] at h
      exact UInt32.not_lt.1 h.1.1
  all_goals
    simp only [List.mem_cons, List.not_mem_nil, or_false] at hd
    rcases hd with rfl | rfl <;> decide

/-- No control character stands in a string that is written. -/
lemma control_not_mem_writeString (style : Style) (s : String) {c : Char} (hc : c.toNat < 0x20) :
    c ∉ (writeString style s).toList := by
  have quote : c ≠ '"' := by
    rintro rfl
    exact absurd hc (by decide)
  have char (d : Char) : c ∉ writtenChar style d := by
    intro hd
    exact absurd (le_of_mem_writtenChar hd) (Nat.not_le.2 hc)
  simp [writeString, char, quote]

/-- A string is written on one line. -/
lemma newline_not_mem_writeString (style : Style) (s : String) :
    '\n' ∉ (writeString style s).toList :=
  control_not_mem_writeString style s (by decide)

end Json

end ApiBridge
