import ApiBridge.Proofs.TypeScript.Distinct
import ApiBridge.Proofs.TypeScript.Literals
import ApiBridge.TypeScript.Compile
import ApiBridge.TypeScript.Source

/-!
# Source text loses nothing

An expression can be told from its source text. The start of the text tells the kind: a word, a
quote or a brace. What follows an expression cannot carry it on, so that the parts can be told apart
one after another: the values of a union, the members of a record and the items of a list.
-/

namespace ApiBridge

/-! ### Integers -/

namespace Literal

lemma toString_int_cases (n : Int) :
    (∃ m : Nat, n = m ∧ toString n = toString m) ∨
      ∃ m : Nat, n = -(m : Int) ∧ toString n = "-" ++ toString m := by
  cases n with
  | ofNat m => exact .inl ⟨m, rfl, rfl⟩
  | negSucc m => exact .inr ⟨m + 1, rfl, rfl⟩

lemma isDigit_of_mem_toString {n : Nat} {c : Char} (h : c ∈ (toString n).toList) :
    c.isDigit = true := by
  have digits : (toString n).toList = Nat.toDigits 10 n := Nat.toList_repr
  rw [digits] at h
  exact Nat.isDigit_of_mem_toDigits (by decide) (by decide) h

/-- An integer is written with a sign and digits. -/
lemma mem_toString_int {n : Int} {c : Char} (h : c ∈ (toString n).toList) :
    c = '-' ∨ c.isDigit = true := by
  rcases toString_int_cases n with ⟨m, -, hn⟩ | ⟨m, -, hn⟩
  · exact .inr (isDigit_of_mem_toString (hn ▸ h))
  · rw [hn, String.toList_append, List.mem_append] at h
    exact h.imp List.mem_singleton.1 isDigit_of_mem_toString

lemma toString_int_ne_nil (n : Int) : (toString n).toList ≠ [] := by
  have digits (m : Nat) : (toString m).toList ≠ [] := by
    have written : (toString m).toList = Nat.toDigits 10 m := Nat.toList_repr
    exact written ▸ Nat.toDigits_ne_nil
  rcases toString_int_cases n with ⟨m, -, hn⟩ | ⟨m, -, hn⟩
  · exact hn ▸ digits m
  · simp [hn]

lemma toString_int_injective : Function.Injective fun n : Int => toString n := by
  intro m n h
  have sign {a b : Nat} : toString a ≠ "-" ++ toString b := fun h => by
    have minus : '-' ∈ (toString a).toList := by simp [h]
    exact absurd (isDigit_of_mem_toString minus) (by decide)
  dsimp only at h
  rcases toString_int_cases m with ⟨a, rfl, hm⟩ | ⟨a, rfl, hm⟩
  all_goals
    rcases toString_int_cases n with ⟨b, rfl, hn⟩ | ⟨b, rfl, hn⟩
    all_goals rw [hm, hn] at h
  · exact congrArg Nat.cast (Name.append_toString_injective "" (congrArg ("" ++ ·) h))
  · exact absurd h sign
  · exact absurd h.symm sign
  · exact congrArg (fun k : Nat => -(k : Int)) (Name.append_toString_injective "-" h)

/-! ### Literals -/

/-- A value is spelled as a word: null, a truth value or an integer. -/
inductive IsWord : Value → Prop
  | null : IsWord .null
  | bool (b : Bool) : IsWord (.bool b)
  | int (n : Int) : IsWord (.int n)

/-- A value has a literal that tells its kind: it is a word or a text. -/
inductive IsLegible : Value → Prop
  | word {v : Value} (h : IsWord v) : IsLegible v
  | text (s : String) : IsLegible (.text s)

/-- Does the character carry on a word? -/
def carriesWord (c : Char) : Bool :=
  continuesKey c || c = '-'

variable {v w : Value} {rest rest' : List Char}

lemma IsWord.carriesWord_of_mem (h : IsWord v) {c : Char} (hc : c ∈ (ofValue v).toList) :
    carriesWord c = true := by
  cases h with
  | null =>
    have all : "null".toList.all carriesWord = true := by decide
    exact List.all_eq_true.1 all c hc
  | bool b =>
    have all : (if b then "true" else "false").toList.all carriesWord = true := by
      cases b <;> decide
    exact List.all_eq_true.1 all c hc
  | int n =>
    rcases mem_toString_int hc with rfl | hdigit
    · decide
    · simp [carriesWord, continuesKey, Char.isAlphanum, hdigit]

lemma IsWord.toList_ne_nil (h : IsWord v) : (ofValue v).toList ≠ [] := by
  cases h with
  | null => decide
  | bool b => cases b <;> decide
  | int n => exact toString_int_ne_nil n

/-- No letter stands in an integer. -/
lemma ne_toString_int {s : String} {n : Int} {c : Char} (hc : c ∈ s.toList)
    (h : c ≠ '-' ∧ c.isDigit = false) : s ≠ toString n := by
  rintro rfl
  rcases mem_toString_int hc with hc | hc
  · exact h.1 hc
  · rw [h.2] at hc
    cases hc

/-- A word is that of one value. -/
lemma IsWord.inj (hv : IsWord v) (hw : IsWord w) (h : ofValue v = ofValue w) : v = w := by
  have null (n : Int) : "null" ≠ toString n := ne_toString_int (c := 'n') (by decide) (by decide)
  have bool (b : Bool) (n : Int) : (if b then "true" else "false") ≠ toString n :=
    ne_toString_int (c := 'e') (by cases b <;> decide) (by decide)
  cases hv with
  | null =>
    cases hw with
    | null => rfl
    | bool b => cases b <;> exact absurd h (by decide)
    | int n => exact absurd h (null n)
  | bool b =>
    cases hw with
    | null => cases b <;> exact absurd h (by decide)
    | bool b' => cases b <;> cases b' <;> first | rfl | exact absurd h (by decide)
    | int n => exact absurd h (bool b n)
  | int m =>
    cases hw with
    | null => exact absurd h.symm (null m)
    | bool b => exact absurd h.symm (bool b m)
    | int n => exact congrArg Value.int (toString_int_injective h)

/-- A literal of a text starts with a quote, and no word does. -/
lemma IsWord.ne_ofText (h : IsWord v) {s : String} :
    (ofValue v).toList ++ rest ≠ (ofText s).toList ++ rest' := by
  intro heq
  obtain ⟨c, cs, hcs⟩ := List.exists_cons_of_ne_nil h.toList_ne_nil
  rw [hcs, toList_ofText] at heq
  obtain ⟨rfl, -⟩ := List.cons.inj heq
  have quote : carriesWord '"' = true :=
    h.carriesWord_of_mem (by rw [hcs]; exact List.mem_cons_self)
  exact absurd quote (by decide)

/-- No literal is the word for no value. -/
lemma IsLegible.ne_never (hv : IsLegible v) (hs : Stops carriesWord rest)
    (hs' : Stops carriesWord rest') : "never".toList ++ rest ≠ (ofValue v).toList ++ rest' := by
  intro h
  cases hv with
  | word hv =>
    have word : "never".toList.all carriesWord = true := by decide
    have same : "never" = ofValue v := String.toList_injective
      (run_inj (List.all_eq_true.1 word) (fun _ => hv.carriesWord_of_mem) hs hs' h).1
    cases hv with
    | null => exact absurd same (by decide)
    | bool b => cases b <;> exact absurd same (by decide)
    | int n => exact ne_toString_int (c := 'n') (by decide) (by decide) same
  | text s =>
    rw [ofValue, toList_ofText] at h
    exact absurd (List.cons.inj h).1 (by decide)

/-- A literal ends where no word is carried on, and is that of one value. -/
lemma ofValue_append_inj (hv : IsLegible v) (hw : IsLegible w) (hs : Stops carriesWord rest)
    (hs' : Stops carriesWord rest')
    (h : (ofValue v).toList ++ rest = (ofValue w).toList ++ rest') : v = w ∧ rest = rest' := by
  cases hv with
  | word hv =>
    cases hw with
    | word hw =>
      obtain ⟨same, hrest⟩ := run_inj (fun _ => hv.carriesWord_of_mem)
        (fun _ => hw.carriesWord_of_mem) hs hs' h
      exact ⟨hv.inj hw (String.toList_injective same), hrest⟩
    | text t => exact absurd h hv.ne_ofText
  | text s =>
    cases hw with
    | word hw => exact absurd h.symm hw.ne_ofText
    | text t =>
      obtain ⟨rfl, hrest⟩ := ofText_append_inj h
      exact ⟨rfl, hrest⟩

/-! ### Keys -/

/-- Does the character carry on a key without quotes? -/
def carriesKey (c : Char) : Bool :=
  continuesKey c || c = '\n'

variable {key other : String}

lemma carriesKey_of_mem (h : isBareKey key = true) {c : Char} (hc : c ∈ key.toList) :
    carriesKey c = true := by
  rw [carriesKey, Bool.or_eq_true]
  rcases isBareKey_iff.1 h with hkey | ⟨name, hname, rfl⟩
  · exact .inl (hkey.continuesKey_of_mem hc)
  · rw [String.toList_append, List.mem_append] at hc
    rcases hc with hc | hc
    · exact .inl (hname.continuesKey_of_mem hc)
    · exact .inr (by simpa using hc)

lemma exists_cons_of_isBareKey (h : isBareKey key = true) :
    ∃ c cs, key.toList = c :: cs ∧ startsKey c = true := by
  rw [isBareKey] at h
  cases hkey : key.toList with
  | nil => simp [hkey, isBareChars] at h
  | cons c cs =>
    rw [hkey, isBareChars, Bool.and_eq_true] at h
    exact ⟨c, cs, rfl, h.1⟩

lemma exists_cons_ofKey (key : String) :
    ∃ c cs, (ofKey key).toList = c :: cs ∧ (startsKey c = true ∨ c = '"') := by
  by_cases h : isBareKey key = true
  · rw [ofKey, if_pos h]
    obtain ⟨c, cs, hcs, hc⟩ := exists_cons_of_isBareKey h
    exact ⟨c, cs, hcs, .inl hc⟩
  · rw [ofKey, if_neg h]
    exact ⟨'"', _, toList_ofText key, .inr rfl⟩

/-- No key without quotes starts with one. -/
lemma ne_ofText_of_isBareKey (h : isBareKey key = true) {s : String} :
    key.toList ++ rest ≠ (ofText s).toList ++ rest' := by
  intro heq
  obtain ⟨c, cs, hcs, hc⟩ := exists_cons_of_isBareKey h
  rw [hcs, toList_ofText] at heq
  obtain ⟨rfl, -⟩ := List.cons.inj heq
  exact absurd hc (by decide)

/-- A key ends where none without quotes is carried on, and is that of one property. -/
lemma ofKey_append_inj (hs : Stops carriesKey rest) (hs' : Stops carriesKey rest')
    (h : (ofKey key).toList ++ rest = (ofKey other).toList ++ rest') :
    key = other ∧ rest = rest' := by
  unfold ofKey at h
  split at h
  case isTrue hkey =>
    split at h
    case isTrue hother =>
      obtain ⟨same, hrest⟩ := run_inj (fun _ => carriesKey_of_mem hkey)
        (fun _ => carriesKey_of_mem hother) hs hs' h
      exact ⟨String.toList_injective same, hrest⟩
    case isFalse => exact absurd h (ne_ofText_of_isBareKey hkey)
  case isFalse =>
    split at h
    case isTrue hother => exact absurd h.symm (ne_ofText_of_isBareKey hother)
    case isFalse => exact ofText_append_inj h

end Literal

namespace TypeExpr

open Literal

/-! ### Layout -/

lemma intercalate_cons_eq_append (sep cs : List Char) (css : List (List Char)) :
    sep.intercalate (cs :: css) = cs ++ css.flatMap (sep ++ ·) := by
  induction css generalizing cs with
  | nil => simp
  | cons cs' css ih => rw [List.intercalate_cons_cons, ih, List.flatMap_cons,
    List.append_assoc, List.append_assoc]

/-- The other values of a union, each after a bar. -/
def unionText (values : List Value) : List Char :=
  values.flatMap fun v => " | ".toList ++ (ofValue v).toList

lemma unionText_cons (v : Value) (values : List Value) : unionText (v :: values) =
    " | ".toList ++ ((ofValue v).toList ++ unionText values) := by
  rw [unionText, List.flatMap_cons, List.append_assoc, unionText]

/-- The members of a record, each on a new line. -/
def memberText (level : Int) (properties : List (Property TypeExpr)) : List Char :=
  (memberLines level properties).flatMap fun line => '\n' :: line.toList

variable {level : Int}

lemma toList_indentation (level : Int) :
    (indentation level).toList = List.replicate (2 * level.toNat) ' ' :=
  String.toList_ofList

lemma source_reference {name : String} (hn : IsIdentifier name) :
    source level (.reference name) = name := by
  have named : name ≠ "" := by
    rintro rfl
    exact absurd hn (by decide)
  rw [source, if_neg named]

lemma toList_source_literals (v : Value) (values : List Value) :
    (source level (.literals (v :: values))).toList = (ofValue v).toList ++ unionText values := by
  rw [source]
  · rw [String.toList_intercalate, List.map_map, List.map_cons, intercalate_cons_eq_append,
      unionText, List.flatMap_map]
    rfl
  · simp

lemma toList_source_sequence (item : TypeExpr) :
    (source level (.sequence item)).toList =
      "Array<".toList ++ ((source level item).toList ++ ['>']) := by
  simp [source_sequence]

lemma toList_source_record (p : Property TypeExpr) (properties : List (Property TypeExpr)) :
    (source level (.record (p :: properties))).toList =
      '\x7b' :: (memberText (level + 1) (p :: properties) ++
        '\n' :: ((indentation level).toList ++ ['\x7d'])) := by
  rw [source]
  · rw [String.toList_intercalate, List.map_append, List.map_cons, List.cons_append,
      intercalate_cons_eq_append, List.flatMap_append, List.flatMap_map, memberText]
    simp
  · simp

lemma memberText_cons (p : Property TypeExpr) (properties : List (Property TypeExpr)) :
    memberText level (p :: properties) = '\n' :: ((indentation level).toList ++
      ((ofKey p.name).toList ++ ((if p.optional then ['?'] else []) ++ (':' :: ' ' ::
        ((source level p.type).toList ++ ';' :: memberText level properties))))) := by
  obtain ⟨name, optional, type⟩ := p
  cases optional <;> simp [memberText, memberLines_cons]

/-! ### Kinds -/

/-- The words that source texts start with, each with the kind of the expression. -/
def reservedWords : List (String × TypeKind) :=
  [("any", .any), ("string", .string), ("number", .number), ("boolean", .boolean),
    ("never", .literals), ("null", .literals), ("true", .literals), ("false", .literals),
    ("Array", .sequence), ("Record", .mapping)]

/-- An expression can be told from its source text: its literals are words or texts, and the names
that it refers to are identifiers other than the words that source texts start with. -/
inductive IsLegible : TypeExpr → Prop
  | any : IsLegible .any
  | string : IsLegible .string
  | number : IsLegible .number
  | boolean : IsLegible .boolean
  | literals {values : List Value} (h : ∀ v ∈ values, Literal.IsLegible v) :
      IsLegible (.literals values)
  | anySequence : IsLegible .anySequence
  | sequence {item : TypeExpr} (h : IsLegible item) : IsLegible (.sequence item)
  | mapping : IsLegible .mapping
  | record {properties : List (Property TypeExpr)} (h : ∀ p ∈ properties, IsLegible p.type) :
      IsLegible (.record properties)
  | reference {name : String} (hn : IsIdentifier name) (hr : name ∉ reservedWords.map (·.1)) :
      IsLegible (.reference name)

/-- The kind of the expression that a source text starts with. -/
def kindOfText : List Char → TypeKind
  | [] => .any
  | c :: cs =>
    if c = '\x7b' then .record
    else if startsKey c then
      if ((c :: cs).dropWhile continuesKey).head? = some '[' then .sequence
      else (reservedWords.lookup (String.ofList ((c :: cs).takeWhile continuesKey))).getD .reference
    else .literals

/-- Does the character carry on a word or mark it as that of a list? -/
def carriesName (c : Char) : Bool :=
  continuesKey c || c = '['

/-- What follows an expression: nothing, the end of a member or the end of a list. -/
def IsEnd (rest : List Char) : Prop :=
  ∀ c cs, rest = c :: cs → c = ';' ∨ c = '>'

variable {e : TypeExpr} {v : Value} {values : List Value} {rest rest' : List Char}

lemma IsEnd.stops {p : Char → Bool} (h : IsEnd rest) (hp : p ';' = false ∧ p '>' = false) :
    Stops p rest := by
  intro c cs hrest
  rcases h c cs hrest with rfl | rfl
  · exact hp.1
  · exact hp.2

lemma isEnd_cons {c : Char} (h : c = ';' ∨ c = '>') (cs : List Char) : IsEnd (c :: cs) := by
  rintro d rest ⟨⟩
  exact h

/-- Where a union ends or goes on, no word is carried on. -/
lemma stops_unionText {p : Char → Bool} (h : IsEnd rest)
    (hp : p ' ' = false ∧ p ';' = false ∧ p '>' = false) (values : List Value) :
    Stops p (unionText values ++ rest) := by
  cases values with
  | nil => exact h.stops hp.2
  | cons v values => exact stops_cons hp.1 _

/-- A word that is not carried on tells the kind. -/
lemma kindOfText_word {word : String} (hw : IsIdentifier word) (hs : Stops carriesName rest) :
    kindOfText (word.toList ++ rest) = (reservedWords.lookup word).getD .reference := by
  obtain ⟨c, cs, hword, hc, -⟩ := isIdentifier_iff.1 hw
  have brace : c ≠ '\x7b' := by
    rintro rfl
    exact absurd hc (by decide)
  have stops : Stops continuesKey rest := by
    intro d ds hrest
    exact (Bool.or_eq_false_iff.1 (hs d ds hrest)).1
  have bracket : rest.head? ≠ some '[' := by
    intro hhead
    obtain ⟨ds, rfl⟩ := List.head?_eq_some_iff.1 hhead
    exact absurd (hs '[' ds rfl) (by decide)
  have run := takeWhile_run (fun _ => hw.continuesKey_of_mem) stops
  have after := dropWhile_run (fun _ => hw.continuesKey_of_mem) stops
  rw [hword, List.cons_append] at run after ⊢
  rw [kindOfText, if_neg brace, if_pos hc, run, after, if_neg bracket, ← hword,
    String.ofList_toList]

lemma kindOfText_of_startsKey_eq_false {c : Char} (hb : c ≠ '\x7b') (hc : startsKey c = false)
    (cs : List Char) : kindOfText (c :: cs) = .literals := by
  rw [kindOfText, if_neg hb, hc, if_neg Bool.false_ne_true]

lemma startsKey_of_isDigit {c : Char} (h : c.isDigit = true) : startsKey c = false := by
  have digit : 48 ≤ c.toNat ∧ c.toNat ≤ 57 := Char.isDigit_iff_toNat.1 h
  rw [Bool.eq_false_iff, ne_eq, startsKey_iff]
  rintro (⟨h, -⟩ | ⟨h, -⟩ | rfl | rfl)
  · have letter : 65 ≤ c.toNat := h
    omega
  · have letter : 97 ≤ c.toNat := h
    omega
  · exact absurd digit (by decide)
  · exact absurd digit (by decide)

/-- A literal tells that it is one. -/
lemma kindOfText_ofValue (hv : Literal.IsLegible v) (hs : Stops carriesName rest) :
    kindOfText ((ofValue v).toList ++ rest) = .literals := by
  cases hv with
  | word hv =>
    cases hv with
    | null => exact kindOfText_word (by decide : IsIdentifier "null") hs
    | bool b =>
      cases b with
      | false => exact kindOfText_word (by decide : IsIdentifier "false") hs
      | true => exact kindOfText_word (by decide : IsIdentifier "true") hs
    | int n =>
      obtain ⟨c, cs, hcs⟩ := List.exists_cons_of_ne_nil (toString_int_ne_nil n)
      have written : (ofValue (.int n)).toList = c :: cs := hcs
      rw [written, List.cons_append]
      rcases mem_toString_int (n := n) (c := c) (by rw [hcs]; exact List.mem_cons_self) with
        rfl | hc
      · exact kindOfText_of_startsKey_eq_false (by decide) (by decide) _
      · refine kindOfText_of_startsKey_eq_false ?_ (startsKey_of_isDigit hc) _
        rintro rfl
        exact absurd hc (by decide)
  | text s =>
    rw [ofValue, toList_ofText]
    exact kindOfText_of_startsKey_eq_false (by decide) (by decide) _

/-- The source text of an expression tells its kind. -/
lemma kindOfText_source (he : e.IsLegible) (hr : IsEnd rest) (level : Int) :
    kindOfText ((source level e).toList ++ rest) = e.kind := by
  have stops : Stops carriesName rest := hr.stops (by decide)
  cases he with
  | any => exact kindOfText_word (by decide : IsIdentifier "any") stops
  | string => exact kindOfText_word (by decide : IsIdentifier "string") stops
  | number => exact kindOfText_word (by decide : IsIdentifier "number") stops
  | boolean => exact kindOfText_word (by decide : IsIdentifier "boolean") stops
  | @literals values h =>
    cases values with
    | nil => exact kindOfText_word (by decide : IsIdentifier "never") stops
    | cons v values =>
      rw [toList_source_literals, List.append_assoc]
      exact kindOfText_ofValue (h v (by simp)) (stops_unionText hr (by decide) values)
  | anySequence =>
    have written : (source level .anySequence).toList = ['a', 'n', 'y', '[', ']'] := by
      simp [source]
    rw [written]
    rfl
  | sequence =>
    rw [toList_source_sequence]
    exact kindOfText_word (by decide : IsIdentifier "Array") (stops_cons (by decide) _)
  | mapping =>
    have written : (source level .mapping).toList =
        "Record".toList ++ '<' :: "string, any>".toList := by
      simp [source]
    rw [written, List.append_assoc]
    exact kindOfText_word (by decide : IsIdentifier "Record") (stops_cons rfl _)
  | @record properties =>
    cases properties with
    | nil =>
      have written : (source level (.record [])).toList = ['\x7b', '\x7d'] := by simp [source]
      rw [written]
      rfl
    | cons p properties =>
      rw [toList_source_record]
      rfl
  | @reference name hn hw =>
    have unlisted : reservedWords.lookup name = none := by
      rw [List.lookup_eq_none_iff]
      intro entry hentry
      simpa using fun heq : name = entry.1 => hw (heq ▸ List.mem_map_of_mem hentry)
    rw [source_reference hn, kindOfText_word hn stops, unlisted]
    rfl

/-! ### Parts -/

/-- Unions are told apart one value after another. -/
lemma unionText_append_inj {others : List Value} (hv : ∀ v ∈ values, Literal.IsLegible v)
    (ho : ∀ v ∈ others, Literal.IsLegible v) (hr : IsEnd rest) (hr' : IsEnd rest')
    (h : unionText values ++ rest = unionText others ++ rest') :
    values = others ∧ rest = rest' := by
  induction values generalizing others with
  | nil =>
    cases others with
    | nil => exact ⟨rfl, h⟩
    | cons w others => exact absurd (hr _ _ h) (by decide)
  | cons v values ih =>
    cases others with
    | nil => exact absurd (hr' _ _ h.symm) (by decide)
    | cons w others =>
      simp only [unionText_cons, List.append_assoc] at h
      obtain ⟨rfl, others_eq⟩ := ofValue_append_inj (hv v (by simp)) (ho w (by simp))
        (stops_unionText hr (by decide) values) (stops_unionText hr' (by decide) others)
        (List.append_cancel_left h)
      obtain ⟨rfl, rest_eq⟩ :=
        ih (fun u hu => hv u (by simp [hu])) (fun u hu => ho u (by simp [hu])) others_eq
      exact ⟨rfl, rest_eq⟩

/-- After blanks, however many, texts go on in the same way. -/
lemma blanks_append_inj {m n : Nat} {c d : Char} (hc : c ≠ ' ') (hd : d ≠ ' ')
    (h : List.replicate m ' ' ++ c :: rest = List.replicate n ' ' ++ d :: rest') :
    c = d ∧ rest = rest' := by
  have blank (k : Nat) : ∀ b ∈ List.replicate k ' ', decide (b = ' ') = true := by
    simp +contextual
  obtain ⟨-, h⟩ := run_inj (blank m) (blank n) (stops_cons (by simpa using hc) rest)
    (stops_cons (by simpa using hd) rest') h
  exact List.cons.inj h

lemma stops_marker (optional : Bool) (rest : List Char) :
    Stops carriesKey ((if optional then ['?'] else []) ++ ':' :: rest) := by
  cases optional <;> exact stops_cons (by decide) _

lemma marker_append_inj {optional optional' : Bool}
    (h : (if optional then ['?'] else []) ++ ':' :: rest =
      (if optional' then ['?'] else []) ++ ':' :: rest') : optional = optional' ∧ rest = rest' := by
  cases optional <;> cases optional' <;> simp_all

/-- With its source text, an expression is told from all legible ones, whatever follows. -/
def IsTold (e : TypeExpr) : Prop :=
  ∀ (f : TypeExpr) (level : Int) (rest rest' : List Char), f.IsLegible → IsEnd rest → IsEnd rest' →
    (source level e).toList ++ rest = (source level f).toList ++ rest' → e = f ∧ rest = rest'

/-- Members of records are told apart one after another, up to the brace that ends the record. -/
lemma memberText_append_inj {inner outer : Int} {ps qs : List (Property TypeExpr)}
    (hp : ∀ p ∈ ps, IsTold p.type) (hq : ∀ q ∈ qs, q.type.IsLegible)
    (h : memberText inner ps ++ '\n' :: ((indentation outer).toList ++ '\x7d' :: rest) =
      memberText inner qs ++ '\n' :: ((indentation outer).toList ++ '\x7d' :: rest')) :
    ps = qs ∧ rest = rest' := by
  simp only [toList_indentation] at h
  -- A member starts with its key, and no key starts with the brace.
  have key {p : Property TypeExpr} {ps : List (Property TypeExpr)} {rest rest' : List Char}
      (h : '\n' :: (List.replicate (2 * outer.toNat) ' ' ++ '\x7d' :: rest) =
        memberText inner (p :: ps) ++ rest') : False := by
    obtain ⟨c, cs, hcs, hc⟩ := exists_cons_ofKey p.name
    have visible : c ≠ ' ' ∧ c ≠ '\x7d' := by
      constructor
      all_goals
        rintro rfl
        exact absurd hc (by decide)
    rw [memberText_cons, toList_indentation, hcs] at h
    simp only [List.cons_append, List.append_assoc, List.cons.injEq, true_and] at h
    exact visible.2 (blanks_append_inj (by decide) visible.1 h).1.symm
  induction ps generalizing qs with
  | nil =>
    cases qs with
    | nil =>
      obtain ⟨-, h⟩ := blanks_append_inj (by decide) (by decide) (List.cons.inj h).2
      exact ⟨rfl, h⟩
    | cons q qs => exact (key h).elim
  | cons p ps ih =>
    cases qs with
    | nil => exact (key h.symm).elim
    | cons q qs =>
      simp only [memberText_cons, List.cons_append, List.append_assoc, List.cons.injEq,
        true_and] at h
      obtain ⟨name_eq, h⟩ := ofKey_append_inj (stops_marker _ _) (stops_marker _ _)
        (List.append_cancel_left h)
      obtain ⟨optional_eq, h⟩ := marker_append_inj h
      obtain ⟨type_eq, h⟩ := hp p (by simp) q.type inner _ _ (hq q (by simp))
        (isEnd_cons (.inl rfl) _) (isEnd_cons (.inl rfl) _) (List.cons.inj h).2
      obtain ⟨rfl, rest_eq⟩ := ih (fun p' hp' => hp p' (by simp [hp']))
        (fun q' hq' => hq q' (by simp [hq'])) (List.cons.inj h).2
      obtain ⟨name, optional, type⟩ := p
      obtain ⟨name', optional', type'⟩ := q
      cases name_eq
      cases optional_eq
      cases type_eq
      exact ⟨rfl, rest_eq⟩

/-! ### Expressions -/

lemma kind_eq_of_source_append {f : TypeExpr} {level : Int} (he : e.IsLegible) (hf : f.IsLegible)
    (hr : IsEnd rest) (hr' : IsEnd rest')
    (h : (source level e).toList ++ rest = (source level f).toList ++ rest') : f.kind = e.kind := by
  rw [← kindOfText_source he hr level, h, kindOfText_source hf hr' level]

/-- An expression is told from those of another kind by the start of its source text. -/
lemma isTold_of_kind (he : e.IsLegible)
    (h : ∀ f level rest rest', f.IsLegible → f.kind = e.kind → IsEnd rest → IsEnd rest' →
      (source level e).toList ++ rest = (source level f).toList ++ rest' → e = f ∧ rest = rest') :
    IsTold e :=
  fun f level rest rest' hf hr hr' heq =>
    h f level rest rest' hf (kind_eq_of_source_append he hf hr hr' heq) hr hr' heq

/-- The only expression of a kind is told from all others. -/
lemma isTold_of_unique (he : e.IsLegible) (h : ∀ f : TypeExpr, f.kind = e.kind → f = e) :
    IsTold e := by
  refine isTold_of_kind he fun f level rest rest' _ kind _ _ heq => ?_
  obtain rfl := h f kind
  exact ⟨rfl, List.append_cancel_left heq⟩

lemma source_anySequence_append_ne {level : Int} {item : TypeExpr} :
    (source level .anySequence).toList ++ rest ≠
      (source level (.sequence item)).toList ++ rest' := by
  intro h
  simp [source] at h

lemma source_record_nil_append_ne {level : Int} {p : Property TypeExpr}
    {properties : List (Property TypeExpr)} : (source level (.record [])).toList ++ rest ≠
      (source level (.record (p :: properties))).toList ++ rest' := by
  intro h
  rw [toList_source_record, memberText_cons] at h
  simp [source] at h

/-- Unions are told apart, and from the one without values. -/
lemma isTold_literals {values : List Value} (hv : ∀ v ∈ values, Literal.IsLegible v) :
    IsTold (.literals values) := by
  refine isTold_of_kind (.literals hv) fun f level rest rest' hf kind hr hr' h => ?_
  have never {w : Value} {others : List Value} {rest rest' : List Char} (hw : Literal.IsLegible w)
      (hr : IsEnd rest) (hr' : IsEnd rest') (h : (source level (.literals [])).toList ++ rest =
        (source level (.literals (w :: others))).toList ++ rest') : False := by
    rw [toList_source_literals, List.append_assoc] at h
    exact hw.ne_never (hr.stops (by decide)) (stops_unionText hr' (by decide) others) h
  cases hf with
  | @literals others ho =>
    cases values with
    | nil =>
      cases others with
      | nil => exact ⟨rfl, List.append_cancel_left h⟩
      | cons w others => exact (never (ho w (by simp)) hr hr' h).elim
    | cons v values =>
      cases others with
      | nil => exact (never (hv v (by simp)) hr' hr h.symm).elim
      | cons w others =>
        rw [toList_source_literals, toList_source_literals] at h
        have union : unionText (v :: values) ++ rest = unionText (w :: others) ++ rest' := by
          simp only [unionText_cons, List.append_assoc] at h ⊢
          rw [h]
        obtain ⟨same, hrest⟩ := unionText_append_inj hv ho hr hr' union
        exact ⟨congrArg _ same, hrest⟩
  | _ => cases kind

/-- Records are told apart by their members, and from the one without members. -/
lemma isTold_record {properties : List (Property TypeExpr)}
    (hp : ∀ p ∈ properties, p.type.IsLegible) (ih : ∀ p ∈ properties, IsTold p.type) :
    IsTold (.record properties) := by
  refine isTold_of_kind (.record hp) fun f level rest rest' hf kind hr hr' h => ?_
  cases hf with
  | @record others ho =>
    cases properties with
    | nil =>
      cases others with
      | nil => exact ⟨rfl, List.append_cancel_left h⟩
      | cons q others => exact absurd h source_record_nil_append_ne
    | cons p properties =>
      cases others with
      | nil => exact absurd h.symm source_record_nil_append_ne
      | cons q others =>
        simp only [toList_source_record, List.cons_append, List.append_assoc, List.cons.injEq,
          true_and] at h
        obtain ⟨same, hrest⟩ := memberText_append_inj ih ho h
        exact ⟨congrArg _ same, hrest⟩
  | _ => cases kind

lemma isTold_sequence {item : TypeExpr} (hi : item.IsLegible) (ih : IsTold item) :
    IsTold (.sequence item) := by
  refine isTold_of_kind (.sequence hi) fun f level rest rest' hf kind hr hr' h => ?_
  cases hf with
  | anySequence => exact absurd h.symm source_anySequence_append_ne
  | sequence hf =>
    simp only [toList_source_sequence, List.append_assoc] at h
    obtain ⟨rfl, hrest⟩ := ih _ level _ _ hf (isEnd_cons (.inr rfl) _) (isEnd_cons (.inr rfl) _)
      (List.append_cancel_left h)
    exact ⟨rfl, (List.cons.inj hrest).2⟩
  | _ => cases kind

lemma isTold_reference {name : String} (hn : IsIdentifier name)
    (hw : name ∉ reservedWords.map (·.1)) : IsTold (.reference name) := by
  refine isTold_of_kind (.reference hn hw) fun f level rest rest' hf kind hr hr' h => ?_
  cases hf with
  | @reference other ho =>
    rw [source_reference hn, source_reference ho] at h
    obtain ⟨same, hrest⟩ := run_inj (fun _ => hn.continuesKey_of_mem)
      (fun _ => ho.continuesKey_of_mem) (hr.stops (by decide)) (hr'.stops (by decide)) h
    exact ⟨congrArg _ (String.toList_injective same), hrest⟩
  | _ => cases kind

/-- A legible expression is told from all others: by induction on the expression. -/
lemma IsLegible.isTold (he : e.IsLegible) : IsTold e := by
  induction he with
  | any | string | number | boolean | mapping =>
    refine isTold_of_unique (by constructor) fun f kind => ?_
    cases f <;> first | rfl | cases kind
  | literals h => exact isTold_literals h
  | anySequence =>
    refine isTold_of_kind .anySequence fun f level rest rest' hf kind hr hr' h => ?_
    cases hf with
    | anySequence => exact ⟨rfl, List.append_cancel_left h⟩
    | sequence => exact absurd h source_anySequence_append_ne
    | _ => cases kind
  | sequence h ih => exact isTold_sequence h ih
  | record h ih => exact isTold_record h ih
  | reference hn hw => exact isTold_reference hn hw

lemma toList_of_writtenSource {level : Int} {text : String} (h : e.writtenSource level = .ok text) :
    (source level e).toList = text.toList := by
  rw [writtenSource] at h
  split at h
  case isTrue => exact congrArg String.toList (Except.ok.inj h)
  case isFalse => cases h

/-- Legible expressions with the same source text are the same, at every level. The names of their
properties may be any texts. -/
theorem writtenSource_injective {e f : TypeExpr} {level : Int} {text : String} (he : e.IsLegible)
    (hf : f.IsLegible) (h : e.writtenSource level = .ok text)
    (h' : f.writtenSource level = .ok text) : e = f := by
  have nothing : IsEnd [] := by rintro c cs ⟨⟩
  have same : (source level e).toList ++ [] = (source level f).toList ++ [] := by
    rw [toList_of_writtenSource h, toList_of_writtenSource h']
  exact (he.isTold f level [] [] hf nothing nothing same).1

/-- Crates with a size or a kind. -/
def crateList : Value :=
  .ofFields [("type", .text "array"), ("items", .ofFields [("type", .text "object"),
    ("properties", .ofFields [("size | kind", .ofFields [("type", .text "string"),
      ("enum", .list [.text "a; b", .null, .bool true])])])])]

/-- The marks in a key and in a literal cannot be taken for those between the parts. -/
theorem writtenSource_injective_crateList :
    ∃ e, (compile [] {} crateList.layer "" none).outcome = .ok e ∧ e.IsLegible ∧
      e.writtenSource 0 =
        .ok "Array<\x7b\n  \"size | kind\"?: \"a; b\" | null | true;\n\x7d>" ∧
      ∀ f, f.IsLegible → f.writtenSource 0 =
        .ok "Array<\x7b\n  \"size | kind\"?: \"a; b\" | null | true;\n\x7d>" → f = e := by
  have legible : (sequence (.record [⟨"size | kind", true,
      .literals [.text "a; b", .null, .bool true]⟩])).IsLegible := by
    refine .sequence (.record fun p hp => ?_)
    rw [List.mem_singleton.1 hp]
    refine .literals fun v hv => ?_
    simp only [List.mem_cons, List.not_mem_nil, or_false] at hv
    rcases hv with rfl | rfl | rfl
    · exact .text _
    · exact .word .null
    · exact .word (.bool true)
  have written : (sequence (.record [⟨"size | kind", true,
      .literals [.text "a; b", .null, .bool true]⟩])).writtenSource 0 =
        .ok "Array<\x7b\n  \"size | kind\"?: \"a; b\" | null | true;\n\x7d>" := by
    decide +kernel
  exact ⟨_, rfl, legible, written, fun f hf hw => writtenSource_injective hf legible hw written⟩

end TypeExpr

end ApiBridge
