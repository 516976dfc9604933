import ApiBridge.Document.Load
import ApiBridge.Proofs.Files.Places
import ApiBridge.Proofs.Text.Utf8

/-!
# What loading a document comes to

A source delivers a text with a format, the text is read as JSON or as YAML, and what is read has to
be a map. Most of what can go wrong is reported as a failure of loading. What is not is told here for
each source and for each of the two readers.
-/

namespace ApiBridge

/-! ### Texts of files -/

lemma unifyNewlines_eq {cs : List Char} (h : '\r' ∉ cs) : Text.unifyNewlines cs = cs := by
  induction cs using Text.unifyNewlines.induct with
  | case1 => rfl
  | case2 cs _ => simp at h
  | case3 c cs _ ih =>
    rw [List.mem_cons, not_or] at h
    obtain ⟨hc, hcs⟩ := h
    rw [Text.unifyNewlines, ih hcs, if_neg (Ne.symm hc)]
    assumption

/-- Without carriage returns a file holds the text that was written to it. -/
lemma fileText_encode {s : String} (h : '\r' ∉ s.toList) : fileText (Text.encode s) = .ok s := by
  rw [fileText, Text.decode_eq_ok_iff.2 rfl]
  simp [Except.map, unifyNewlines_eq h]

namespace Document

/-! ### Texts that are delivered -/

/-- The source is the path of a file. -/
def IsFile (source : String) : Prop :=
  source ≠ "-" ∧ isUrl source = false

/-- The source is the address of a server, which answers. -/
def Answers (h : Host) (source : String) (status : Nat) (contentType : String)
    (body : List UInt8) : Prop :=
  isUrl source = true ∧ Url.check source = .ok () ∧
    ∃ header, h.fetch source = .answered status header body ∧ contentType = header.getD ""

/-- The source delivers a text that is not blank, and says what it is written in. -/
inductive Delivers (h : Host) (source : String) : DocumentFormat → String → Prop
  | input {text : String} (hs : source = "-") (hi : h.input = .text text)
    (hb : Text.isAllBlank text = false) : Delivers h source .unknown text
  | answer {status : Nat} {contentType text : String} {body : List UInt8}
    (ha : Answers h source status contentType body) (good : 200 ≤ status ∧ status < 300)
    (ht : ContentType.textOf contentType body = .ok text) :
    Delivers h source (formatOfContentType contentType) text
  | file {bytes : List UInt8} {text : String} (hs : IsFile source)
    (hf : h.findFile (Path.ofText source) = .ok (some (.ok bytes))) (ht : fileText bytes = .ok text)
    (hb : Text.isAllBlank text = false) :
    Delivers h source (formatOfPath (Path.ofText source)) text

/-! ### Texts that are read as they are meant -/

/-- A code of half of a surrogate pair. -/
def isSurrogate (n : Nat) : Bool :=
  Json.isHighSurrogate n || Json.isLowSurrogate n

/-- Does a JSON text name half of a surrogate pair without the other half? -/
def jsonNamesHalf : List Char → Bool
  | '\\' :: 'u' :: a :: b :: c :: d :: '\\' :: 'u' :: e :: f :: g :: h :: cs =>
    if (Json.hexCode? a b c d).any Json.isHighSurrogate
        && (Json.hexCode? e f g h).any Json.isLowSurrogate then
      jsonNamesHalf cs
    else
      (Json.hexCode? a b c d).any isSurrogate
        || jsonNamesHalf ('\\' :: 'u' :: e :: f :: g :: h :: cs)
  | '\\' :: 'u' :: a :: b :: c :: d :: cs =>
    (Json.hexCode? a b c d).any isSurrogate || jsonNamesHalf cs
  | '\\' :: _ :: cs => jsonNamesHalf cs
  | _ :: cs => jsonNamesHalf cs
  | [] => false

/-- Does a YAML text name half of a surrogate pair? There are no pairs in YAML. -/
def yamlNamesHalf (text : List Char) : Bool :=
  text.tails.any fun
    | '\\' :: 'u' :: cs => (Yaml.hexNumber? (cs.take 4)).any isSurrogate
    | '\\' :: 'U' :: cs => (Yaml.hexNumber? (cs.take 8)).any isSurrogate
    | _ => false

/-! ### Failures that are not reported -/

/-- The source fails to deliver a text, and not in a way that is reported. -/
inductive Breaks (h : Host) (source : String) : Prop
  /-- Whether there is a file cannot be told. -/
  | hidden (hs : IsFile source) (hf : h.tree.IsHidden h.directory.names (Path.ofText source))
  /-- The bytes of the file are those of no text. -/
  | notText {bytes : List UInt8} (hs : IsFile source)
    (hf : h.findFile (Path.ofText source) = .ok (some (.ok bytes)))
    (ht : ∀ text, Text.encode text ≠ bytes)
  /-- The input was closed before the run. -/
  | inputMissing (hs : source = "-") (hi : h.input = .missing)
  /-- The source only starts like an address. -/
  | notUrl {e : UrlError} (hs : isUrl source = true) (hu : Url.check source = .error e)
  /-- The request breaks before it is sent. -/
  | requestBroken {reason : String} (hs : isUrl source = true) (hu : Url.check source = .ok ())
    (hf : h.fetch source = .broken reason)
  /-- The body of a good answer cannot be decoded. -/
  | undecodable {status : Nat} {contentType : String} {body : List UInt8} {e : ContentType.Error}
    (ha : Answers h source status contentType body) (good : 200 ≤ status ∧ status < 300)
    (ht : ContentType.textOf contentType body = .error e)

/-- YAML is tried for a text: because of its format, or because it is no JSON. -/
def TriesYaml (format : DocumentFormat) (text : String) : Prop :=
  format = .yaml ∨ format = .unknown ∧ ∃ fault place, Json.read text = .error (.malformed fault place)

/-- A text is read as it is meant: it names no half of a surrogate pair. -/
def IsLegible (format : DocumentFormat) (text : String) : Prop :=
  (TriesYaml format text → yamlNamesHalf text.toList = false) ∧
    (¬TriesYaml format text → jsonNamesHalf text.toList = false)

/-- What a source delivers is read as it is meant. -/
def IsLegibleFrom (h : Host) (source : String) : Prop :=
  ∀ format text, Delivers h source format text → IsLegible format text

lemma jsonNamesHalf_of_not_mem {cs : List Char} (h : '\\' ∉ cs) : jsonNamesHalf cs = false := by
  fun_induction jsonNamesHalf cs with
  | case5 c cs _ _ _ ih => exact ih fun hc => h (List.mem_cons_of_mem c hc)
  | case6 => rfl
  | _ => simp at h

lemma yamlNamesHalf_of_not_mem {cs : List Char} (h : '\\' ∉ cs) : yamlNamesHalf cs = false := by
  rw [yamlNamesHalf, List.any_eq_false]
  intro t ht
  have clean : '\\' ∉ t := fun hc => h ((List.mem_tails t cs).1 ht |>.subset hc)
  split
  · simp at clean
  · simp at clean
  · simp

/-- A text without backslashes is legible. -/
lemma isLegible_of_not_mem {text : String} (h : '\\' ∉ text.toList) (format : DocumentFormat) :
    IsLegible format text :=
  ⟨fun _ => yamlNamesHalf_of_not_mem h, fun _ => jsonNamesHalf_of_not_mem h⟩

/-- The input is legible if its text is. -/
lemma isLegibleFrom_input {h : Host} {text : String} (hi : h.input = .text text)
    (hl : IsLegible .unknown text) : IsLegibleFrom h "-" := by
  intro format text' delivers
  cases delivers with
  | input _ hi' _ =>
    cases hi.symm.trans hi'
    exact hl
  | answer ha _ _ => exact absurd ha.1 (by decide +kernel)
  | file hs _ _ _ => exact absurd rfl hs.1

/-- A text cannot be read, and not in a way that is reported. -/
inductive Defeats (format : DocumentFormat) (text : String) : Prop
  /-- An integer in JSON has too many digits. -/
  | integer {count : Nat} (hf : format ≠ .yaml)
    (hj : Json.read text = .error (.tooManyDigits count))
  /-- The text follows the rules of YAML, but a scalar in it cannot be built. -/
  | scalar {e : Yaml.Error} (hf : TriesYaml format text) (hy : Yaml.read text = .error e)
    (he : e.isMalformed = false)

/-! ### Reading -/

/-- A computation fails with an error that is not reported as one of loading. -/
def Unhandled {α : Type} (x : Except LoadError α) : Prop :=
  ∃ e, x = .error e ∧ e.isReported = false

lemma unhandled_ok {α : Type} (a : α) : Unhandled (.ok a) ↔ False := by
  simp [Unhandled]

lemma unhandled_error {α : Type} (e : LoadError) :
    Unhandled (.error e : Except LoadError α) ↔ e.isReported = false := by
  simp [Unhandled]

lemma unhandled_throw {α : Type} (e : LoadError) :
    Unhandled (throw e : Except LoadError α) ↔ e.isReported = false :=
  unhandled_error e

lemma unhandled_bind {α β : Type} {x : Except LoadError α} {f : α → Except LoadError β} :
    Unhandled (x >>= f) ↔ Unhandled x ∨ ∃ a, x = .ok a ∧ Unhandled (f a) := by
  cases x with
  | ok a => simp [Unhandled, bind, Except.bind]
  | error e => simp [Unhandled, bind, Except.bind]

lemma unhandled_mapError {ε α : Type} {x : Except ε α} {kind : ε → LoadError} :
    Unhandled (x.mapError kind) ↔ ∃ e, x = .error e ∧ (kind e).isReported = false := by
  cases x with
  | ok a => simp [Unhandled, Except.mapError]
  | error e => simp [Unhandled, Except.mapError]

lemma unhandled_requireMap (d : Document) : Unhandled d.requireMap ↔ False := by
  unfold requireMap
  split
  · exact unhandled_ok _
  · simp [unhandled_error, LoadError.isReported]
  · simp [unhandled_error, LoadError.isReported]

lemma unhandled_readYaml {json : Option Json.Error} {text : String} :
    Unhandled (readYaml json text) ↔ ∃ e, Yaml.read text = .error e ∧ e.isMalformed = false := by
  unfold readYaml
  cases Yaml.read text with
  | ok d => simp [unhandled_requireMap]
  | error e => cases he : e.isMalformed <;> simp [unhandled_error, he, LoadError.isReported]

/-- Reading fails without a report exactly when the text defeats the reader that it is given to. -/
lemma unhandled_read {format : DocumentFormat} {text : String} :
    Unhandled (read format text) ↔ Defeats format text := by
  -- Where YAML is tried, only a scalar can defeat it.
  have yaml {json : Option Json.Error} (hf : TriesYaml format text)
      (hj : format = .yaml ∨ ∀ count, Json.read text ≠ .error (.tooManyDigits count)) :
      Unhandled (readYaml json text) ↔ Defeats format text := by
    rw [unhandled_readYaml]
    constructor
    · rintro ⟨e, hy, he⟩
      exact .scalar hf hy he
    · rintro (⟨hne, hcount⟩ | ⟨-, hy, he⟩)
      · rcases hj with hj | hj
        · exact absurd hj hne
        · exact absurd hcount (hj _)
      · exact ⟨_, hy, he⟩
  unfold read
  split
  case isTrue hf => exact yaml (.inl hf) (.inl hf)
  case isFalse hf =>
    split
    case h_1 v hv =>
      rw [unhandled_requireMap, false_iff]
      rintro (⟨-, hcount⟩ | ⟨hyaml | ⟨-, _, _, hj⟩, -, -⟩)
      · rw [hv] at hcount
        cases hcount
      · exact hf hyaml
      · rw [hv] at hj
        cases hj
    case h_2 count hv =>
      rw [unhandled_error]
      exact iff_of_true rfl (.integer hf hv)
    case h_3 e hcount hv =>
      obtain ⟨fault, place, rfl⟩ : ∃ fault place, e = .malformed fault place := by
        cases e with
        | malformed fault place => exact ⟨fault, place, rfl⟩
        | tooManyDigits count => exact absurd rfl (hcount count)
      split
      case isTrue hjson =>
        rw [unhandled_error]
        refine iff_of_false (by simp [LoadError.isReported]) ?_
        rintro (⟨-, hcount⟩ | ⟨hyaml | ⟨hunknown, -⟩, -, -⟩)
        · rw [hv] at hcount
          cases hcount
        · exact hf hyaml
        · rw [hjson] at hunknown
          cases hunknown
      case isFalse hjson =>
        have hunknown : format = .unknown := by
          cases format with
          | unknown => rfl
          | json => exact absurd rfl hjson
          | yaml => exact absurd rfl hf
        refine yaml (.inr ⟨hunknown, fault, place, hv⟩) (.inr fun count => ?_)
        rw [hv]
        simp

/-! ### Sources -/

lemma not_isUrl_dash : isUrl "-" = false := by decide +kernel

/-- Bytes are refused as the text of a file exactly when they are those of no text. -/
lemma fileText_error_iff {bytes : List UInt8} :
    (∃ e, fileText bytes = .error e) ↔ ∀ text, Text.encode text ≠ bytes := by
  unfold fileText
  cases hd : Text.decode bytes with
  | ok s => exact iff_of_false (by simp [Except.map]) fun h => h s (Text.decode_eq_ok_iff.1 hd)
  | error e =>
    refine iff_of_true ⟨e, rfl⟩ fun s hs => ?_
    rw [Text.decode_eq_ok_iff.2 hs] at hd
    cases hd

lemma unhandled_loadInput {h : Host} {source : String} (hs : source = "-") :
    Unhandled (loadInput h) ↔
      Breaks h source ∨ ∃ format text, Delivers h source format text ∧ Defeats format text := by
  have not_url : isUrl source = false := by rw [hs, not_isUrl_dash]
  unfold loadInput
  constructor
  · split
    case h_1 text hi =>
      split
      case isTrue => simp [unhandled_error, LoadError.isReported]
      case isFalse hb =>
        intro he
        exact .inr ⟨_, _, .input hs hi (Bool.eq_false_iff.2 hb), unhandled_read.1 he⟩
    case h_2 => simp [unhandled_error, LoadError.isReported]
    case h_3 hi => exact fun _ => .inl (.inputMissing hs hi)
  · rintro (hbreaks | ⟨_, _, hdelivers, hd⟩)
    · cases hbreaks with
      | hidden hf _ => exact absurd hs hf.1
      | notText hf _ _ => exact absurd hs hf.1
      | inputMissing _ hi =>
        rw [hi]
        exact (unhandled_error _).2 rfl
      | notUrl hu _ => cases not_url.symm.trans hu
      | requestBroken hu _ _ => cases not_url.symm.trans hu
      | undecodable ha _ _ => cases not_url.symm.trans ha.1
    · cases hdelivers with
      | input _ hi hb =>
        simp only [hi, hb, Bool.false_eq_true, if_false]
        exact unhandled_read.2 hd
      | answer ha _ _ => cases not_url.symm.trans ha.1
      | file hf _ _ _ => exact absurd hs hf.1

/-- The document in the text of a file. -/
def readFileText (source text : String) : Except LoadError Document := do
  if Text.isAllBlank text then throw (.fileEmpty source)
  read (formatOfPath (Path.ofText source)) text

lemma loadFile_eq (h : Host) (source : String) : loadFile h source = (do
    match ← (h.findFile (Path.ofText source)).mapError .unreadable with
    | none => throw (.fileMissing source)
    | some opened =>
      let bytes ← opened.mapError (.fileClosed source)
      (fileText bytes).mapError .notText >>= readFileText source) := rfl

lemma loadFile_of_opened {h : Host} {source : String} {bytes : List UInt8}
    (hf : h.findFile (Path.ofText source) = .ok (some (.ok bytes))) :
    loadFile h source = (fileText bytes).mapError .notText >>= readFileText source := by
  rw [loadFile_eq, hf]
  rfl

lemma unhandled_readFileText {source text : String} : Unhandled (readFileText source text) ↔
    Text.isAllBlank text = false ∧ Defeats (formatOfPath (Path.ofText source)) text := by
  rw [← unhandled_read]
  unfold readFileText
  cases Text.isAllBlank text with
  | true => simp [unhandled_throw, unhandled_bind, LoadError.isReported]
  | false => simp

lemma unhandled_loadFile {h : Host} {source : String} (hs : IsFile source) :
    Unhandled (loadFile h source) ↔
      Breaks h source ∨ ∃ format text, Delivers h source format text ∧ Defeats format text := by
  constructor
  · rw [loadFile_eq, unhandled_bind, unhandled_mapError]
    rintro (⟨e, hf, -⟩ | ⟨found, hf, he⟩)
    · exact .inl (.hidden hs (FileTree.find_fails_iff.1 ⟨e, hf⟩))
    · rw [mapError_eq_ok_iff] at hf
      cases found with
      | none => simp [unhandled_throw, LoadError.isReported] at he
      | some opened =>
        rw [unhandled_bind, unhandled_mapError] at he
        rcases he with ⟨e, -, reported⟩ | ⟨bytes, hopened, he⟩
        · cases reported
        rw [mapError_eq_ok_iff] at hopened
        subst hopened
        rw [unhandled_bind, unhandled_mapError] at he
        rcases he with ⟨e, ht, -⟩ | ⟨text, ht, he⟩
        · exact .inl (.notText hs hf (fileText_error_iff.1 ⟨e, ht⟩))
        · obtain ⟨hb, hd⟩ := unhandled_readFileText.1 he
          exact .inr ⟨_, _, .file hs hf (mapError_eq_ok_iff.1 ht) hb, hd⟩
  · rintro (hbreaks | ⟨_, _, hdelivers, hd⟩)
    · cases hbreaks with
      | hidden _ hf =>
        obtain ⟨e, hf⟩ := FileTree.find_fails_iff.2 hf
        rw [loadFile_eq, unhandled_bind, unhandled_mapError]
        exact .inl ⟨e, hf, rfl⟩
      | notText _ hf ht =>
        obtain ⟨e, ht⟩ := fileText_error_iff.2 ht
        rw [loadFile_of_opened hf, unhandled_bind, unhandled_mapError]
        exact .inl ⟨e, ht, rfl⟩
      | inputMissing hi _ => exact absurd hi hs.1
      | notUrl hu _ => cases hu.symm.trans hs.2
      | requestBroken hu _ _ => cases hu.symm.trans hs.2
      | undecodable ha _ _ => cases ha.1.symm.trans hs.2
    · cases hdelivers with
      | input hi _ _ => exact absurd hi hs.1
      | answer ha _ _ => cases ha.1.symm.trans hs.2
      | file _ hf ht hb =>
        rw [loadFile_of_opened hf, unhandled_bind]
        exact .inr ⟨_, mapError_eq_ok_iff.2 ht, unhandled_readFileText.2 ⟨hb, hd⟩⟩

/-- The document in an answer. -/
def readAnswer (source : String) (status : Nat) (contentType : String) (body : List UInt8) :
    Except LoadError Document := do
  if status < 200 ∨ 300 ≤ status then throw (.badStatus status source)
  let text ← (ContentType.textOf contentType body).mapError .undecodable
  read (formatOfContentType contentType) text

lemma loadUrl_eq (h : Host) (source : String) : loadUrl h source = (do
    (Url.check source).mapError .notUrl
    match h.fetch source with
    | .failed reason => throw (.notFetched source reason)
    | .broken reason => throw (.requestBroken reason)
    | .answered status contentType body =>
      readAnswer source status (contentType.getD "") body) := rfl

lemma loadUrl_of_answers {h : Host} {source contentType : String} {status : Nat}
    {body : List UInt8} (ha : Answers h source status contentType body) :
    loadUrl h source = readAnswer source status contentType body := by
  obtain ⟨-, hu, header, hf, rfl⟩ := ha
  rw [loadUrl_eq, hu, hf]
  rfl

lemma unhandled_readAnswer {source contentType : String} {status : Nat} {body : List UInt8} :
    Unhandled (readAnswer source status contentType body) ↔ (200 ≤ status ∧ status < 300) ∧
      ((∃ e, ContentType.textOf contentType body = .error e) ∨
        ∃ text, ContentType.textOf contentType body = .ok text ∧
          Defeats (formatOfContentType contentType) text) := by
  unfold readAnswer
  by_cases good : 200 ≤ status ∧ status < 300
  · have status_ok : ¬(status < 200 ∨ 300 ≤ status) := by omega
    simp only [status_ok, if_false, unhandled_bind, unhandled_mapError, mapError_eq_ok_iff,
      unhandled_read, good, LoadError.isReported, and_true, true_and]
  · have status_bad : status < 200 ∨ 300 ≤ status := by omega
    simp [status_bad, good, unhandled_throw, unhandled_bind, LoadError.isReported]

lemma unhandled_loadUrl {h : Host} {source : String} (hs : isUrl source = true) :
    Unhandled (loadUrl h source) ↔
      Breaks h source ∨ ∃ format text, Delivers h source format text ∧ Defeats format text := by
  constructor
  · rw [loadUrl_eq, unhandled_bind, unhandled_mapError]
    rintro (⟨e, hu, -⟩ | ⟨_, hu, he⟩)
    · exact .inl (.notUrl hs hu)
    · rw [mapError_eq_ok_iff] at hu
      split at he
      case h_1 => simp [unhandled_throw, LoadError.isReported] at he
      case h_2 reason hf => exact .inl (.requestBroken hs hu hf)
      case h_3 status contentType body hf =>
        have ha : Answers h source status (contentType.getD "") body := ⟨hs, hu, _, hf, rfl⟩
        obtain ⟨good, ⟨e, ht⟩ | ⟨text, ht, hd⟩⟩ := unhandled_readAnswer.1 he
        · exact .inl (.undecodable ha good ht)
        · exact .inr ⟨_, _, .answer ha good ht, hd⟩
  · rintro (hbreaks | ⟨_, _, hdelivers, hd⟩)
    · cases hbreaks with
      | hidden hf _ => cases hs.symm.trans hf.2
      | notText hf _ _ => cases hs.symm.trans hf.2
      | inputMissing hi _ =>
        rw [hi] at hs
        cases not_isUrl_dash.symm.trans hs
      | notUrl _ hu =>
        rw [loadUrl_eq, unhandled_bind, unhandled_mapError]
        exact .inl ⟨_, hu, rfl⟩
      | requestBroken _ hu hf =>
        rw [loadUrl_eq, hu, hf]
        exact (unhandled_throw _).2 rfl
      | undecodable ha good ht =>
        rw [loadUrl_of_answers ha]
        exact unhandled_readAnswer.2 ⟨good, .inl ⟨_, ht⟩⟩
    · cases hdelivers with
      | input hi _ _ =>
        rw [hi] at hs
        cases not_isUrl_dash.symm.trans hs
      | answer ha good ht =>
        rw [loadUrl_of_answers ha]
        exact unhandled_readAnswer.2 ⟨good, .inr ⟨_, ht, hd⟩⟩
      | file hf _ _ _ => cases hs.symm.trans hf.2

lemma isMap_of_requireMap {d e : Document} (h : d.requireMap = .ok e) :
    ∃ es, e.graph.node e.root = .map es := by
  unfold requireMap at h
  split at h
  case h_1 es hes =>
    cases h
    exact ⟨es, hes⟩
  case h_2 => cases h
  case h_3 => cases h

lemma isMap_of_readYaml {json : Option Json.Error} {text : String} {d : Document}
    (h : readYaml json text = .ok d) : ∃ es, d.graph.node d.root = .map es := by
  unfold readYaml at h
  split at h
  · exact isMap_of_requireMap h
  · cases h

lemma isMap_of_read {format : DocumentFormat} {text : String} {d : Document}
    (h : read format text = .ok d) : ∃ es, d.graph.node d.root = .map es := by
  unfold read at h
  split at h
  · exact isMap_of_readYaml h
  · split at h
    · exact isMap_of_requireMap h
    · cases h
    · split at h
      · cases h
      · exact isMap_of_readYaml h

lemma isMap_of_readAnswer {source contentType : String} {status : Nat} {body : List UInt8}
    {d : Document} (h : readAnswer source status contentType body = .ok d) :
    ∃ es, d.graph.node d.root = .map es := by
  unfold readAnswer at h
  by_cases bad : status < 200 ∨ 300 ≤ status
  · simp [bad, bind, Except.bind, throw, throwThe, MonadExceptOf.throw] at h
  · simp only [bad, if_false] at h
    obtain ⟨text, -, h⟩ := bind_eq_ok_iff.1 h
    exact isMap_of_read h

lemma isMap_of_load {h : Host} {source : String} {d : Document} (hd : load h source = .ok d) :
    ∃ es, d.graph.node d.root = .map es := by
  unfold load at hd
  split at hd
  · unfold loadInput at hd
    split at hd
    · split at hd
      · cases hd
      · exact isMap_of_read hd
    · cases hd
    · cases hd
  · split at hd
    · rw [loadUrl_eq] at hd
      obtain ⟨_, -, hd⟩ := bind_eq_ok_iff.1 hd
      split at hd
      · cases hd
      · cases hd
      · exact isMap_of_readAnswer hd
    · rw [loadFile_eq] at hd
      obtain ⟨found, -, hd⟩ := bind_eq_ok_iff.1 hd
      cases found with
      | none => cases hd
      | some opened =>
        obtain ⟨bytes, -, hd⟩ := bind_eq_ok_iff.1 hd
        obtain ⟨text, -, hd⟩ := bind_eq_ok_iff.1 hd
        unfold readFileText at hd
        split at hd
        · cases hd
        · exact isMap_of_read hd

/-- Loading gives a map or fails with a report, except in these cases: the source breaks before it
delivers a text, or the text defeats the reader. -/
theorem load_unhandled_iff (h : Host) (source : String) :
    (∀ d, load h source = .ok d → ∃ es, d.graph.node d.root = .map es) ∧
    (Unhandled (load h source) ↔
      Breaks h source ∨ ∃ format text, Delivers h source format text ∧ Defeats format text) := by
  refine ⟨fun d hd => isMap_of_load hd, ?_⟩
  unfold load
  split
  case isTrue hs => exact unhandled_loadInput hs
  case isFalse hs =>
    split
    case isTrue hu => exact unhandled_loadUrl hu
    case isFalse hu => exact unhandled_loadFile ⟨hs, Bool.eq_false_iff.2 hu⟩

end Document

end ApiBridge
