import ApiBridge.Proofs.Description.Describing
import ApiBridge.Proofs.Validation
import ApiBridge.Proofs.Value.Keys

/-!
# Operations that cannot be described

An operation cannot be described when a text is missing in it, as an integer has too many digits, or
when a schema in it has a key that is no name. This is said exactly, from the contents of bodies up
to the operations of all paths. None of these errors is reported as an error of the description.
-/

namespace ApiBridge

/-! ### Parts of operations -/

namespace Graph

/-- A map with a key that cannot be taken as a name. -/
def IsForeign (g : Graph) (i : NodeId) : Prop :=
  ∃ es, g.entries? i = some es ∧ ∃ e ∈ es, ¬e.1.IsName

/-- A content that cannot be described: a media type has no text, or the schema that counts for its
text has a key that is no name. -/
inductive IsFlawedContent (g : Graph) (content : NodeId) : Prop
  | mediaType {es : List (Scalar × NodeId)} {e : Scalar × NodeId}
      (hes : g.entries? content = some es) (he : e ∈ es) (h : e.1.isWritable = false)
  | schema {before after : List (Scalar × NodeId)} {e : Scalar × NodeId} {s : NodeId}
      (hes : g.entries? content = some (before ++ e :: after))
      (hlast : ∀ e' ∈ after, e'.1.display ≠ e.1.display) (hs : g.field? e.2 "schema" = some s)
      (h : g.IsForeign s)

/-- An operation with a part that cannot be described. -/
inductive IsFlawedOperation (g : Graph) (path : Scalar) (o : NodeId) : Prop
  | path (h : path.isWritable = false)
  | parameter {p i s : NodeId} {is : List NodeId} (hp : g.field? o "parameters" = some p)
      (his : g.items? p = some is) (hi : i ∈ is) (hk : g.IsKeptParameter i)
      (hs : g.field? i "schema" = some s) (h : g.IsForeign s)
  | requestBody {b c : NodeId} (hb : g.field? o "requestBody" = some b)
      (hr : Document.reference? g b = none) (hc : g.field? b "content" = some c)
      (h : g.IsFlawedContent c)
  | response {r i c : NodeId} {status : Scalar} {es : List (Scalar × NodeId)}
      (hr : g.field? o "responses" = some r) (hes : g.entries? r = some es)
      (hi : (status, i) ∈ es) (href : Document.reference? g i = none)
      (hc : g.field? i "content" = some c) (h : g.IsFlawedContent c)
  | status {r i : NodeId} {status : Scalar} {es : List (Scalar × NodeId)}
      (hr : g.field? o "responses" = some r) (hes : g.entries? r = some es)
      (hi : (status, i) ∈ es) (hm : (g.entries? i).isSome = true)
      (href : Document.reference? g i = none) (h : status.isWritable = false)

/-- An entry of a path item cannot be described: its key has no text, or it is an operation with a
part that cannot be described. -/
def IsFlawedEntry (g : Graph) (path key : Scalar) (o : NodeId) : Prop :=
  key.isWritable = false ∨ ∃ m, g.IsOperation key o m ∧ g.IsFlawedOperation path o

lemma isFlawed_checkFields {g : Graph} {i : NodeId} :
    (g.checkFields i).IsFlawed ↔ g.IsForeign i := by
  unfold checkFields IsForeign
  split
  case h_1 es hes => simp [hes, isFlawed_checkTextKeys]
  case h_2 hes => simp [hes]

end Graph

namespace Document

open Attempt

variable {g : Graph} {d : Document} {path key : Scalar} {o : NodeId}

lemma fails_passed {α : Type} {c : Check α} : (passed c).Fails ↔ c.IsFlawed := by
  cases c with
  | ok a => simp [passed]
  | flawed fs => simp [passed, Fails, Check.IsFlawed]

lemma fails_needed_written {s : Scalar} :
    Fails (liftM (needed s.written) : Describing String) ↔ s.isWritable = false := by
  cases h : s.isWritable with
  | true => simp [Fails, needed_written h]
  | false => simp [Fails, needed, Scalar.written, h, Except.mapError]

/-- The schemas by media type are those that count for its text, if all media types have texts. -/
lemma mediaSchemas_eq_ok {content : Option NodeId} {schemas : List (String × Option NodeId)} :
    mediaSchemas g content = .ok schemas ↔
      (∀ e ∈ (content.bind g.entries?).getD [], e.1.isWritable = true) ∧
        schemas = ((content.bind g.entries?).getD []).foldl
          (fun done e => insertName e.1.display (g.field? e.2 "schema") done) [] := by
  have fold (es : List (Scalar × NodeId)) (done : List (String × Option NodeId)) :
      es.foldlM (fun done e => do
        return insertName (← e.1.written) (g.field? e.2 "schema") done) done = .ok schemas ↔
      (∀ e ∈ es, e.1.isWritable = true) ∧
        schemas = es.foldl
          (fun done e => insertName e.1.display (g.field? e.2 "schema") done) done := by
    induction es generalizing done with
    | nil =>
      simp only [List.foldlM_nil, List.foldl_nil, List.not_mem_nil, false_imp_iff, implies_true,
        true_and]
      exact ⟨fun h => (Except.ok.inj h).symm, fun h => congrArg Except.ok h.symm⟩
    | cons e es ih =>
      simp only [List.foldlM_cons, bind_eq_ok_iff, written_eq_ok, ih, List.foldl_cons,
        List.forall_mem_cons]
      constructor
      · rintro ⟨_, ⟨_, ⟨he, rfl⟩, ⟨⟩⟩, hes, rfl⟩
        exact ⟨⟨he, hes⟩, rfl⟩
      · rintro ⟨⟨he, hes⟩, rfl⟩
        exact ⟨_, ⟨_, ⟨he, rfl⟩, rfl⟩, hes, rfl⟩
  exact fold _ []

lemma isFlawed_checkMedia {media : String} {schema : Option NodeId} :
    (checkMedia g media schema).IsFlawed ↔ ∃ s, schema = some s ∧ g.IsForeign s := by
  unfold checkMedia
  cases schema with
  | none => simp
  | some s => simp [Graph.isFlawed_checkFields]

lemma fails_mediaSchemas {content : Option NodeId} :
    Fails (liftM (needed (mediaSchemas g content)) : Describing _) ↔
      ¬∀ e ∈ (content.bind g.entries?).getD [], e.1.isWritable = true := by
  cases h : mediaSchemas g content with
  | ok schemas => simpa [Fails, needed, Except.mapError] using (mediaSchemas_eq_ok.1 h).1
  | error e =>
    simp only [Fails, needed, Except.mapError, outcome_liftM, Except.error.injEq, exists_eq',
      true_iff]
    intro hall
    simp [mediaSchemas_eq_ok.2 ⟨hall, rfl⟩] at h

/-- Texts of all media types are needed before the first schema is checked. -/
lemma fails_describeContent_stages {content : Option NodeId} :
    Fails (describeContent g content) ↔
      (¬∀ e ∈ (content.bind g.entries?).getD [], e.1.isWritable = true) ∨
      ((∀ e ∈ (content.bind g.entries?).getD [], e.1.isWritable = true) ∧
        ∃ before e after s, (content.bind g.entries?).getD [] = before ++ e :: after ∧
          (∀ e' ∈ after, e'.1.display ≠ e.1.display) ∧ g.field? e.2 "schema" = some s ∧
          g.IsForeign s) := by
  rw [describeContent, fails_bind, fails_mediaSchemas]
  refine or_congr_right ?_
  simp only [outcome_liftM, needed, mapError_eq_ok_iff, mediaSchemas_eq_ok, fails_passed,
    Check.isFlawed_under, Check.isFlawed_all, List.mem_map]
  constructor
  · rintro ⟨_, ⟨hall, rfl⟩, _, ⟨e, he, rfl⟩, hflawed⟩
    obtain ⟨s, hs, hforeign⟩ := isFlawed_checkMedia.1 hflawed
    obtain ⟨before, x, after, hes, rfl, hlast⟩ := mem_foldl_insertName.1 he
    exact ⟨hall, before, x, after, s, hes, hlast, hs, hforeign⟩
  · rintro ⟨hall, before, x, after, s, hes, hlast, hs, hforeign⟩
    refine ⟨_, ⟨hall, rfl⟩, _, ⟨(x.1.display, g.field? x.2 "schema"), ?_, rfl⟩, ?_⟩
    · exact mem_foldl_insertName.2 ⟨before, x, after, hes, rfl, hlast⟩
    · exact isFlawed_checkMedia.2 ⟨s, hs, hforeign⟩

lemma fails_describeContent {content : Option NodeId} :
    Fails (describeContent g content) ↔ ∃ c, content = some c ∧ g.IsFlawedContent c := by
  rw [fails_describeContent_stages]
  cases hes : content.bind g.entries? with
  | none =>
    simp only [Option.getD_none, List.not_mem_nil, false_imp_iff, implies_true, not_true_eq_false,
      List.nil_eq, List.append_eq_nil_iff, reduceCtorEq, and_false, false_and, exists_false,
      or_self, false_iff]
    rintro ⟨c, rfl, hc⟩
    cases hc with
    | mediaType h => simp [h] at hes
    | schema h => simp [h] at hes
  | some es =>
    obtain ⟨c, rfl, hc⟩ := Option.bind_eq_some_iff.1 hes
    simp only [Option.getD_some, Option.some.injEq, exists_eq_left']
    constructor
    · rintro (h | ⟨-, before, e, after, s, rfl, hlast, hs, hforeign⟩)
      · simp only [not_forall, Bool.not_eq_true] at h
        obtain ⟨e, he, h⟩ := h
        exact .mediaType hc he h
      · exact .schema hc hlast hs hforeign
    · intro h
      by_cases hall : ∀ e ∈ es, e.1.isWritable = true
      · cases h with
        | mediaType h he hw =>
          obtain rfl : es = _ := Option.some.inj (hc.symm.trans h)
          simp [hall _ he] at hw
        | schema h hlast hs hforeign =>
          obtain rfl : es = _ := Option.some.inj (hc.symm.trans h)
          exact .inr ⟨hall, _, _, _, _, rfl, hlast, hs, hforeign⟩
      · exact .inl hall

lemma fails_describeParameter {text : String} {i : NodeId} :
    Fails (describeParameter g text i) ↔
      g.IsKeptParameter i ∧ ∃ s, g.field? i "schema" = some s ∧ g.IsForeign s := by
  rcases describeParameter_cases g text i with ⟨t, ht, h⟩ | ⟨-, hk, h | ⟨n, -, h⟩⟩ | ⟨hk, p, h⟩
  · have hk : ¬g.IsKeptParameter i := fun hk => by simp [hk.reference] at ht
    simp [h, hk]
  · simp [h, hk]
  · simp [h, hk]
  · rw [h, fails_bind_of_forall fun _ => fails_pure _, or_false, fails_passed,
      Check.isFlawed_under]
    cases g.field? i "schema" with
    | none => simp
    | some s => simp [hk, Graph.isFlawed_checkFields]

lemma fails_describeParameters {text : String} :
    Fails (describeParameters g text o) ↔ ∃ p is, ∃ i ∈ is, g.field? o "parameters" = some p ∧
      g.items? p = some is ∧ g.IsKeptParameter i ∧
        ∃ s, g.field? i "schema" = some s ∧ g.IsForeign s := by
  rw [describeParameters, fails_bind_of_forall fun _ => fails_pure _, or_false, fails_mapM]
  simp only [fails_describeParameter, exists_mem_items]

lemma fails_describeBody : Fails (describeBody g o) ↔ ∃ b c, g.field? o "requestBody" = some b ∧
    reference? g b = none ∧ g.field? b "content" = some c ∧ g.IsFlawedContent c := by
  rcases describeBody_cases g o with ⟨hb, h⟩ | ⟨b, hb, hr, body, h⟩
  · rw [h, fails_pure, false_iff]
    rintro ⟨b, c, hb', hr, hc, -⟩
    rcases hb b hb' with hn | hne
    · simp [field?_eq_none hn] at hc
    · exact hne hr
  · rw [h, fails_bind_of_forall fun _ => fails_pure _, or_false, fails_describeContent, hb]
    simp [hr]

lemma fails_describeResponse {text : String} {status : Scalar} {i : NodeId} :
    Fails (describeResponse g text status i) ↔ (g.entries? i).isSome = true ∧
      reference? g i = none ∧ ((∃ c, g.field? i "content" = some c ∧ g.IsFlawedContent c) ∨
        status.isWritable = false) := by
  rcases describeResponse_cases g text status i with ⟨hn, h⟩ | ⟨t, ht, h⟩ | ⟨hm, hr, response, h⟩
  · simp [h, hn]
  · simp [h, ht]
  · rw [h, fails_bind_of_forall fun _ => (fails_bind_of_forall fun _ => fails_pure _).trans
      ((or_false _).to_iff.trans fails_needed_written)]
    cases g.field? i "content" with
    | none => simp [hm, hr]
    | some c => simp [hm, hr, fails_describeContent]

lemma fails_describeResponses {text : String} :
    Fails (describeResponses g text o) ↔ ∃ r es, ∃ e ∈ es, g.field? o "responses" = some r ∧
      g.entries? r = some es ∧ (g.entries? e.2).isSome = true ∧ reference? g e.2 = none ∧
        ((∃ c, g.field? e.2 "content" = some c ∧ g.IsFlawedContent c) ∨
          e.1.isWritable = false) := by
  rw [describeResponses, fails_bind_of_forall fun _ => fails_pure _, or_false, fails_mapM]
  simp only [fails_describeResponse, exists_mem_entries]

/-! ### Operations -/

lemma fails_describeOperation_of_isOperation {m : Method} (h : g.IsOperation key o m) :
    Fails (describeOperation g path key o) ↔ g.IsFlawedOperation path o := by
  have parts : Fails (describeOperation g path key o) ↔ path.isWritable = false ∨
      (Fails (describeParameters g "" o) ∨ Fails (describeBody g o) ∨
        Fails (describeResponses g "" o)) := by
    rw [describeOperation_of_isOperation h, fails_bind_of_forall, fails_needed_written]
    intro text
    rw [fails_bind_of_forall, fails_describeParameters, fails_describeParameters]
    intro ps
    rw [fails_bind_of_forall]
    intro body
    rw [fails_bind_of_forall fun _ => fails_pure _, or_false, fails_describeResponses,
      fails_describeResponses]
  rw [parts, fails_describeParameters, fails_describeBody, fails_describeResponses]
  constructor
  · rintro (hp | ⟨p, is, i, hi, hp, his, hk, s, hs, h⟩ | ⟨b, c, hb, hr, hc, h⟩ |
      ⟨r, es, e, he, hr, hes, hm, href, ⟨c, hc, h⟩ | h⟩)
    · exact .path hp
    · exact .parameter hp his hi hk hs h
    · exact .requestBody hb hr hc h
    · exact .response hr hes he href hc h
    · exact .status hr hes he hm href h
  · intro h
    cases h with
    | path h => exact .inl h
    | parameter hp his hi hk hs h =>
      exact .inr (.inl ⟨_, _, _, hi, hp, his, hk, _, hs, h⟩)
    | requestBody hb hr hc h => exact .inr (.inr (.inl ⟨_, _, hb, hr, hc, h⟩))
    | response hr hes hi href hc h =>
      obtain ⟨es, hes', -⟩ := Option.bind_eq_some_iff.1 hc
      exact .inr (.inr (.inr ⟨_, _, _, hi, hr, hes, Option.isSome_of_mem hes', href,
        .inl ⟨_, hc, h⟩⟩))
    | status hr hes hi hm href h =>
      exact .inr (.inr (.inr ⟨_, _, _, hi, hr, hes, hm, href, .inr h⟩))

lemma fails_describeOperation :
    Fails (describeOperation g path key o) ↔ g.IsFlawedEntry path key o := by
  unfold Graph.IsFlawedEntry
  by_cases hk : key.isWritable = true
  · by_cases hop : ∃ m, g.IsOperation key o m
    · obtain ⟨m, hop⟩ := hop
      rw [fails_describeOperation_of_isOperation hop]
      constructor
      · exact fun h => .inr ⟨m, hop, h⟩
      · rintro (h | ⟨_, -, h⟩)
        · simp [hk] at h
        · exact h
    · have none : ¬(key.isWritable = false ∨ ∃ m, g.IsOperation key o m ∧
          g.IsFlawedOperation path o) := by
        rintro (h | ⟨m, h, -⟩)
        · simp [hk] at h
        · exact hop ⟨m, h⟩
      rw [iff_false_right none]
      rcases describeOperation_of_not_isOperation path hk (not_exists.1 hop) with hn | ⟨m, p, hn⟩
      · simp [hn]
      · simp [hn]
  · have hk : key.isWritable = false := by simpa using hk
    simp [describeOperation, Fails, needed, Scalar.written, hk, Except.mapError,
      bind_eq_error_iff]

lemma fails_describeOperations {paths : List (Scalar × NodeId)} :
    Fails (describeOperations g paths) ↔ ∃ p ∈ paths, ∃ es, g.entries? p.2 = some es ∧
      ∃ e ∈ es, g.IsFlawedEntry p.1 e.1 e.2 := by
  simp only [describeOperations, describePathItem, fails_bind, fails_mapM,
    fails_describeOperation, fails_pure, and_false, exists_false, or_false]
  refine exists_congr fun p => and_congr_right fun _ => ?_
  cases g.entries? p.2 with
  | none => simp
  | some es => simp

/-! ### Errors of operations are not reported -/

/-- A computation whose errors are none of those that are reported. -/
abbrev IsUnreported {α : Type} (x : Describing α) : Prop :=
  x.FailsOnly fun e => e.isReported = false

lemma isUnreported_needed {α : Type} (x : Except TextError α) :
    IsUnreported (liftM (needed x) : Describing α) := by
  intro e he
  cases x with
  | ok a => simp [needed, Except.mapError] at he
  | error e' =>
    simp only [needed, Except.mapError, outcome_liftM, Except.error.injEq] at he
    exact he ▸ rfl

lemma isUnreported_passed {α : Type} (c : Check α) : IsUnreported (passed c) := by
  intro e he
  cases c with
  | ok a => simp [passed] at he
  | flawed fs =>
    simp only [passed, outcome_throw, Except.error.injEq] at he
    exact he ▸ rfl

lemma isUnreported_describeContent (content : Option NodeId) :
    IsUnreported (describeContent g content) :=
  (isUnreported_needed _).bind fun _ => isUnreported_passed _

lemma isUnreported_describeParameter (text : String) (i : NodeId) :
    IsUnreported (describeParameter g text i) := by
  rcases describeParameter_cases g text i with ⟨t, -, h⟩ | ⟨-, -, h | ⟨n, -, h⟩⟩ | ⟨-, p, h⟩
  · rw [h]
    exact (failsOnly_note _).bind fun _ => failsOnly_pure _
  · rw [h]
    exact failsOnly_pure _
  · rw [h]
    exact (failsOnly_note _).bind fun _ => failsOnly_pure _
  · rw [h]
    exact (isUnreported_passed _).bind fun _ => failsOnly_pure _

lemma isUnreported_describeBody : IsUnreported (describeBody g o) := by
  rcases describeBody_cases g o with ⟨-, h⟩ | ⟨b, -, -, body, h⟩
  · rw [h]
    exact failsOnly_pure _
  · rw [h]
    exact (isUnreported_describeContent _).bind fun _ => failsOnly_pure _

lemma isUnreported_describeResponse (text : String) (status : Scalar) (i : NodeId) :
    IsUnreported (describeResponse g text status i) := by
  rcases describeResponse_cases g text status i with ⟨-, h⟩ | ⟨t, -, h⟩ | ⟨-, -, response, h⟩
  · rw [h]
    exact failsOnly_pure _
  · rw [h]
    exact (failsOnly_note _).bind fun _ => failsOnly_pure _
  · rw [h]
    refine FailsOnly.bind ?_ fun content => (isUnreported_needed _).bind fun _ => failsOnly_pure _
    cases g.field? i "content" with
    | none => exact failsOnly_pure _
    | some c => exact (isUnreported_describeContent _).map some

lemma isUnreported_describeOperation : IsUnreported (describeOperation g path key o) := by
  unfold describeOperation
  refine (isUnreported_needed _).bind fun name => ?_
  split
  case h_1 =>
    split
    case isTrue => exact (failsOnly_note _).bind fun _ => failsOnly_pure _
    case isFalse =>
      refine (isUnreported_needed _).bind fun text => ?_
      refine FailsOnly.bind ?_ fun ps => isUnreported_describeBody.bind fun body =>
        FailsOnly.bind ?_ fun rs => failsOnly_pure _
      · exact (FailsOnly.mapM fun i _ => isUnreported_describeParameter text i).bind
          fun _ => failsOnly_pure _
      · exact (FailsOnly.mapM fun e _ => isUnreported_describeResponse text e.1 e.2).bind
          fun _ => failsOnly_pure _
  case h_2 => exact failsOnly_pure _

lemma isUnreported_describeOperations (paths : List (Scalar × NodeId)) :
    IsUnreported (describeOperations g paths) :=
  (FailsOnly.mapM fun _ _ => (FailsOnly.mapM fun _ _ => isUnreported_describeOperation).bind
    fun _ => failsOnly_pure _).bind fun _ => failsOnly_pure _

end Document

end ApiBridge
