import ApiBridge.Proofs.Description.Escapes
import ApiBridge.Proofs.Document.Settling
import Mathlib.Algebra.Group.Int.Defs

/-!
# Refusals

What stands at the head of a document decides whether it is described: the general information
first, then the dialect and the paths, then the servers. Where all keys are texts, nothing else is
refused, whatever the operations and the schemas are. Only a number with too many digits, where its
text is needed, comes to an error that is not reported as one of descriptions.
-/

namespace ApiBridge

/-! ### Maps with texts as keys -/

namespace Graph

/-- All keys at a node and below it are texts. -/
def IsTextual (g : Graph) (i : NodeId) : Prop :=
  ∀ j, g.Reaches i j → ∀ es, g.entries? j = some es → ∀ e ∈ es, ∃ s, e.1 = .text s

variable {g : Graph} {i j : NodeId} {es : List (Scalar × NodeId)} {e : Scalar × NodeId}

namespace IsTextual

/-- It is enough to look at each node once. -/
lemma of_nodes (h : ∀ i < g.nodes.size, ((g.entries? i).getD []).all (fun e =>
    (Layer.scalar e.1 : Node).text?.isSome) = true) : g.IsTextual i := by
  intro j _ es hes e he
  have texts := h j (lt_size_of_entries? hes)
  rw [hes, Option.getD_some, List.all_eq_true] at texts
  obtain ⟨s, hs⟩ := Option.isSome_iff_exists.1 (texts e he)
  refine ⟨s, ?_⟩
  cases hk : e.1 with
  | text t => simpa [hk, Layer.text?] using hs
  | _ => simp [hk, Layer.text?] at hs

lemma key (h : g.IsTextual i) (hes : g.entries? i = some es) (he : e ∈ es) :
    ∃ s, e.1 = .text s :=
  h i .refl es hes e he

lemma part (h : g.IsTextual i) (hj : j ∈ (g.node i).parts) : g.IsTextual j :=
  fun k hk => h k (.head hj hk)

lemma entry (h : g.IsTextual i) (hes : g.entries? i = some es) (he : e ∈ es) :
    g.IsTextual e.2 := by
  refine h.part ?_
  rw [node_eq_of_entries? hes, Layer.parts]
  exact List.mem_map_of_mem he

lemma field {name : String} (h : g.IsTextual i) (hj : g.field? i name = some j) :
    g.IsTextual j := by
  obtain ⟨es, hes, hl⟩ := Option.bind_eq_some_iff.1 hj
  obtain ⟨e, he, rfl⟩ := Option.map_eq_some_iff.1 hl
  exact h.entry hes (List.mem_of_find?_eq_some he)

lemma item {is : List NodeId} (h : g.IsTextual i) (his : g.items? i = some is) (hj : j ∈ is) :
    g.IsTextual j := by
  refine h.part ?_
  rwa [node_eq_of_items? his, Layer.parts]

lemma not_isForeign (h : g.IsTextual i) : ¬g.IsForeign i := by
  rintro ⟨es, hes, e, he, hn⟩
  obtain ⟨s, hs⟩ := h.key hes he
  rw [hs] at hn
  exact hn trivial

lemma isWritable (h : g.IsTextual i) (hes : g.entries? i = some es) (he : e ∈ es) :
    e.1.isWritable = true := by
  obtain ⟨s, hs⟩ := h.key hes he
  rw [hs, Scalar.isWritable_text]

lemma not_isFlawedContent (h : g.IsTextual i) : ¬g.IsFlawedContent i := by
  intro hf
  cases hf with
  | mediaType hes he hw => simp [h.isWritable hes he] at hw
  | schema hes _ hs hf => exact ((h.entry hes (by simp)).field hs).not_isForeign hf

lemma not_isFlawedOperation {path : Scalar} (hpath : path.isWritable = true)
    (h : g.IsTextual i) : ¬g.IsFlawedOperation path i := by
  intro hf
  cases hf with
  | path hw => simp [hpath] at hw
  | parameter hp his hi _ hs hf =>
    exact (((h.field hp).item his hi).field hs).not_isForeign hf
  | requestBody hb _ hc hf => exact ((h.field hb).field hc).not_isFlawedContent hf
  | response hr hes hi _ hc hf =>
    exact (((h.field hr).entry hes hi).field hc).not_isFlawedContent hf
  | status hr hes hi _ _ hw => simp [(h.field hr).isWritable hes hi] at hw

end IsTextual

end Graph

/-! ### The head of a document -/

/-- A value that is taken as a text that is required: a text that is not empty, or a number. -/
inductive Node.IsRequired : Node → Prop
  | text {s : String} (h : s ≠ "") : IsRequired (.scalar (.text s))
  | int (n : Int) : IsRequired (.scalar (.int n))
  | float (x : Binary64) : IsRequired (.scalar (.float x))

/-- A required text is there. -/
def Graph.HasRequired (g : Graph) (i : NodeId) (key : String) : Prop :=
  ∃ j, g.field? i key = some j ∧ (g.node j).IsRequired

namespace Document

open Attempt

/-- There is general information with a title and a version. -/
def HasInfo (d : Document) : Prop :=
  ∃ i, d.field? "info" = some i ∧ d.graph.HasRequired i "title" ∧ d.graph.HasRequired i "version"

/-- The version of the dialect is there, and it is the third. -/
structure HasVersion (d : Document) : Prop where
  swagger : d.field? "swagger" = none
  openapi : ∃ i, d.field? "openapi" = some i ∧ d.graph.node i ≠ .scalar .null ∧
    (d.graph.unfold i).display.startsWith "3." = true

/-- The paths are a map if they are there. -/
def HasPaths (d : Document) : Prop :=
  ∀ i, d.field? "paths" = some i →
    d.graph.node i = .scalar .null ∨ (d.graph.entries? i).isSome = true

/-- The document is one of the dialect. -/
structure HasDialect (d : Document) : Prop where
  version : d.HasVersion
  paths : d.HasPaths

/-- The servers are a list if they are there. -/
def HasServers (d : Document) : Prop :=
  ∀ i, d.field? "servers" = some i →
    d.graph.node i = .scalar .null ∨ (d.graph.items? i).isSome = true

/-- A text is needed of a number that has too many digits for one: at one of the stages of
describing the head, where those before it are passed. -/
inductive NeedsLongText (d : Document) : Prop
  | title {i : NodeId} (hi : d.field? "info" = some i) (h : d.graph.HasLongNumber i "title")
  | version {i : NodeId} (hi : d.field? "info" = some i) (ht : d.graph.HasRequired i "title")
      (h : d.graph.HasLongNumber i "version")
  | otherDialect {i : NodeId} (hinfo : d.HasInfo) (hi : d.field? "swagger" = some i)
      (h : d.graph.IsLong i)
  | dialect {i : NodeId} (hinfo : d.HasInfo) (hs : d.field? "swagger" = none)
      (hi : d.field? "openapi" = some i) (h : d.graph.IsLong i)
  | server {i s u : NodeId} {items : List NodeId} (hinfo : d.HasInfo) (hdialect : d.HasDialect)
      (hi : d.field? "servers" = some i) (hitems : d.graph.items? i = some items) (hs : s ∈ items)
      (hu : d.graph.field? s "url" = some u) (h : d.graph.IsLong u)

variable {d : Document} {g : Graph} {i : NodeId} {key : String}

/-! ### Verdicts -/

/-- An error for a part that is missing or malformed. -/
abbrev IsMalformed (e : DescriptionError) : Prop :=
  e.isMalformed = true

/-- An error for a document that is no description of the dialect. -/
abbrev IsUnsupported (e : DescriptionError) : Prop :=
  e.isReported = true ∧ e.isMalformed = false

/-- What a stage comes to. Unless its error is not reported, the stage is passed where `p` holds,
and otherwise it is refused with an error of the kind `q`. -/
inductive Verdict {α : Type} (p : Prop) (q : DescriptionError → Prop)
    (x : Except DescriptionError α) : Prop
  | unreported (h : Unreported x)
  | passed (hp : p) {a : α} (h : x = .ok a)
  | refused (hp : ¬p) {e : DescriptionError} (h : x = .error e) (he : q e)

namespace Verdict

variable {α β : Type} {p p' : Prop} {q : DescriptionError → Prop} {x : Except DescriptionError α}
  {f : α → Except DescriptionError β} {a : α}

lemma congr (v : Verdict p q x) (h : p ↔ p') : Verdict p' q x := by
  rwa [← h]

lemma of_ok (v : Verdict p q x) (h : x = .ok a) : p := by
  cases v with
  | unreported he =>
    obtain ⟨e, he, -⟩ := he
    cases h.symm.trans he
  | passed hp => exact hp
  | refused _ he => cases h.symm.trans he

lemma unreported_or_ok (v : Verdict p q x) (hp : p) : Unreported x ∨ ∃ a, x = .ok a := by
  cases v with
  | unreported h => exact .inl h
  | passed _ h => exact .inr ⟨_, h⟩
  | refused hn => exact absurd hp hn

/-- Of two stages the second one is gone through where the first one is passed. -/
lemma bind {q' : DescriptionError → Prop} (v : Verdict p q x) (hq : ∀ e, ¬p → q e → q' e)
    (hf : p → ∀ a, x = .ok a → Verdict p' q' (f a)) : Verdict (p ∧ p') q' (x >>= f) := by
  cases v with
  | unreported h => exact .unreported (unreported_bind.2 (.inl h))
  | refused hn h he => exact .refused (fun hp => hn hp.1) (by rw [h]; rfl) (hq _ hn he)
  | @passed hp a h =>
    have second : x >>= f = f a := by
      rw [h]
      rfl
    cases hf hp a h with
    | unreported h' => exact .unreported (unreported_bind.2 (.inr ⟨_, h, h'⟩))
    | passed hp' h' => exact .passed ⟨hp, hp'⟩ (second.trans h')
    | refused hn h' he => exact .refused (fun hp => hn hp.2) (second.trans h') he

end Verdict

/-! ### Stages -/

lemma requiredText_verdict (g : Graph) (i : NodeId) (key : String) :
    Verdict (g.HasRequired i key) IsMalformed (requiredText g i key) := by
  cases hj : g.field? i key with
  | none =>
    refine .refused ?_ (e := .fieldMissing key) (by simp [requiredText, hj]) rfl
    rintro ⟨j, hj', -⟩
    cases hj.symm.trans hj'
  | some j =>
    have here : g.HasRequired i key ↔ (g.node j).IsRequired := by simp [Graph.HasRequired, hj]
    rw [here, requiredText, hj, Option.map_some]
    generalize g.node j = n
    split
    case h_1 t hl =>
      cases hl
      split
      case isTrue ht => exact .refused (fun h => by cases h; contradiction) rfl rfl
      case isFalse ht => exact .passed (.text ht) rfl
    case h_2 n hl =>
      cases hl
      cases hw : (Scalar.int n).isWritable with
      | false => exact .unreported (unreported_needed.2 ⟨_, by rw [Scalar.written, hw]; rfl⟩)
      | true => exact .passed (.int n) (needed_written hw)
    case h_3 x hl =>
      cases hl
      exact .passed (.float x) (needed_written rfl)
    case h_4 h1 h2 h3 =>
      refine .refused (fun h => ?_) rfl rfl
      cases h with
      | text => exact h1 _ rfl
      | int => exact h2 _ rfl
      | float => exact h3 _ rfl

lemma describeInfo_verdict (d : Document) : Verdict d.HasInfo IsMalformed d.describeInfo := by
  cases hi : d.field? "info" with
  | none =>
    refine .refused ?_ (e := .infoMissing) (by simp [describeInfo, hi]) rfl
    rintro ⟨i, hi', -⟩
    cases hi.symm.trans hi'
  | some i =>
    have here : d.HasInfo ↔ d.graph.HasRequired i "title" ∧ d.graph.HasRequired i "version" := by
      simp [HasInfo, hi]
    rw [here]
    by_cases hm : (d.graph.entries? i).isSome = true
    · have stages : d.describeInfo = do
          let title ← requiredText d.graph i "title"
          let version ← requiredText d.graph i "version"
          return ⟨title, version, d.graph.fieldText? i "description"⟩ := by
        simp [describeInfo, hi, hm]
      rw [stages]
      refine (requiredText_verdict _ _ _).bind (fun _ _ he => he) fun _ title _ => ?_
      refine ((requiredText_verdict _ _ _).bind (fun _ _ he => he) fun _ version _ => ?_).congr
        (and_iff_left trivial)
      exact .passed trivial rfl
    · refine .refused ?_ (e := .infoMissing) (by simp [describeInfo, hi, hm]) rfl
      rintro ⟨⟨j, hj, -⟩, -⟩
      have none : d.graph.field? i "title" = none := field?_eq_none (by simpa using hm) _
      cases none.symm.trans hj

lemma needed_written_of_not_isLong (h : ¬g.IsLong i) :
    needed (g.written i) = .ok (g.unfold i).display := by
  have hw : (g.unfold i).isWritable = true := by simpa [Graph.IsLong] using h
  simp [Graph.written, Value.written, hw, needed, Except.mapError]

lemma describeVersion_verdict (d : Document) :
    Verdict d.HasVersion IsUnsupported d.describeVersion := by
  cases hs : d.field? "swagger" with
  | some i =>
    by_cases hl : d.graph.IsLong i
    · exact .unreported (unreported_describeVersion.2 (.inl ⟨i, hs, hl⟩))
    · have stage : d.describeVersion = .error (.otherDialect (d.graph.unfold i).display) := by
        simp only [describeVersion, hs, needed_written_of_not_isLong hl]
        rfl
      exact .refused (fun h => nomatch hs.symm.trans h.swagger) stage ⟨rfl, rfl⟩
  | none =>
    cases ho : d.field? "openapi" with
    | none =>
      refine .refused (fun h => ?_) (e := .versionMissing) ?_ ⟨rfl, rfl⟩
      · obtain ⟨j, hj, -⟩ := h.openapi
        cases ho.symm.trans hj
      · simp only [describeVersion, hs, ho]
        rfl
    | some j =>
      have here (h : d.HasVersion) : d.graph.node j ≠ .scalar .null ∧
          (d.graph.unfold j).display.startsWith "3." = true := by
        obtain ⟨j', hj', h⟩ := h.openapi
        obtain rfl : j = j' := Option.some.inj (ho.symm.trans hj')
        exact h
      by_cases hnull : d.graph.node j = .scalar .null
      · refine .refused (fun h => (here h).1 hnull) (e := .versionMissing) ?_ ⟨rfl, rfl⟩
        simp only [describeVersion, hs, ho, hnull]
        rfl
      by_cases hl : d.graph.IsLong j
      · exact .unreported (unreported_describeVersion.2 (.inr ⟨hs, j, ho, hl⟩))
      have stage : d.describeVersion =
          if (d.graph.unfold j).display.startsWith "3." then .ok (d.graph.unfold j).display
          else .error (.versionUnsupported (d.graph.unfold j).display) := by
        simp only [describeVersion, hs, ho, hnull, needed_written_of_not_isLong hl]
        rfl
      by_cases hthree : (d.graph.unfold j).display.startsWith "3." = true
      · exact .passed ⟨hs, j, ho, hnull, hthree⟩ (by rw [stage, if_pos hthree])
      · exact .refused (fun h => hthree (here h).2) (by rw [stage, if_neg hthree]) ⟨rfl, rfl⟩

lemma describePaths_verdict (d : Document) :
    Verdict d.HasPaths IsUnsupported d.describePaths := by
  cases hi : d.field? "paths" with
  | none => exact .passed (fun i h => nomatch hi.symm.trans h) (by rw [describePaths, hi]; rfl)
  | some i =>
    have here : d.HasPaths ↔
        d.graph.node i = .scalar .null ∨ (d.graph.entries? i).isSome = true := by
      simp [HasPaths, hi]
    rw [here, describePaths, hi, Option.map_some, Graph.entries?]
    split
    case h_1 hn => cases hn
    case h_2 hn => exact .passed (.inl (Option.some.inj hn)) rfl
    case h_3 es hn => exact .passed (.inr (by rw [Option.some.inj hn]; rfl)) rfl
    case h_4 n hnull hmap hn =>
      cases hn
      refine .refused ?_ rfl ⟨rfl, rfl⟩
      rintro (h | h)
      · exact hnull h
      · obtain ⟨es, hes⟩ := Option.isSome_iff_exists.1 h
        exact hmap es (Graph.node_eq_of_entries? hes)

lemma describeServers_verdict (d : Document) :
    Verdict d.HasServers IsMalformed d.describeServers := by
  cases hi : d.field? "servers" with
  | none => exact .passed (fun i h => nomatch hi.symm.trans h) (by rw [describeServers, hi]; rfl)
  | some i =>
    have here : d.HasServers ↔
        d.graph.node i = .scalar .null ∨ (d.graph.items? i).isSome = true := by
      simp [HasServers, hi]
    rw [here, describeServers, hi, Option.map_some, Graph.items?]
    split
    case h_1 hn => cases hn
    case h_2 hn => exact .passed (.inl (Option.some.inj hn)) rfl
    case h_3 is hn =>
      cases is.mapM (describeServer d.graph) with
      | ok servers => exact .passed (.inr (by rw [Option.some.inj hn]; rfl)) rfl
      | error e => exact .unreported ⟨_, rfl, rfl⟩
    case h_4 n hnull hlist hn =>
      cases hn
      refine .refused ?_ rfl rfl
      rintro (h | h)
      · exact hnull h
      · obtain ⟨is, his⟩ := Option.isSome_iff_exists.1 h
        exact hlist is (Graph.node_eq_of_items? his)

/-! ### Operations and schemas -/

lemma not_fails_describeOperations (ht : d.graph.IsTextual d.root)
    {paths : List (Scalar × NodeId)} (hp : d.describePaths = .ok paths) :
    ¬Fails (describeOperations d.graph paths) := by
  rw [fails_describeOperations]
  rintro ⟨p, hmem, es, hes, e, he, hf⟩
  obtain ⟨i, hi, hpaths⟩ := field?_of_describePaths hp hmem
  have textual : d.graph.IsTextual i := ht.field hi
  have item : d.graph.IsTextual p.2 := textual.entry hpaths hmem
  rcases hf with hw | ⟨m, -, hf⟩
  · simp [item.isWritable hes he] at hw
  · exact (item.entry hes he).not_isFlawedOperation (textual.isWritable hpaths hmem) hf

lemma not_exists_foreign_schema (ht : d.graph.IsTextual d.root) :
    ¬∃ e ∈ d.schemaEntries, ¬e.1.IsName := by
  rintro ⟨e, he, hn⟩
  obtain ⟨es, hes, hmem⟩ : ∃ es, (((d.field? "components").bind
      (d.graph.field? · "schemas")).bind d.graph.entries?) = some es ∧ e ∈ es := by
    rw [schemaEntries] at he
    cases hes : ((d.field? "components").bind (d.graph.field? · "schemas")).bind
      d.graph.entries? with
    | none => simp [hes] at he
    | some es => exact ⟨es, rfl, by simpa [hes] using he⟩
  obtain ⟨s, hs, hes⟩ := Option.bind_eq_some_iff.1 hes
  obtain ⟨c, hc, hs⟩ := Option.bind_eq_some_iff.1 hs
  obtain ⟨text, htext⟩ := ((ht.field hc).field hs).key hes hmem
  rw [htext] at hn
  exact hn trivial

/-- With texts as keys nothing is refused behind the head of the document. -/
lemma exists_describe_rest (ht : d.graph.IsTextual d.root) {paths : List (Scalar × NodeId)}
    (hp : d.describePaths = .ok paths) : ∃ ops schemas,
      (describeOperations d.graph paths).outcome = .ok ops ∧
      (passed (.under (.name "schemas") (checkTextKeys d.schemaEntries)) : Describing _).outcome =
        .ok schemas := by
  cases hops : (describeOperations d.graph paths).outcome with
  | error e => exact absurd ⟨e, hops⟩ (not_fails_describeOperations ht hp)
  | ok ops =>
    cases hs : checkTextKeys d.schemaEntries with
    | flawed fs => exact absurd (isFlawed_checkTextKeys.1 ⟨fs, hs⟩) (not_exists_foreign_schema ht)
    | ok schemas => exact ⟨ops, schemas, rfl, rfl⟩

/-! ### All stages -/

/-- The stages one after another. -/
lemma outcome_describe (hroot : (d.graph.entries? d.root).isSome = true) :
    d.describe.outcome = do
      let info ← d.describeInfo
      let version ← d.describeVersion
      let paths ← d.describePaths
      let servers ← d.describeServers
      let operations ← (describeOperations d.graph paths).outcome
      let schemas ← (passed (.under (.name "schemas") (checkTextKeys d.schemaEntries)) :
        Describing _).outcome
      return ⟨info, servers, operations, schemas, version⟩ := by
  have hn : (d.graph.entries? d.root).isNone = false := Option.isNone_eq_false_iff.2 hroot
  unfold describe
  simp only [hn, Bool.false_eq_true, if_false, outcome_bind, outcome_liftM, outcome_pure]
  rfl

/-- The first of these parts that is not as it must be is what a document is refused for. -/
inductive Refuses (d : Document) (e : DescriptionError) : Prop
  | info (hinfo : ¬d.HasInfo) (he : IsMalformed e)
  | dialect (hinfo : d.HasInfo) (hdialect : ¬d.HasDialect) (he : IsUnsupported e)
  | servers (hinfo : d.HasInfo) (hdialect : d.HasDialect) (hservers : ¬d.HasServers)
      (he : IsMalformed e)

lemma describe_verdict (ht : d.graph.IsTextual d.root)
    (hroot : (d.graph.entries? d.root).isSome = true) :
    Verdict (d.HasInfo ∧ d.HasDialect ∧ d.HasServers) d.Refuses d.describe.outcome := by
  have parts : (d.HasInfo ∧ d.HasVersion ∧ d.HasPaths ∧ d.HasServers ∧ True) ↔
      d.HasInfo ∧ d.HasDialect ∧ d.HasServers := by
    constructor
    · rintro ⟨hi, hv, hp, hs, -⟩
      exact ⟨hi, ⟨hv, hp⟩, hs⟩
    · rintro ⟨hi, hd, hs⟩
      exact ⟨hi, hd.version, hd.paths, hs, trivial⟩
  rw [outcome_describe hroot, ← parts]
  refine (describeInfo_verdict d).bind (fun e hn he => .info hn he) fun hinfo info _ => ?_
  refine (describeVersion_verdict d).bind
    (fun e hn he => .dialect hinfo (fun h => hn h.version) he) fun hversion version _ => ?_
  refine (describePaths_verdict d).bind
    (fun e hn he => .dialect hinfo (fun h => hn h.paths) he) fun hpaths paths hp => ?_
  refine (describeServers_verdict d).bind
    (fun e hn he => .servers hinfo ⟨hversion, hpaths⟩ hn he) fun _ servers _ => ?_
  obtain ⟨ops, schemas, hops, hschemas⟩ := exists_describe_rest ht hp
  rw [hops, hschemas]
  exact .passed trivial rfl

/-- Exactly then an error is not reported. -/
lemma unreported_iff_needsLongText (ht : d.graph.IsTextual d.root)
    (hroot : (d.graph.entries? d.root).isSome = true) :
    Unreported d.describe.outcome ↔ d.NeedsLongText := by
  have info := describeInfo_verdict d
  have version := describeVersion_verdict d
  have paths := describePaths_verdict d
  rw [unreported_describe hroot]
  constructor
  · rintro (h | ⟨i, hi, h | ⟨v, hv, ps, hp, h | ⟨servers, -, h⟩⟩⟩)
    · obtain ⟨i, hi, h | ⟨⟨title, htitle⟩, h⟩⟩ := unreported_describeInfo.1 h
      · exact .title hi h
      · exact .version hi ((requiredText_verdict _ _ _).of_ok htitle) h
    · obtain ⟨i, hi', h⟩ | ⟨hs, i, hi', h⟩ := unreported_describeVersion.1 h
      · exact .otherDialect (info.of_ok hi) hi' h
      · exact .dialect (info.of_ok hi) hs hi' h
    · obtain ⟨i, items, s, hs, u, hi', hitems, hu, h⟩ := unreported_describeServers.1 h
      exact .server (info.of_ok hi) ⟨version.of_ok hv, paths.of_ok hp⟩ hi' hitems hs hu h
    · exact absurd h (not_or.2 ⟨not_fails_describeOperations ht hp, not_exists_foreign_schema ht⟩)
  · intro h
    cases h with
    | title hi h => exact .inl (unreported_describeInfo.2 ⟨_, hi, .inl h⟩)
    | version hi htitle h =>
      refine .inl (unreported_describeInfo.2 ⟨_, hi, ?_⟩)
      rcases (requiredText_verdict _ _ _).unreported_or_ok htitle with hl | hok
      · exact .inl (unreported_requiredText.1 hl)
      · exact .inr ⟨hok, h⟩
    | otherDialect hinfo hi h =>
      refine (info.unreported_or_ok hinfo).imp_right fun ⟨i, hok⟩ => ⟨i, hok, .inl ?_⟩
      exact unreported_describeVersion.2 (.inl ⟨_, hi, h⟩)
    | dialect hinfo hs hi h =>
      refine (info.unreported_or_ok hinfo).imp_right fun ⟨i, hok⟩ => ⟨i, hok, .inl ?_⟩
      exact unreported_describeVersion.2 (.inr ⟨hs, _, hi, h⟩)
    | server hinfo hdialect hi hitems hs hu h =>
      refine (info.unreported_or_ok hinfo).imp_right fun ⟨i, hok⟩ => ⟨i, hok, ?_⟩
      refine (version.unreported_or_ok hdialect.version).imp_right fun ⟨v, hv⟩ => ⟨v, hv, ?_⟩
      rcases paths.unreported_or_ok hdialect.paths with hl | ⟨ps, hp⟩
      · exact absurd hl not_unreported_describePaths
      · exact ⟨ps, hp, .inl (unreported_describeServers.2 ⟨_, _, _, hs, _, hi, hitems, hu, h⟩)⟩

/-- Which documents with texts as keys are refused, and how. Where a text is needed of a number that
has too many digits, and only there, the error is not reported. All others are refused as malformed
without general information, else as unsupported if the dialect is another one or the paths are no
map, else as malformed if the servers are no list, and else described, whatever the operations and
the schemas are. -/
theorem describe_refuses (ht : d.graph.IsTextual d.root)
    (hroot : (d.graph.entries? d.root).isSome = true) :
    ((∃ e, d.describe.outcome = .error e ∧ e.isReported = false) ↔ d.NeedsLongText) ∧
    (¬d.NeedsLongText →
      ((∃ e, d.describe.outcome = .error e ∧ e.isMalformed = true) ↔
        ¬d.HasInfo ∨ d.HasInfo ∧ d.HasDialect ∧ ¬d.HasServers) ∧
      ((∃ e, d.describe.outcome = .error e ∧ e.isReported = true ∧ e.isMalformed = false) ↔
        d.HasInfo ∧ ¬d.HasDialect) ∧
      ((∃ api, d.describe.outcome = .ok api) ↔ d.HasInfo ∧ d.HasDialect ∧ d.HasServers)) := by
  have unreported := unreported_iff_needsLongText ht hroot
  refine ⟨unreported, fun hn => ?_⟩
  cases describe_verdict ht hroot with
  | unreported h => exact absurd (unreported.1 h) hn
  | passed hp h =>
    obtain ⟨hinfo, hdialect, hservers⟩ := hp
    simp [h, hinfo, hdialect, hservers]
  | refused _ h he =>
    cases he with
    | info hinfo he => simp [h, he, hinfo]
    | dialect hinfo hdialect he => simp [h, he, hinfo, hdialect]
    | servers hinfo hdialect hservers he => simp [h, he, hinfo, hdialect, hservers]

/-- A description with a title that has too many digits for a text. -/
def overlongTitle : Document :=
  ofValue (.ofFields [("openapi", .text "3.0.0"),
    ("info", .ofFields [("title", .scalar (.int (10 ^ 4300))), ("version", .text "1")])])

/-- A description in two dialects, with servers that are no list. -/
def twoDialects : Document :=
  ofValue (.ofFields [("swagger", .text "2.0"), ("openapi", .text "3.0.0"),
    ("info", .ofFields [("title", .text "Pets"), ("version", .text "1")]),
    ("servers", .text "here")])

/-- The title with too many digits is all that is wrong with the first document, and its error is
not reported. Of what is wrong with the other one, the dialect is what it is refused for. -/
theorem describe_refuses_overlongTitle :
    ((overlongTitle.HasInfo ∧ overlongTitle.HasDialect ∧ overlongTitle.HasServers) ∧
      ∃ e, overlongTitle.describe.outcome = .error e ∧ e.isReported = false) ∧
    ∃ e, twoDialects.describe.outcome = .error e ∧ e.isReported = true ∧ e.isMalformed = false := by
  constructor
  · have textual : overlongTitle.graph.IsTextual overlongTitle.root := .of_nodes (by decide +kernel)
    have long : overlongTitle.NeedsLongText :=
      .title (i := 3) rfl ⟨1, 10 ^ 4300, rfl, rfl, by decide +kernel⟩
    have info : overlongTitle.HasInfo := ⟨3, rfl, ⟨1, rfl, .int _⟩, 2, rfl, .text (by decide)⟩
    have version : overlongTitle.HasVersion := ⟨rfl, 0, rfl, nofun, by decide +kernel⟩
    have paths : overlongTitle.HasPaths := fun i hi => nomatch hi
    have servers : overlongTitle.HasServers := fun i hi => nomatch hi
    exact ⟨⟨info, ⟨version, paths⟩, servers⟩, (describe_refuses textual rfl).1.2 long⟩
  · have textual : twoDialects.graph.IsTextual twoDialects.root := .of_nodes (by decide +kernel)
    have info : twoDialects.HasInfo := ⟨4, rfl, ⟨2, rfl, .text (by decide)⟩, 3, rfl,
      .text (by decide)⟩
    have other : ¬twoDialects.HasDialect := fun h => nomatch h.version.swagger
    have refused : twoDialects.describe.outcome = .error (.otherDialect "2.0") := by
      with_unfolding_all rfl
    obtain ⟨unreported, verdict⟩ := describe_refuses textual rfl
    refine (verdict fun long => ?_).2.1.2 ⟨info, other⟩
    obtain ⟨e, he, hk⟩ := unreported.2 long
    cases he.symm.trans refused
    cases hk

end Document

end ApiBridge
