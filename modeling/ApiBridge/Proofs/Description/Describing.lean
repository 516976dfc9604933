import ApiBridge.Description.OfDocument
import ApiBridge.Proofs.Outcome

/-!
# How a document is described

A document is described in stages: what stands at its head, then the operations of its paths, then
the reusable schemas. An entry of a path item is described from its parts when it is an operation,
and passed over otherwise.
-/

namespace ApiBridge

/-- An entry of a path item is an operation: its key is a method in some spelling, and it declares
responses. -/
structure Graph.IsOperation (g : Graph) (key : Scalar) (o : NodeId) (m : Method) : Prop where
  writable : key.isWritable = true
  method : Method.ofKey? (Text.lower key.display) = some m
  responses : (g.field? o "responses").isSome = true

/-- A parameter that is not passed over. -/
structure Graph.IsKeptParameter (g : Graph) (i : NodeId) : Prop where
  reference : Document.reference? g i = none
  name : ∃ name, g.fieldText? i "name" = some name ∧ name ≠ ""
  location : ∃ word l, g.fieldText? i "in" = some word ∧
    ParameterLocation.choices.lookup word = some l

/-- A part of an operation was passed over because it is a reference. -/
def Notice.IsUnresolved : Notice → Prop
  | .parameterUnresolved .. | .responseUnresolved .. => True
  | _ => False

namespace Document

open Attempt

variable {g : Graph} {d : Document} {path key : Scalar} {o : NodeId} {m : Method}

/-! ### Checks and texts -/

@[simp] lemma outcome_passed {α : Type} {c : Check α} {a : α} :
    (passed c).outcome = .ok a ↔ c = .ok a := by
  cases c with
  | ok b => simp [passed]
  | flawed fs => simp [passed]

@[simp] lemma reports_passed {α : Type} {p : Notice → Prop} (c : Check α) :
    Reports p (passed c) ↔ False := by
  cases c with
  | ok a => simp [passed]
  | flawed fs => simp [passed]

lemma written_eq_ok {k : Scalar} {text : String} :
    k.written = .ok text ↔ k.isWritable = true ∧ text = k.display := by
  rw [Scalar.written]
  split
  case isTrue h => simp [h, eq_comm]
  case isFalse h => simp [h]

lemma needed_written {s : Scalar} (h : s.isWritable = true) :
    needed s.written = .ok s.display := by
  simp [needed, Scalar.written, h, Except.mapError]

/-! ### Parts of operations -/

lemma field?_eq_none {i : NodeId} (h : g.entries? i = none) (name : String) :
    g.field? i name = none :=
  Option.bind_eq_none_iff.2 fun es hes => by
    rw [Graph.entries?] at h
    simp [h] at hes

lemma exists_mem_items {name : String} {P : NodeId → Prop} :
    (∃ i ∈ ((g.field? o name).bind g.items?).getD [], P i) ↔
      ∃ p is, ∃ i ∈ is, g.field? o name = some p ∧ g.items? p = some is ∧ P i := by
  cases h : (g.field? o name).bind g.items? with
  | none =>
    simp only [Option.getD_none, List.not_mem_nil, false_and, exists_false, false_iff]
    rintro ⟨p, is, i, -, hp, his, -⟩
    simp [hp, his] at h
  | some is =>
    obtain ⟨p, hp, his⟩ := Option.bind_eq_some_iff.1 h
    simp [hp, his]

lemma exists_mem_entries {name : String} {P : Scalar × NodeId → Prop} :
    (∃ e ∈ ((g.field? o name).bind g.entries?).getD [], P e) ↔
      ∃ r es, ∃ e ∈ es, g.field? o name = some r ∧ g.entries? r = some es ∧ P e := by
  cases h : (g.field? o name).bind g.entries? with
  | none =>
    simp only [Option.getD_none, List.not_mem_nil, false_and, exists_false, false_iff]
    rintro ⟨r, es, e, -, hr, hes, -⟩
    simp [hr, hes] at h
  | some es =>
    obtain ⟨r, hr, hes⟩ := Option.bind_eq_some_iff.1 h
    simp [hr, hes]

/-- A parameter is a reference, or passed over for another reason, or described. -/
lemma describeParameter_cases (g : Graph) (text : String) (i : NodeId) :
    (∃ t, reference? g i = some t ∧ describeParameter g text i = do
      Attempt.note (.parameterUnresolved (g.written t).toOption text)
      return none) ∨
    (reference? g i = none ∧ ¬g.IsKeptParameter i ∧ (describeParameter g text i = pure none ∨
      ∃ n : Notice, ¬n.IsUnresolved ∧ describeParameter g text i = do
        Attempt.note n
        return none)) ∨
    (g.IsKeptParameter i ∧ ∃ p : Option (Fields NodeId) → Parameter NodeId,
      describeParameter g text i = do
        let schema ← passed (.under (.name "schema") (((g.field? i "schema").map g.checkFields).getD
          (.ok none)))
        return some (p schema)) := by
  unfold describeParameter
  split
  case isTrue h =>
    have none := field?_eq_none (Option.isNone_iff_eq_none.1 h)
    refine .inr (.inl ⟨none "$ref", ?_, .inl rfl⟩)
    rintro ⟨-, ⟨name, hname, -⟩, -⟩
    simp [Graph.fieldText?, none] at hname
  case isFalse =>
    split
    case h_1 t ht => exact .inl ⟨t, ht, rfl⟩
    case h_2 hr =>
      have hr : reference? g i = none := Option.eq_none_iff_forall_ne_some.2 hr
      split
      case h_1 name hname =>
        obtain ⟨hname, hne⟩ := Option.filter_eq_some_iff.1 hname
        split
        case h_1 l hl =>
          obtain ⟨word, hw, hl⟩ := Option.bind_eq_some_iff.1 hl
          exact .inr (.inr ⟨⟨hr, ⟨name, hname, by simpa using hne⟩, ⟨word, l, hw, hl⟩⟩,
            _, rfl⟩)
        case h_2 hn =>
          refine .inr (.inl ⟨hr, ?_, .inr ⟨_, id, rfl⟩⟩)
          rintro ⟨-, -, word, l, hw, hl⟩
          exact hn l (Option.bind_eq_some_iff.2 ⟨word, hw, hl⟩)
      case h_2 hn =>
        refine .inr (.inl ⟨hr, ?_, .inr ⟨_, id, rfl⟩⟩)
        rintro ⟨-, ⟨name, hname, hne⟩, -⟩
        exact hn name (Option.filter_eq_some_iff.2 ⟨hname, by simpa using hne⟩)

/-- A body is left out, or described. -/
lemma describeBody_cases (g : Graph) (o : NodeId) :
    ((∀ b, g.field? o "requestBody" = some b → g.entries? b = none ∨ reference? g b ≠ none) ∧
      describeBody g o = pure none) ∨
    ∃ b, g.field? o "requestBody" = some b ∧ reference? g b = none ∧
      ∃ body : Content NodeId → RequestBody NodeId, describeBody g o = do
        let content ← describeContent g (g.field? b "content")
        return some (body content) := by
  unfold describeBody
  cases hb : g.field? o "requestBody" with
  | none => exact .inl ⟨by simp, rfl⟩
  | some b =>
    dsimp only
    split
    case isTrue h =>
      refine .inl ⟨?_, rfl⟩
      rintro b' ⟨⟩
      simpa [Option.isSome_iff_ne_none] using h
    case isFalse h =>
      have hr : reference? g b = none := by simp_all
      exact .inr ⟨b, rfl, hr, _, rfl⟩

/-- A response is no map, or a reference, or described. -/
lemma describeResponse_cases (g : Graph) (text : String) (status : Scalar) (i : NodeId) :
    (g.entries? i = none ∧ describeResponse g text status i = pure none) ∨
    (∃ t, reference? g i = some t ∧ describeResponse g text status i = do
      Attempt.note (.responseUnresolved status.written.toOption (g.written t).toOption text)
      return none) ∨
    ((g.entries? i).isSome = true ∧ reference? g i = none ∧
      ∃ response : Option (Content NodeId) → Response NodeId,
        describeResponse g text status i = do
          let content ← (g.field? i "content").elim (pure none) fun c =>
            some <$> describeContent g (some c)
          let status ← liftM (needed status.written)
          return some (status, response content)) := by
  unfold describeResponse
  split
  case isTrue h => exact .inl ⟨Option.isNone_iff_eq_none.1 h, rfl⟩
  case isFalse h =>
    split
    case h_1 t ht => exact .inr (.inl ⟨t, ht, rfl⟩)
    case h_2 hr =>
      have hm : (g.entries? i).isSome = true := by simpa [Option.isSome_iff_ne_none] using h
      refine .inr (.inr ⟨hm, Option.eq_none_iff_forall_ne_some.2 hr,
        fun content => ⟨(g.fieldText? i "description").getD "", content⟩, ?_⟩)
      cases g.field? i "content" with
      | none => rfl
      | some c => rfl

/-! ### Operations -/

lemma describeOperation_of_isOperation (h : g.IsOperation key o m) :
    describeOperation g path key o = do
      let path ← liftM (needed path.written)
      let operationId := ((g.fieldText? o "operationId").filter (· ≠ "")).getD
        (Name.ofRoute m.key path)
      let parameters ← describeParameters g path o
      let requestBody ← describeBody g o
      let responses ← describeResponses g path o
      return some ⟨path, m, operationId, g.fieldText? o "summary",
        g.fieldText? o "description", parameters, requestBody, responses⟩ := by
  have hn : (g.field? o "responses").isNone = false :=
    Option.isNone_eq_false_iff.2 h.responses
  unfold describeOperation
  simp only [needed_written h.writable, liftM_ok_bind, h.method, hn, Bool.false_eq_true, if_false]

/-- What is no operation is passed over. -/
lemma describeOperation_of_not_isOperation (path : Scalar) (hk : key.isWritable = true)
    (h : ∀ m, ¬g.IsOperation key o m) :
    describeOperation g path key o = pure none ∨ ∃ m path',
      describeOperation g path key o = do
        Attempt.note (.operationSkipped m path')
        return none := by
  unfold describeOperation
  simp only [needed_written hk, liftM_ok_bind]
  split
  case h_1 m hm =>
    split
    case isTrue => exact .inr ⟨_, _, rfl⟩
    case isFalse hr =>
      exact absurd ⟨hk, hm, by simpa [Option.isSome_iff_ne_none] using hr⟩ (h m)
  case h_2 => exact .inl rfl

/-- A described operation is one, and is what its parts are described as. -/
lemma describeOperation_eq_some {op : Operation NodeId}
    (h : (describeOperation g path key o).outcome = .ok (some op)) :
    g.IsOperation key o op.method ∧ ∃ text, path.written = .ok text ∧
      (describeParameters g text o).outcome = .ok op.parameters ∧
      (describeBody g o).outcome = .ok op.requestBody ∧
      (describeResponses g text o).outcome = .ok op.responses := by
  by_cases hk : key.isWritable = true
  · by_cases hop : ∃ m, g.IsOperation key o m
    · obtain ⟨m, hop⟩ := hop
      rw [describeOperation_of_isOperation hop] at h
      simp only [outcome_bind, outcome_liftM, outcome_pure, bind_eq_ok_iff, needed,
        mapError_eq_ok_iff, Except.ok.injEq, Option.some.injEq] at h
      obtain ⟨text, ht, ps, hps, body, hb, rs, hrs, rfl⟩ := h
      exact ⟨hop, text, ht, hps, hb, hrs⟩
    · rcases describeOperation_of_not_isOperation path hk (not_exists.1 hop) with
        hn | ⟨m, path', hn⟩
      · simp [hn] at h
      · simp [hn] at h
  · simp [describeOperation, needed, Scalar.written, hk, Except.mapError, bind_eq_ok_iff] at h

/-! ### Stages -/

/-- What stands at the head of a document can be described. -/
structure HasHead (d : Document) (info : ApiInfo) (version : String)
    (paths : List (Scalar × NodeId)) (servers : List Server) : Prop where
  root : (d.graph.entries? d.root).isSome = true
  info : d.describeInfo = .ok info
  version : d.describeVersion = .ok version
  paths : d.describePaths = .ok paths
  servers : d.describeServers = .ok servers

lemma field?_of_describePaths {paths : List (Scalar × NodeId)} (h : d.describePaths = .ok paths)
    {p : Scalar × NodeId} (hp : p ∈ paths) :
    ∃ i, d.field? "paths" = some i ∧ d.graph.entries? i = some paths := by
  unfold describePaths at h
  split at h
  case h_1 | h_2 =>
    cases h
    simp at hp
  case h_3 es hn =>
    cases h
    obtain ⟨i, hi, hn⟩ := Option.map_eq_some_iff.1 hn
    exact ⟨i, hi, by rw [Graph.entries?, hn]; rfl⟩
  case h_4 => simp at h

lemma describe_of_hasHead {info : ApiInfo} {version : String} {paths : List (Scalar × NodeId)}
    {servers : List Server} (h : d.HasHead info version paths servers) :
    d.describe = do
      let operations ← describeOperations d.graph paths
      let schemas ← passed (.under (.name "schemas") (checkTextKeys d.schemaEntries))
      return ⟨info, servers, operations, schemas, version⟩ := by
  have hn : (d.graph.entries? d.root).isNone = false := Option.isNone_eq_false_iff.2 h.root
  unfold describe
  simp only [hn, Bool.false_eq_true, if_false, h.info, h.version, h.paths, h.servers,
    liftM_ok_bind]

/-- A document that is described has a head. -/
lemma hasHead_of_describe {api : Api NodeId} (h : d.describe.outcome = .ok api) :
    ∃ paths, d.HasHead api.info api.openapiVersion paths api.servers ∧
      (describeOperations d.graph paths).outcome = .ok api.operations := by
  unfold describe at h
  split at h
  case isTrue => simp at h
  case isFalse hn =>
    simp only [outcome_bind, outcome_liftM, outcome_pure, bind_eq_ok_iff, Except.ok.injEq] at h
    obtain ⟨info, hi, version, hv, paths, hp, servers, hs, ops, ho, schemas, -, rfl⟩ := h
    exact ⟨paths, ⟨by simpa [Option.isSome_iff_ne_none] using hn, hi, hv, hp, hs⟩, ho⟩

end Document

end ApiBridge
