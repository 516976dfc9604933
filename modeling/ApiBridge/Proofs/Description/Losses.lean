import ApiBridge.Proofs.Description.Describing
import ApiBridge.Proofs.Document.Resolution

/-!
# What a description loses

A description passes over parameters, bodies and responses that are references. Of a document whose
references have been resolved it loses such a part only from an operation that resolving does not
look at: one whose key is no method as it is spelled there, or one that is itself in the place of a
reference.
-/

namespace ApiBridge

/-- What a description reads from the parameters or the responses of an operation. -/
inductive Graph.IsMember (g : Graph) (o : NodeId) : NodeId → Prop
  | parameter {p i : NodeId} {is : List NodeId} (hp : g.field? o "parameters" = some p)
      (his : g.items? p = some is) (hi : i ∈ is) : IsMember g o i
  | response {r : NodeId} {es : List (Scalar × NodeId)} {e : Scalar × NodeId}
      (hr : g.field? o "responses" = some r) (hes : g.entries? r = some es) (he : e ∈ es) :
      IsMember g o e.2

/-- What a description reads from an operation: a parameter, a response or the body. -/
def Graph.IsPart (g : Graph) (o i : NodeId) : Prop :=
  g.IsMember o i ∨ g.field? o "requestBody" = some i

lemma Graph.IsResolved.not_isReference {g : Graph} {o i : NodeId} (ho : g.IsResolved o)
    (hi : g.IsPart o i) : ¬g.IsReference i := by
  rcases hi with hi | hb
  · cases hi with
    | parameter hp his hi => exact (ho.parameters _ hp).items _ his i hi
    | response hr hes he => exact (ho.responses _ hr).2 _ hes _ he
  · exact ho.requestBody i hb

namespace Document

open Attempt Notice

variable {g : Graph} {d : Document} {o : NodeId}

/-! ### Parts that are passed over -/

lemma reports_describeContent {p : Notice → Prop} (content : Option NodeId) :
    Reports p (describeContent g content) ↔ False := by
  simp [describeContent]

lemma reports_describeParameter {text : String} {i : NodeId} :
    Reports IsUnresolved (describeParameter g text i) ↔ g.IsReference i := by
  unfold Graph.IsReference
  rcases describeParameter_cases g text i with ⟨t, ht, h⟩ | ⟨hr, -, h | ⟨n, hn, h⟩⟩ | ⟨hk, p, h⟩
  · simp [h, ht, IsUnresolved]
  · simp [h, hr]
  · simp [h, hr, hn]
  · simp [h, hk.reference]

lemma reports_describeResponse {text : String} {status : Scalar} {i : NodeId} :
    Reports IsUnresolved (describeResponse g text status i) ↔ g.IsReference i := by
  unfold Graph.IsReference
  rcases describeResponse_cases g text status i with ⟨hn, h⟩ | ⟨t, ht, h⟩ | ⟨-, hr, response, h⟩
  · simp [h, show reference? g i = none from field?_eq_none hn "$ref"]
  · simp [h, ht, IsUnresolved]
  · rw [h, hr]
    cases g.field? i "content" with
    | none => simp
    | some c => simp [reports_describeContent]

lemma reports_describeBody {p : Notice → Prop} : Reports p (describeBody g o) ↔ False := by
  rcases describeBody_cases g o with ⟨-, h⟩ | ⟨b, -, -, body, h⟩
  · simp [h]
  · simp [h, reports_describeContent]

/-- A body that is a reference is none. -/
lemma describeBody_of_isReference {b : NodeId} (hb : g.field? o "requestBody" = some b)
    (hr : g.IsReference b) : describeBody g o = pure none := by
  rcases describeBody_cases g o with ⟨-, h⟩ | ⟨b', hb', hn, -⟩
  · exact h
  · obtain rfl : b = b' := Option.some.inj (hb.symm.trans hb')
    simp [Graph.IsReference, hn] at hr

lemma reports_describeParameters {text : String} {ps : List (Parameter NodeId)}
    (h : (describeParameters g text o).outcome = .ok ps) :
    Reports IsUnresolved (describeParameters g text o) ↔
      ∃ p is, ∃ i ∈ is, g.field? o "parameters" = some p ∧ g.items? p = some is ∧
        g.IsReference i := by
  rw [describeParameters, outcome_bind] at h
  obtain ⟨found, hf, -⟩ := bind_eq_ok_iff.1 h
  rw [describeParameters, reports_bind, reports_mapM hf]
  simp only [reports_describeParameter, reports_pure, and_false, exists_false, or_false,
    exists_mem_items]

lemma reports_describeResponses {text : String} {rs : List (String × Response NodeId)}
    (h : (describeResponses g text o).outcome = .ok rs) :
    Reports IsUnresolved (describeResponses g text o) ↔
      ∃ r es, ∃ e ∈ es, g.field? o "responses" = some r ∧ g.entries? r = some es ∧
        g.IsReference e.2 := by
  rw [describeResponses, outcome_bind] at h
  obtain ⟨found, hf, -⟩ := bind_eq_ok_iff.1 h
  rw [describeResponses, reports_bind, reports_mapM hf]
  simp only [reports_describeResponse, reports_pure, and_false, exists_false, or_false,
    exists_mem_entries]

/-! ### Operations -/

/-- The description has an operation from an entry of a path item. -/
structure Emits (d : Document) (path : Scalar) (item : NodeId) (key : Scalar) (o : NodeId)
    (op : Operation NodeId) : Prop where
  listed : ∃ paths, d.describePaths = .ok paths ∧ (path, item) ∈ paths
  entry : ∃ es, d.graph.entries? item = some es ∧ (key, o) ∈ es
  operation : (describeOperation d.graph path key o).outcome = .ok (some op)

/-- The description loses a part that is a reference: it passes over a parameter or a response with
a notice, or leaves out a body. -/
def Loses (d : Document) : Prop :=
  d.describe.Reports IsUnresolved ∨ ∃ path item key o op b, d.Emits path item key o op ∧
    op.requestBody = none ∧ d.graph.field? o "requestBody" = some b ∧ d.graph.IsReference b

lemma reports_describeOperation_of_some {path key : Scalar} {op : Operation NodeId}
    (h : (describeOperation g path key o).outcome = .ok (some op)) :
    Reports IsUnresolved (describeOperation g path key o) ↔
      ∃ i, g.IsMember o i ∧ g.IsReference i := by
  obtain ⟨hop, text, ht, hps, hb, hrs⟩ := describeOperation_eq_some h
  have parts : Reports IsUnresolved (describeOperation g path key o) ↔
      Reports IsUnresolved (describeParameters g text o) ∨
        Reports IsUnresolved (describeResponses g text o) := by
    rw [describeOperation_of_isOperation hop]
    simp [needed, ht, hps, hb, reports_describeBody, Except.mapError]
  rw [parts, reports_describeParameters hps, reports_describeResponses hrs]
  constructor
  · rintro (⟨p, is, i, hi, hp, his, hr⟩ | ⟨r, es, e, he, hr, hes, href⟩)
    · exact ⟨i, .parameter hp his hi, hr⟩
    · exact ⟨e.2, .response hr hes he, href⟩
  · rintro ⟨i, hi, href⟩
    cases hi with
    | parameter hp his hi => exact .inl ⟨_, _, i, hi, hp, his, href⟩
    | response hr hes he => exact .inr ⟨_, _, _, he, hr, hes, href⟩

lemma not_reports_describeOperation {path key : Scalar}
    (h : (describeOperation g path key o).outcome = .ok none) :
    ¬Reports IsUnresolved (describeOperation g path key o) := by
  by_cases hk : key.isWritable = true
  · by_cases hop : ∃ m, g.IsOperation key o m
    · obtain ⟨m, hop⟩ := hop
      rw [describeOperation_of_isOperation hop] at h
      simp [bind_eq_ok_iff, map_eq_ok_iff] at h
    · rcases describeOperation_of_not_isOperation path hk (not_exists.1 hop) with
        hn | ⟨m, path', hn⟩
      · simp [hn]
      · simp [hn, IsUnresolved]
  · simp [describeOperation, needed, Scalar.written, hk, Except.mapError, bind_eq_ok_iff] at h

lemma reports_describePathItem {path : Scalar} {item : NodeId} {ops : List (Operation NodeId)}
    (h : (describePathItem g path item).outcome = .ok ops) :
    Reports IsUnresolved (describePathItem g path item) ↔
      ∃ es, g.entries? item = some es ∧ ∃ e ∈ es, ∃ op,
        (describeOperation g path e.1 e.2).outcome = .ok (some op) ∧
          ∃ i, g.IsMember e.2 i ∧ g.IsReference i := by
  rw [describePathItem, outcome_bind] at h
  obtain ⟨found, hf, -⟩ := bind_eq_ok_iff.1 h
  rw [describePathItem, reports_bind, reports_mapM hf]
  simp only [reports_pure, and_false, exists_false, or_false]
  rw [outcome_mapM, mapM_eq_ok_iff] at hf
  cases hes : g.entries? item with
  | none => simp
  | some es =>
    rw [hes, Option.getD_some] at hf
    simp only [Option.getD_some, Option.some.injEq, exists_eq_left']
    refine exists_congr fun e => and_congr_right fun he => ?_
    obtain ⟨op?, hop⟩ : ∃ op?, (describeOperation g path e.1 e.2).outcome = .ok op? := by
      obtain ⟨op?, -, hop⟩ := exists_of_mem_left hf he
      exact ⟨op?, hop⟩
    cases op? with
    | none => simp [hop, not_reports_describeOperation hop]
    | some op => simp [hop, reports_describeOperation_of_some hop]

/-- There is a notice exactly when a parameter or a response of some operation is a reference. -/
lemma reports_describe {api : Api NodeId} (h : d.describe.outcome = .ok api) :
    d.describe.Reports IsUnresolved ↔ ∃ path item key o op, d.Emits path item key o op ∧
      ∃ i, d.graph.IsMember o i ∧ d.graph.IsReference i := by
  obtain ⟨paths, head, hops⟩ := hasHead_of_describe h
  have stages : d.describe.Reports IsUnresolved ↔
      Reports IsUnresolved (describeOperations d.graph paths) := by
    rw [describe_of_hasHead head]
    simp
  rw [describeOperations, outcome_bind] at hops
  obtain ⟨found, hf, -⟩ := bind_eq_ok_iff.1 hops
  rw [stages, describeOperations, reports_bind, reports_mapM hf]
  simp only [reports_pure, and_false, exists_false, or_false]
  rw [outcome_mapM, mapM_eq_ok_iff] at hf
  have item (p : Scalar × NodeId) (hp : p ∈ paths) :
      ∃ ops, (describePathItem d.graph p.1 p.2).outcome = .ok ops := by
    obtain ⟨ops, -, hops⟩ := exists_of_mem_left hf hp
    exact ⟨ops, hops⟩
  constructor
  · rintro ⟨p, hp, hr⟩
    obtain ⟨ops, hops⟩ := item p hp
    obtain ⟨es, hes, e, he, op, hop, hi⟩ := (reports_describePathItem hops).1 hr
    exact ⟨p.1, p.2, e.1, e.2, op, ⟨⟨paths, head.paths, hp⟩, ⟨es, hes, he⟩, hop⟩, hi⟩
  · rintro ⟨path, item', key, o, op, ⟨⟨paths', hpaths, hp⟩, ⟨es, hes, he⟩, hop⟩, hi⟩
    obtain rfl : paths = paths' := Except.ok.inj (head.paths.symm.trans hpaths)
    obtain ⟨ops, hops⟩ := item _ hp
    exact ⟨(path, item'), hp, (reports_describePathItem hops).2 ⟨es, hes, _, he, op, hop, hi⟩⟩

/-- A description loses parts exactly when a part of some operation is a reference. -/
theorem loses_iff {api : Api NodeId} (h : d.describe.outcome = .ok api) :
    d.Loses ↔ ∃ path item key o op, d.Emits path item key o op ∧
      ∃ i, d.graph.IsPart o i ∧ d.graph.IsReference i := by
  rw [Loses, reports_describe h]
  constructor
  · rintro (⟨path, item, key, o, op, he, i, hi, hr⟩ | ⟨path, item, key, o, op, b, he, -, hb, hr⟩)
    · exact ⟨path, item, key, o, op, he, i, .inl hi, hr⟩
    · exact ⟨path, item, key, o, op, he, b, .inr hb, hr⟩
  · rintro ⟨path, item, key, o, op, he, i, hi | hb, hr⟩
    · exact .inl ⟨path, item, key, o, op, he, i, hi, hr⟩
    · refine .inr ⟨path, item, key, o, op, i, he, ?_, hb, hr⟩
      obtain ⟨-, text, -, -, hbody, -⟩ := describeOperation_eq_some he.operation
      rw [describeBody_of_isReference hb hr, outcome_pure, Except.ok.injEq] at hbody
      exact hbody.symm

/-! ### After resolving -/

/-- The document has an operation in place: it stands under the key of a method, and neither the
paths nor the operation, its parameters and its responses are references. -/
def IsInPlace (d : Document) (item : NodeId) (key : Scalar) : Prop :=
  (∀ paths, d.field? "paths" = some paths → ¬d.graph.IsReference paths) ∧
    ∃ m o, key = .text m.key ∧ d.HasOperation item m o

variable {r : Document}

/-- An operation that was in place has no references among its parts once they are resolved. -/
lemma Emits.not_isReference (hk : d.graph.Keyed) (hr : d.resolve = .ok r) {path key : Scalar}
    {item : NodeId} {op : Operation NodeId} (he : r.Emits path item key o op)
    (hd : d.IsInPlace item key) {i : NodeId} (hi : r.graph.IsPart o i) :
    ¬r.graph.IsReference i := by
  obtain ⟨hpaths, m, o₀, rfl, ho⟩ := hd
  obtain ⟨⟨paths, hp, hitem⟩, ⟨es, hes, hentry⟩, -⟩ := he
  obtain ⟨evolves, resolved⟩ := resolve_eq_ok hr hk
  obtain ⟨i₁, hi₁, hes₁⟩ := field?_of_describePaths hp hitem
  obtain ⟨i₀, hi₀⟩ : ∃ i₀, d.field? "paths" = some i₀ := by
    rw [field?, evolves.root] at hi₁
    obtain ⟨i₀, hi₀, -⟩ := evolves.graph.field? hi₁
    exact ⟨i₀, hi₀⟩
  obtain ⟨hkept, hall⟩ := resolved i₀ hi₀ (hpaths i₀ hi₀)
  obtain rfl : i₀ = i₁ := Option.some.inj (hkept.symm.trans hi₁)
  have found : r.graph.field? item m.key = some o :=
    Option.bind_eq_some_iff.2 ⟨es, hes, (evolves.graph.keyed hk).lookupKey_of_mem hes hentry⟩
  obtain rfl : o₀ = o := Option.some.inj ((evolves.hasOperation ho).field.symm.trans found)
  exact (hall paths hes₁ _ hitem m o₀ ho).not_isReference hi

/-- Of a resolved document the description has no references among the parts of operations that
were in place. It loses parts exactly when an operation that was not in place has such a part. -/
theorem resolve_loses_iff (hk : d.graph.Keyed) (hr : d.resolve = .ok r)
    (hn : ∃ api, r.describe.outcome = .ok api) :
    (∀ path item key o op, r.Emits path item key o op → d.IsInPlace item key →
      ∀ i, r.graph.IsPart o i → ¬r.graph.IsReference i) ∧
    (r.Loses ↔ ∃ path item key o op, r.Emits path item key o op ∧ ¬d.IsInPlace item key ∧
      ∃ i, r.graph.IsPart o i ∧ r.graph.IsReference i) := by
  have inPlace : ∀ path item key o op, r.Emits path item key o op → d.IsInPlace item key →
      ∀ i, r.graph.IsPart o i → ¬r.graph.IsReference i :=
    fun path item key o op he hd i hi => he.not_isReference hk hr hd hi
  refine ⟨inPlace, ?_⟩
  obtain ⟨api, hapi⟩ := hn
  rw [loses_iff hapi]
  constructor
  · rintro ⟨path, item, key, o, op, he, i, hi, href⟩
    exact ⟨path, item, key, o, op, he, fun hd => inPlace path item key o op he hd i hi href,
      i, hi, href⟩
  · rintro ⟨path, item, key, o, op, he, -, hi⟩
    exact ⟨path, item, key, o, op, he, hi⟩

/-- A description of pets whose only operation has its key in upper case. -/
def spelledOtherwise : Document :=
  ofValue (.ofFields [("openapi", .text "3.0.0"),
    ("info", .ofFields [("title", .text "Pets"), ("version", .text "1")]),
    ("paths", .ofFields [("/pets", .ofFields [("GET", .ofFields [
      ("parameters", .list [.ofFields [("$ref", .text "#/components/parameters/Limit")]]),
      ("responses", .map [])])])]),
    ("components", .ofFields [("parameters", .ofFields [("Limit", .ofFields [
      ("name", .text "limit"), ("in", .text "query")])])])])

lemma spelledOtherwise_keyed : spelledOtherwise.graph.Keyed := by
  intro i
  by_cases hi : i < spelledOtherwise.graph.nodes.size
  · revert i
    decide +kernel
  · simp [Graph.keys, Graph.entries?, Graph.node_of_size_le (Nat.not_lt.1 hi), Layer.entries?]

/-- The parameter of the operation under `GET` is a reference, also after resolving, and lost. -/
theorem resolve_loses_iff_spelledOtherwise :
    spelledOtherwise.graph.Keyed ∧ spelledOtherwise.resolve = .ok spelledOtherwise ∧
    (∃ api, spelledOtherwise.describe.outcome = .ok api) ∧ spelledOtherwise.Loses ∧
    ∃ path item key o op, spelledOtherwise.Emits path item key o op ∧
      ¬spelledOtherwise.IsInPlace item key ∧
      ∃ i, spelledOtherwise.graph.IsPart o i ∧ spelledOtherwise.graph.IsReference i := by
  have resolved : spelledOtherwise.resolve = .ok spelledOtherwise := rfl
  have described : ∃ api, spelledOtherwise.describe.outcome = .ok api := by
    have ok : spelledOtherwise.describe.outcome.isOk = true := by decide +kernel
    cases h : spelledOtherwise.describe.outcome with
    | ok api => exact ⟨api, rfl⟩
    | error e => simp [h, Except.isOk, Except.toBool] at ok
  have loses : spelledOtherwise.Loses :=
    .inl ⟨.parameterUnresolved (some "#/components/parameters/Limit") "/pets",
      by decide +kernel, trivial⟩
  exact ⟨spelledOtherwise_keyed, resolved, described, loses,
    (resolve_loses_iff spelledOtherwise_keyed resolved described).2.1 loses⟩

end Document

end ApiBridge
