import ApiBridge.Proofs.Description.Flawed

/-!
# Errors that are not reported

Errors of descriptions are reported as such but for two kinds: a key that is to be a name and is no
text, and an integer with so many digits that it has no text. This file says exactly which documents
have such an error, going through the stages in which a document is described.
-/

namespace ApiBridge

namespace Graph

/-- The number under a key has too many digits for a text. -/
def HasLongNumber (g : Graph) (i : NodeId) (key : String) : Prop :=
  ∃ j n, g.field? i key = some j ∧ g.node j = .scalar (.int n) ∧
    (Scalar.int n).isWritable = false

/-- The value at a node holds a number with too many digits for a text. -/
def IsLong (g : Graph) (i : NodeId) : Prop :=
  (g.unfold i).isWritable = false

end Graph

namespace Document

open Attempt

variable {g : Graph} {d : Document}

/-! ### The head of a document -/

/-- A result is an error that is not reported. -/
def Unreported {α : Type} (x : Except DescriptionError α) : Prop :=
  ∃ e, x = .error e ∧ e.isReported = false

lemma unreported_ok {α : Type} (a : α) : Unreported (.ok a) ↔ False := by
  simp [Unreported]

lemma unreported_error {α : Type} {e : DescriptionError} :
    Unreported (.error e : Except DescriptionError α) ↔ e.isReported = false := by
  simp [Unreported]

lemma unreported_bind {α β : Type} {x : Except DescriptionError α}
    {f : α → Except DescriptionError β} :
    Unreported (x >>= f) ↔ Unreported x ∨ ∃ a, x = .ok a ∧ Unreported (f a) := by
  cases x with
  | ok a => simp [Unreported, bind, Except.bind]
  | error e => simp [Unreported, bind, Except.bind]

lemma unreported_needed {α : Type} {x : Except TextError α} :
    Unreported (needed x) ↔ ∃ e, x = .error e := by
  cases x with
  | ok a => simp [needed, Except.mapError, Unreported]
  | error e => simp [needed, Except.mapError, Unreported, DescriptionError.isReported]

lemma unreported_requiredText {info : NodeId} {key : String} :
    Unreported (requiredText g info key) ↔ g.HasLongNumber info key := by
  unfold requiredText Graph.HasLongNumber
  cases hj : g.field? info key with
  | none => simp [unreported_error, DescriptionError.isReported]
  | some j =>
    simp only [Option.map_some, Option.some.injEq, exists_and_left, exists_eq_left']
    cases hn : g.node j with
    | scalar s =>
      cases s with
      | int n =>
        cases hw : (Scalar.int n).isWritable with
        | true => simp [unreported_needed, Scalar.written, hw]
        | false => simp [unreported_needed, Scalar.written, hw]
      | float x => simp [unreported_needed, Scalar.written, Scalar.isWritable]
      | text s =>
        by_cases hs : s = ""
        · simp [hs, unreported_error, DescriptionError.isReported]
        · simp [hs, unreported_ok]
      | _ => simp [unreported_error, DescriptionError.isReported]
    | _ => simp [unreported_error, DescriptionError.isReported]

lemma unreported_describeInfo : Unreported d.describeInfo ↔ ∃ info, d.field? "info" = some info ∧
    (d.graph.HasLongNumber info "title" ∨ (∃ title, requiredText d.graph info "title" = .ok title) ∧
      d.graph.HasLongNumber info "version") := by
  unfold describeInfo
  cases hi : d.field? "info" with
  | none => simp [unreported_error, DescriptionError.isReported]
  | some info =>
    simp only [Option.some.injEq, exists_eq_left']
    split
    case isTrue h =>
      simp only [unreported_bind, unreported_requiredText, pure, Except.pure, unreported_ok,
        and_false, exists_false, or_false, exists_and_right]
    case isFalse h =>
      have none (key : String) : d.graph.field? info key = none :=
        Option.bind_eq_none_iff.2 fun es hes => absurd (Option.isSome_of_mem hes) h
      simp [unreported_error, DescriptionError.isReported, Graph.HasLongNumber, none]

lemma unreported_written {i : NodeId} : Unreported (needed (g.written i)) ↔ g.IsLong i := by
  rw [unreported_needed, Graph.written, Value.written, Graph.IsLong]
  cases (g.unfold i).isWritable with
  | true => simp
  | false => simp

lemma not_isLong_of_null {i : NodeId} (h : g.node i = .scalar .null) : ¬g.IsLong i := by
  simp [Graph.IsLong, Graph.unfold, Graph.unfoldFrom, h, Value.isWritable, Scalar.isWritable]

lemma unreported_throw {α : Type} {e : DescriptionError} :
    Unreported (throw e : Except DescriptionError α) ↔ e.isReported = false :=
  unreported_error

lemma unreported_describeVersion : Unreported d.describeVersion ↔
    (∃ i, d.field? "swagger" = some i ∧ d.graph.IsLong i) ∨ d.field? "swagger" = none ∧
      ∃ i, d.field? "openapi" = some i ∧ d.graph.IsLong i := by
  unfold describeVersion
  cases hs : d.field? "swagger" with
  | some i =>
    simp only [unreported_bind, unreported_written, unreported_throw, DescriptionError.isReported]
    simp
  | none =>
    simp only [reduceCtorEq, false_and, exists_false, false_or, true_and]
    cases ho : d.field? "openapi" with
    | none => simp [unreported_throw, DescriptionError.isReported]
    | some i =>
      simp only [Option.some.injEq, exists_eq_left']
      split
      case isTrue h =>
        simp [unreported_bind, unreported_throw, DescriptionError.isReported, not_isLong_of_null h]
      case isFalse =>
        rw [unreported_bind, unreported_written, or_iff_left]
        rintro ⟨version, -, h⟩
        split at h
        case isTrue => exact (unreported_ok version).1 h
        case isFalse => simp [unreported_throw, DescriptionError.isReported] at h

lemma not_unreported_describePaths : ¬Unreported d.describePaths := by
  unfold describePaths
  split
  all_goals simp [unreported_ok, unreported_error, DescriptionError.isReported]

lemma describeServer_eq_error {i : NodeId} : (∃ e, describeServer g i = .error e) ↔
    ∃ u, g.field? i "url" = some u ∧ g.IsLong u := by
  unfold describeServer
  split
  case h_1 hn =>
    have none : g.field? i "url" = none := by
      rw [Graph.field?, Layer.field?, show (g.node i).entries? = none from hn]
      rfl
    simp [none]
  case h_2 es hes =>
    cases hu : g.field? i "url" with
    | none => simp [bind_eq_error_iff, pure, Except.pure]
    | some u =>
      simp only [bind_eq_error_iff, Option.some.injEq, exists_eq_left']
      rw [Graph.written, Value.written, Graph.IsLong]
      cases (g.unfold u).isWritable with
      | true => simp [pure, Except.pure]
      | false => simp

lemma unreported_describeServers : Unreported d.describeServers ↔ ∃ i items, ∃ s ∈ items, ∃ u,
    d.field? "servers" = some i ∧ d.graph.items? i = some items ∧
      d.graph.field? s "url" = some u ∧ d.graph.IsLong u := by
  unfold describeServers
  cases hi : d.field? "servers" with
  | none => simp [unreported_ok]
  | some i =>
    cases hn : d.graph.node i with
    | list items =>
      have unreported_map : Unreported ((·.filterMap id) <$>
          needed (items.mapM (describeServer d.graph))) ↔
          Unreported (needed (items.mapM (describeServer d.graph))) := by
        cases needed (items.mapM (describeServer d.graph)) with
        | ok servers => simp [Unreported, Functor.map, Except.map]
        | error e => simp [Unreported, Functor.map, Except.map]
      simp only [Option.map_some, hn, unreported_map, unreported_needed, mapM_fails_iff,
        describeServer_eq_error, Option.some.injEq]
      constructor
      · rintro ⟨s, hs, u, hu, h⟩
        exact ⟨i, items, s, hs, u, rfl, by rw [Graph.items?, hn]; rfl, hu, h⟩
      · rintro ⟨_, items', s, hs, u, rfl, hitems, hu, h⟩
        rw [Graph.items?, hn] at hitems
        obtain rfl : items = items' := Option.some.inj hitems
        exact ⟨s, hs, u, hu, h⟩
    | scalar s =>
      cases s with
      | null => simp [unreported_ok, Graph.items?, hn, Layer.items?]
      | _ => simp [unreported_error, DescriptionError.isReported, Graph.items?, hn, Layer.items?]
    | _ => simp [unreported_error, DescriptionError.isReported, Graph.items?, hn, Layer.items?]

/-! ### All stages -/

/-- The description of a document fails with an error that is not reported: at one of its stages,
those before it being passed, something has no text or a key is no name. -/
inductive Escapes (d : Document) : Prop
  | title {i : NodeId} (hi : d.field? "info" = some i) (h : d.graph.HasLongNumber i "title")
  | version {i : NodeId} {title : String} (hi : d.field? "info" = some i)
      (ht : requiredText d.graph i "title" = .ok title) (h : d.graph.HasLongNumber i "version")
  | otherDialect {info : ApiInfo} {i : NodeId} (hinfo : d.describeInfo = .ok info)
      (hi : d.field? "swagger" = some i) (h : d.graph.IsLong i)
  | dialect {info : ApiInfo} {i : NodeId} (hinfo : d.describeInfo = .ok info)
      (hs : d.field? "swagger" = none) (hi : d.field? "openapi" = some i) (h : d.graph.IsLong i)
  | server {info : ApiInfo} {version : String} {paths : List (Scalar × NodeId)} {i s u : NodeId}
      {items : List NodeId} (hinfo : d.describeInfo = .ok info)
      (hversion : d.describeVersion = .ok version) (hpaths : d.describePaths = .ok paths)
      (hi : d.field? "servers" = some i) (hitems : d.graph.items? i = some items) (hs : s ∈ items)
      (hu : d.graph.field? s "url" = some u) (h : d.graph.IsLong u)
  | operation {info : ApiInfo} {version : String} {paths : List (Scalar × NodeId)}
      {servers : List Server} (head : d.HasHead info version paths servers) {path key : Scalar}
      {item o : NodeId} {es : List (Scalar × NodeId)} (hpath : (path, item) ∈ paths)
      (hes : d.graph.entries? item = some es) (ho : (key, o) ∈ es)
      (h : d.graph.IsFlawedEntry path key o)
  | schemas {info : ApiInfo} {version : String} {paths : List (Scalar × NodeId)}
      {servers : List Server} (head : d.HasHead info version paths servers) {e : Scalar × NodeId}
      (he : e ∈ d.schemaEntries) (h : ¬e.1.IsName)

lemma root_of_field? {name : String} {i : NodeId} (h : d.field? name = some i) :
    (d.graph.entries? d.root).isSome = true := by
  obtain ⟨es, hes, -⟩ := Option.bind_eq_some_iff.1 h
  exact Option.isSome_of_mem hes

lemma root_of_describeInfo {info : ApiInfo} (h : d.describeInfo = .ok info) :
    (d.graph.entries? d.root).isSome = true := by
  unfold describeInfo at h
  split at h
  case h_1 i hi => exact root_of_field? hi
  case h_2 => simp at h

/-- The stages one after another. -/
lemma unreported_describe (hroot : (d.graph.entries? d.root).isSome = true) :
    Unreported d.describe.outcome ↔ Unreported d.describeInfo ∨ ∃ info, d.describeInfo = .ok info ∧
      (Unreported d.describeVersion ∨ ∃ version, d.describeVersion = .ok version ∧
        ∃ paths, d.describePaths = .ok paths ∧
          (Unreported d.describeServers ∨ ∃ servers, d.describeServers = .ok servers ∧
            (Fails (describeOperations d.graph paths) ∨
              ∃ e ∈ d.schemaEntries, ¬e.1.IsName))) := by
  have hn : (d.graph.entries? d.root).isNone = false := Option.isNone_eq_false_iff.2 hroot
  have operations (paths : List (Scalar × NodeId)) :
      Unreported (describeOperations d.graph paths).outcome ↔
        Fails (describeOperations d.graph paths) :=
    ⟨fun ⟨e, he, _⟩ => ⟨e, he⟩,
      fun ⟨e, he⟩ => ⟨e, he, isUnreported_describeOperations paths e he⟩⟩
  have schemas : Unreported (passed (.under (.name "schemas")
      (checkTextKeys d.schemaEntries)) : Describing _).outcome ↔
        ∃ e ∈ d.schemaEntries, ¬e.1.IsName := by
    rw [← isFlawed_checkTextKeys, ← Check.isFlawed_under (.name "schemas"), ← fails_passed]
    exact ⟨fun ⟨e, he, _⟩ => ⟨e, he⟩, fun ⟨e, he⟩ => ⟨e, he, isUnreported_passed _ e he⟩⟩
  have last (paths : List (Scalar × NodeId)) :
      Fails (describeOperations d.graph paths) ∨
        (∃ ops, (describeOperations d.graph paths).outcome = .ok ops ∧
          ∃ e ∈ d.schemaEntries, ¬e.1.IsName) ↔
      Fails (describeOperations d.graph paths) ∨ ∃ e ∈ d.schemaEntries, ¬e.1.IsName := by
    cases h : (describeOperations d.graph paths).outcome with
    | ok ops => simp
    | error e => simp [Fails, h]
  unfold describe
  simp only [hn, Bool.false_eq_true, if_false, outcome_bind, outcome_liftM, unreported_bind,
    operations, schemas, outcome_pure, unreported_ok, and_false, exists_false, or_false, last,
    not_unreported_describePaths, false_or]

/-- A document fails with an error that is not reported in these cases and in no others. -/
theorem describe_escapes_iff (d : Document) :
    (∃ e, d.describe.outcome = .error e ∧ e.isReported = false) ↔ d.Escapes := by
  change Unreported d.describe.outcome ↔ d.Escapes
  by_cases hroot : (d.graph.entries? d.root).isSome = true
  · rw [unreported_describe hroot, unreported_describeInfo]
    simp only [unreported_describeVersion, unreported_describeServers, fails_describeOperations]
    constructor
    · rintro (⟨i, hi, h | ⟨⟨title, ht⟩, h⟩⟩ | ⟨info, hinfo, (⟨i, hi, h⟩ | ⟨hs, i, hi, h⟩) |
        ⟨version, hversion, paths, hpaths, ⟨i, items, s, hs, u, hi, hitems, hu, h⟩ |
          ⟨servers, hservers, ⟨p, hp, es, hes, e, he, h⟩ | ⟨e, he, h⟩⟩⟩⟩)
      · exact .title hi h
      · exact .version hi ht h
      · exact .otherDialect hinfo hi h
      · exact .dialect hinfo hs hi h
      · exact .server hinfo hversion hpaths hi hitems hs hu h
      · exact .operation ⟨hroot, hinfo, hversion, hpaths, hservers⟩ hp hes he h
      · exact .schemas ⟨hroot, hinfo, hversion, hpaths, hservers⟩ he h
    · intro h
      cases h with
      | title hi h => exact .inl ⟨_, hi, .inl h⟩
      | version hi ht h => exact .inl ⟨_, hi, .inr ⟨⟨_, ht⟩, h⟩⟩
      | otherDialect hinfo hi h => exact .inr ⟨_, hinfo, .inl (.inl ⟨_, hi, h⟩)⟩
      | dialect hinfo hs hi h => exact .inr ⟨_, hinfo, .inl (.inr ⟨hs, _, hi, h⟩)⟩
      | server hinfo hversion hpaths hi hitems hs hu h =>
        exact .inr ⟨_, hinfo, .inr ⟨_, hversion, _, hpaths,
          .inl ⟨_, _, _, hs, _, hi, hitems, hu, h⟩⟩⟩
      | operation head hpath hes ho h =>
        exact .inr ⟨_, head.info, .inr ⟨_, head.version, _, head.paths,
          .inr ⟨_, head.servers, .inl ⟨_, hpath, _, hes, _, ho, h⟩⟩⟩⟩
      | schemas head he h =>
        exact .inr ⟨_, head.info, .inr ⟨_, head.version, _, head.paths,
          .inr ⟨_, head.servers, .inr ⟨_, he, h⟩⟩⟩⟩
  · have reported : ¬Unreported d.describe.outcome := by
      have hn : (d.graph.entries? d.root).isNone = true := by simpa using hroot
      simp [describe, hn, Unreported, DescriptionError.isReported]
    rw [iff_false_left reported]
    intro h
    refine hroot ?_
    cases h with
    | title hi | version hi => exact root_of_field? hi
    | otherDialect hinfo | dialect hinfo | server hinfo => exact root_of_describeInfo hinfo
    | operation head | schemas head => exact head.root

/-- A description whose only schema has a number as its key. -/
def numberedSchema : Document :=
  ofValue (.ofFields [("openapi", .text "3.0.0"),
    ("info", .ofFields [("title", .text "Pets"), ("version", .text "1")]),
    ("components", .ofFields [("schemas", .map [(.int 1, .ofFields [("type", .text "string")])])])])

/-- A number as the key of a schema is not reported as an error of the description. -/
theorem numberedSchema_escapes :
    numberedSchema.describe.outcome
      = .error (.flawed [⟨[.name "schemas", .index 1, .name "[key]"], .text⟩]) ∧
    numberedSchema.Escapes := by
  have error : numberedSchema.describe.outcome
      = .error (.flawed [⟨[.name "schemas", .index 1, .name "[key]"], .text⟩]) := by
    with_unfolding_all rfl
  exact ⟨error, (describe_escapes_iff numberedSchema).1 ⟨_, error, rfl⟩⟩

end Document

end ApiBridge
