import ApiBridge.Proofs.Description.Describing
import ApiBridge.Proofs.TypeScript.Descent
import ApiBridge.Proofs.TypeScript.Parameters

/-!
# The names of members

Records come from two sources. The record of the parameters of an operation has each name once. A
record that a schema compiles to has the texts of the keys of its properties, and keys that are
different may have the same text: a name is repeated in a record exactly where that happens.
-/

namespace ApiBridge

open TypeExpr (Position)

namespace TypeExpr

/-- The members of a record have different names. -/
def AreDistinct (members : List (Property TypeExpr)) : Prop :=
  (members.map (·.name)).Nodup

/-- At every place of an expression, the members of a record have different names. -/
def HasDistinctMembers (e : TypeExpr) : Prop :=
  ∀ place members, e.at? place = some (.record members) → AreDistinct members

end TypeExpr

variable {α : Type} [Layered α]

/-! ### Records of a schema -/

namespace Schema

/-- A schema has properties that make up a record. -/
structure HasProperties (s : Schema α) (properties : List (Scalar × α)) : Prop where
  object : s.declaredType? = some "object"
  properties : s.properties? = some properties

end Schema

namespace TypeExpr

variable {registry : Registry α} {options : TypeOptions} {fuel : Nat} {s : Schema α}
  {context : String} {opened : List String} {e : TypeExpr} {place : Position}
  {properties : List (Scalar × α)} {members : List (Property TypeExpr)}

/-- Members are named after the keys of the properties. -/
lemma names_of_memberOf {expand : Schema α → String → Compiling} {required : List String}
    (h : List.Forall₂ (MemberOf expand required) properties members) :
    members.map (·.name) = properties.map (·.1.display) :=
  map_eq_of_forall₂ (h.imp fun _ _ hpm => (Document.written_eq_ok.1 hpm.name).2)

/-- With a level left, a schema that has properties compiles to a record of their names. -/
lemma exists_record_of_hasProperties (hp : s.HasProperties properties)
    (h : (compileWithin registry options (fuel + 1) s context opened).outcome = .ok e) :
    ∃ members, e = .record members ∧ members.map (·.name) = properties.map (·.1.display) := by
  rcases (compileWithin_succ.1 h).of_object hp.object with
    ⟨_, required, members, hp', -, rfl, hm⟩ | ⟨hnone, -⟩
  · cases hp.properties.symm.trans hp'
    exact ⟨members, rfl, names_of_memberOf hm⟩
  · rw [hp.properties] at hnone
    cases hnone

/-- A record stands where the compiler has come to a schema with properties, and has their names: by
induction on the levels left. -/
lemma exists_visits_of_record
    (h : (compileWithin registry options fuel s context opened).outcome = .ok e)
    (hr : e.at? place = some (.record members)) :
    ∃ depth y properties, depth < fuel ∧
      Site.Visits registry options.referenceMode ⟨s, opened⟩ depth place y ∧
      y.schema.HasProperties properties ∧
      members.map (·.name) = properties.map (·.1.display) := by
  induction fuel generalizing s context opened e place with
  | zero =>
    rw [compileWithin_zero] at h
    cases h
    cases ((at?_eq_some_of_isLeaf rfl).1 hr).2
  | succ fuel ih =>
    have next {first : Position} {y : Site α} {rest : Position} {context : String} {f : TypeExpr}
        (hs : Site.Step registry options.referenceMode ⟨s, opened⟩ first y)
        (hf : (compileWithin registry options fuel y.schema context y.opened).outcome = .ok f)
        (hr : f.at? rest = some (.record members)) :
        ∃ depth y properties, depth < fuel + 1 ∧
          Site.Visits registry options.referenceMode ⟨s, opened⟩ depth (first ++ rest) y ∧
          y.schema.HasProperties properties ∧
          members.map (·.name) = properties.map (·.1.display) := by
      obtain ⟨depth, z, properties, hlt, hv, hp, hn⟩ := ih hf hr
      exact ⟨depth + 1, z, properties, Nat.succ_lt_succ hlt, .step hs hv, hp, hn⟩
    have compiled := compileWithin_succ.1 h
    clear h
    cases compiled with
    | literals | string | number | boolean | anySequence | mapping | nameless | unknown | any =>
      cases ((at?_eq_some_of_isLeaf rfl).1 hr).2
    | named | registered =>
      obtain ⟨-, hr⟩ := at?_reference_eq_some.1 hr
      cases hr
    | sequence ht hi h =>
      cases place with
      | nil => simp at hr
      | cons b place =>
        obtain ⟨rfl, hr⟩ := at?_sequence_cons.1 hr
        exact next (.part (.items ht hi)) h hr
    | record ht hp _ h =>
      cases place with
      | nil =>
        obtain rfl := TypeExpr.record.inj (Option.some.inj hr)
        exact ⟨0, _, _, Nat.succ_pos fuel, .here _, ⟨ht, hp⟩, names_of_memberOf h⟩
      | cons b place =>
        obtain ⟨index, m, rfl, hm, hr⟩ := at?_record_cons.1 hr
        obtain ⟨p, hp', hpm⟩ := exists_getElem?_left h hm
        exact next (.part (.property ht hp hp')) hpm.type hr
    | expanded ht hr' hne hm hl ho h =>
      exact next (.expansion hm ⟨ht, ⟨_, hr', rfl⟩, hne⟩ hl ho) h hr

end TypeExpr

/-! ### Where compiling begins -/

namespace Draft

variable {registry : Registry α} {options : TypeOptions} {o : Operation α}

lemma exists_mem_of_payload {s : Schema α} (h : s ∈ o.payloadSchemas) :
    ∃ d ∈ ofOperation registry options o, ∃ context,
      d.expression = TypeExpr.compile registry options s context none := by
  rcases List.mem_append.1 h with h | h
  · obtain ⟨fields, hf, rfl⟩ := List.mem_map.1 h
    exact ⟨_, List.mem_append_left _ (List.mem_append_right _ (List.mem_map_of_mem hf)), _, rfl⟩
  · obtain ⟨⟨status, response⟩, hr, h⟩ := List.mem_filterMap.1 h
    obtain ⟨fields, hf, rfl⟩ := Option.map_eq_some_iff.1 h
    refine ⟨ofBody registry options (Name.ofResponse o.operationId status) fields .response, ?_, _,
      rfl⟩
    exact List.mem_append_right _ (List.mem_filterMap.2 ⟨_, hr, by simp [hf]⟩)

lemma exists_mem_of_parameters (h : o.parameters ≠ []) :
    ∃ d ∈ ofOperation registry options o,
      d.expression = parametersRecord registry options o.parameters := by
  refine ⟨⟨Name.ofParameters o.operationId, _, .parameters⟩, ?_, rfl⟩
  rw [ofOperation, List.append_assoc, if_neg (by simpa using h)]
  exact List.mem_append_left _ (List.mem_singleton_self _)

/-- The record of parameters has different names. -/
lemma areDistinct_of_parametersRecord {e : TypeExpr}
    (h : (parametersRecord registry options o.parameters).outcome = .ok e) :
    ∃ members, e = .record members ∧ TypeExpr.AreDistinct members := by
  obtain ⟨members, rfl, hrecord⟩ := isParametersRecord_of_outcome h
  refine ⟨members, rfl, ?_⟩
  rw [TypeExpr.AreDistinct, hrecord.names]
  exact nodup_firstOccurrences _

end Draft

namespace Api

/-- A schema is compiled as a whole: a reusable one under its name, or one of the body, a response
or a parameter of an operation. Of parameters with one name, the last is. -/
inductive Starts (api : Api α) : Site α → Prop
  | schema {n : String} {a : α} (h : (n, a) ∈ api.schemas) :
      Starts api (Site.start (layer a) (some n))
  | payload {o : Operation α} {s : Schema α} (ho : o ∈ api.operations) (hs : s ∈ o.payloadSchemas) :
      Starts api (Site.start s none)
  | parameter {o : Operation α} {p : Parameter α} (ho : o ∈ api.operations) (hp : o.IsLastNamed p) :
      Starts api (Site.start (Draft.schemaOf p.schema) none)

variable {api : Api α} {options : TypeOptions} {ds : List Declaration} {d : Declaration}
  {x : Site α} {place : Position}

/-- A part of a declaration is what a schema compiles to as a whole. -/
structure IsWholeAt (api : Api α) (options : TypeOptions) (d : Declaration) (place : Position)
    (x : Site α) (e : TypeExpr) : Prop where
  starts : api.Starts x
  found : d.expression.at? place = some e
  compiled : ∃ context, (TypeExpr.compileWithin api.schemas options (options.maxDepth + 1) x.schema
    context x.opened).outcome = .ok e

/-- Whatever schema is compiled as a whole is a part of a declaration. -/
lemma Starts.exists_isWholeAt (hx : api.Starts x)
    (h : (api.declarations options).outcome = .ok ds) :
    ∃ d ∈ ds, ∃ place e, IsWholeAt api options d place x e := by
  have settled := (Draft.settleAll_eq_ok.1 h).1
  have operation {o : Operation α} (ho : o ∈ api.operations) {draft : Draft}
      (hd : draft ∈ Draft.ofOperation api.schemas options o) : ∃ d ∈ ds, draft.Settles d :=
    exists_of_mem_left settled (List.mem_append_right _ (List.mem_flatMap.2 ⟨o, ho, hd⟩))
  cases hx with
  | @schema n a hs =>
    obtain ⟨d, hd, hsettles⟩ :=
      exists_of_mem_left settled (List.mem_append_left _ (List.mem_map_of_mem hs))
    exact ⟨d, hd, [], _, .schema hs, TypeExpr.at?_nil _, n, hsettles.expression⟩
  | payload ho hs =>
    obtain ⟨draft, hdraft, context, he⟩ := Draft.exists_mem_of_payload hs
    obtain ⟨d, hd, hsettles⟩ := operation ho hdraft
    have compiled := hsettles.expression
    rw [he] at compiled
    exact ⟨d, hd, [], _, .payload ho hs, TypeExpr.at?_nil _, context, compiled⟩
  | @parameter o p ho hp =>
    obtain ⟨draft, hdraft, he⟩ :=
      Draft.exists_mem_of_parameters (List.ne_nil_of_mem hp.mem)
    obtain ⟨d, hd, hsettles⟩ := operation ho hdraft
    have compiled := hsettles.expression
    rw [he] at compiled
    obtain ⟨members, hmembers, hrecord⟩ := Draft.isParametersRecord_of_outcome compiled
    have named : p.name ∈ members.map (·.name) := by
      rw [hrecord.names, Operation.parameterNames, mem_firstOccurrences]
      exact List.mem_map_of_mem hp.mem
    obtain ⟨m, hm, hname⟩ := List.mem_map.1 named
    obtain ⟨q, hq, hmember⟩ := hrecord.last m hm
    obtain rfl := hp.unique hq (hname.symm.trans hmember.name)
    obtain ⟨index, hi⟩ := List.getElem?_of_mem hm
    refine ⟨d, hd, [.member index], m.type, .parameter ho hp, ?_, _, hmember.type⟩
    exact hmembers ▸ TypeExpr.at?_record_cons.2 ⟨index, m, rfl, hi, TypeExpr.at?_nil _⟩

/-- A record in a declaration is the record of the parameters, which has each name once, or stands
in a part that a schema compiles to as a whole. -/
lemma areDistinct_or_isWholeAt (h : (api.declarations options).outcome = .ok ds) (hd : d ∈ ds)
    {members : List (Property TypeExpr)} (hr : d.expression.at? place = some (.record members)) :
    TypeExpr.AreDistinct members ∨ ∃ start rest x e, place = start ++ rest ∧
      IsWholeAt api options d start x e ∧ e.at? rest = some (.record members) := by
  obtain ⟨draft, hdraft, hsettles⟩ := exists_of_mem_right (Draft.settleAll_eq_ok.1 h).1 hd
  have compiled := hsettles.expression
  rcases List.mem_append.1 hdraft with hdraft | hdraft
  · obtain ⟨⟨n, a⟩, hs, rfl⟩ := List.mem_map.1 hdraft
    exact .inr ⟨[], place, _, _, rfl, ⟨.schema hs, TypeExpr.at?_nil _, _, compiled⟩, hr⟩
  obtain ⟨o, ho, hdraft⟩ := List.mem_flatMap.1 hdraft
  rcases Draft.payload_or_parameters_of_mem hdraft with ⟨-, s, hs, context, he⟩ | he
  · rw [he] at compiled
    exact .inr ⟨[], place, _, _, rfl, ⟨.payload ho hs, TypeExpr.at?_nil _, _, compiled⟩, hr⟩
  · rw [he] at compiled
    obtain ⟨parameters, heq, hrecord⟩ := Draft.isParametersRecord_of_outcome compiled
    rw [heq] at hr
    cases place with
    | nil =>
      obtain rfl := TypeExpr.record.inj (Option.some.inj hr)
      obtain ⟨_, hmembers, distinct⟩ := Draft.areDistinct_of_parametersRecord compiled
      obtain rfl := TypeExpr.record.inj (heq.symm.trans hmembers)
      exact .inl distinct
    | cons b place =>
      obtain ⟨index, m, rfl, hi, hr⟩ := TypeExpr.at?_record_cons.1 hr
      obtain ⟨p, hp, hmember⟩ := hrecord.last m (List.mem_of_getElem? hi)
      have found : d.expression.at? [.member index] = some m.type :=
        heq ▸ TypeExpr.at?_record_cons.2 ⟨index, m, rfl, hi, TypeExpr.at?_nil _⟩
      exact .inr ⟨[.member index], place, _, _, rfl,
        ⟨.parameter ho hp, found, _, hmember.type⟩, hr⟩

/-! ### Names that are repeated -/

/-- Wherever the compiler comes to properties, their keys have different texts. -/
def HasDistinctKeys (api : Api α) (options : TypeOptions) : Prop :=
  ∀ x, api.Starts x → ∀ depth ≤ options.maxDepth, ∀ place y properties,
    x.Visits api.schemas options.referenceMode depth place y →
    y.schema.HasProperties properties → (properties.map (·.1.display)).Nodup

/-- The record of the parameters of an operation has each name once. All other records in the
declarations have different names exactly when the compiler comes to no properties of which two keys
have the same text. -/
theorem distinct_members_iff (api : Api α) (options : TypeOptions) :
    ((∀ s ∈ api.compiledSchemas, s.IsWritableWithin) →
      ∃ ds, (api.declarations options).outcome = .ok ds) ∧
    ∀ ds, (api.declarations options).outcome = .ok ds →
      (∀ d ∈ ds, d.origin = .parameters →
        ∃ members, d.expression = .record members ∧ TypeExpr.AreDistinct members) ∧
      ((∀ d ∈ ds, d.expression.HasDistinctMembers) ↔ api.HasDistinctKeys options) := by
  refine ⟨declarations_returns options, fun ds h => ⟨fun d hd horigin => ?_, ?_, ?_⟩⟩
  · obtain ⟨draft, hdraft, hsettles⟩ := exists_of_mem_right (Draft.settleAll_eq_ok.1 h).1 hd
    rw [hsettles.origin] at horigin
    rcases List.mem_append.1 hdraft with hdraft | hdraft
    · obtain ⟨entry, -, rfl⟩ := List.mem_map.1 hdraft
      cases horigin
    · obtain ⟨o, -, hdraft⟩ := List.mem_flatMap.1 hdraft
      rcases Draft.payload_or_parameters_of_mem hdraft with ⟨hne, -⟩ | he
      · exact absurd horigin hne
      · exact Draft.areDistinct_of_parametersRecord (he ▸ hsettles.expression)
  · intro distinct x hx depth hdepth place y properties hv hp
    obtain ⟨d, hd, start, e, whole⟩ := hx.exists_isWholeAt h
    obtain ⟨context, compiled⟩ := whole.compiled
    obtain ⟨fuel, hfuel⟩ := Nat.exists_eq_add_of_le hdepth
    rw [hfuel, Nat.add_assoc] at compiled
    obtain ⟨context, f, hf, compiled⟩ := hv.compiled _ compiled
    obtain ⟨members, rfl, hn⟩ := TypeExpr.exists_record_of_hasProperties hp compiled
    rw [← hn]
    refine distinct d hd (start ++ place) members ?_
    rw [TypeExpr.at?_append, whole.found, Option.bind_some, hf]
  · intro keys d hd place members hr
    rcases areDistinct_or_isWholeAt h hd hr with distinct | ⟨start, rest, x, e, rfl, whole, hr⟩
    · exact distinct
    · obtain ⟨context, compiled⟩ := whole.compiled
      obtain ⟨depth, y, properties, hlt, hv, hp, hn⟩ := TypeExpr.exists_visits_of_record compiled hr
      rw [TypeExpr.AreDistinct, hn]
      exact keys x whole.starts depth (Nat.le_of_lt_succ hlt) rest y properties hv hp

/-- A description of flags with two properties: one has a truth value as key, one the text of it. -/
def twoFlags : Api Value where
  info := default
  servers := []
  operations := []
  schemas := [("Flags", .ofFields [("type", .text "object"), ("properties", .map [
    (.bool true, .ofFields [("type", .text "integer")]),
    (.text "True", .ofFields [("type", .text "string")])])])]
  openapiVersion := "3.0.0"

/-- Both properties of the flags have one name. -/
theorem distinct_members_iff_twoFlags : ∃ ds d,
    (twoFlags.declarations {}).outcome = .ok ds ∧ d ∈ ds ∧
    d.expression = .record [⟨"True", true, .number⟩, ⟨"True", true, .string⟩] ∧
    ¬twoFlags.HasDistinctKeys {} := by
  have declared : (twoFlags.declarations {}).outcome = .ok
      [⟨"Flags", .record, .record [⟨"True", true, .number⟩, ⟨"True", true, .string⟩], .schema⟩] :=
    rfl
  obtain ⟨-, distinct⟩ := (distinct_members_iff twoFlags {}).2 _ declared
  refine ⟨_, _, declared, List.mem_singleton_self _, rfl, fun keys => ?_⟩
  have members := distinct.2 keys _ (List.mem_singleton_self _) [] _ rfl
  exact absurd members (by simp [TypeExpr.AreDistinct])

end Api

end ApiBridge
