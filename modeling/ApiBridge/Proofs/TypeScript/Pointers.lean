import ApiBridge.Proofs.Description.Describing
import ApiBridge.Proofs.Document.Addresses
import ApiBridge.Proofs.Document.Layout
import ApiBridge.Proofs.TypeScript.Limits
import ApiBridge.Proofs.Validation

/-!
# References read as pointers

The reference to a reusable schema is a pointer: its last segment is the name of the schema with
tildes and slashes escaped. Following the pointer finds the schema, whatever its name is. The
compiler takes the last segment as it stands: it finds the schema of a name in which there is
nothing to escape, and an empty name refers to nothing.
-/

namespace ApiBridge

/-! ### Names in pointers -/

namespace Schema

/-- A name as the last segment of a pointer. -/
def escapedName (n : String) : String :=
  String.ofList (Pointer.Step.key n).segment

/-- The pointer to the reusable schema of a name. -/
def pointerTo (n : String) : String :=
  registryPath ++ escapedName n

/-- A name that is there and has nothing in it to escape. -/
structure IsBareName (n : String) : Prop where
  ne_empty : n ≠ ""
  tilde : '~' ∉ n.toList
  slash : '/' ∉ n.toList

variable {n : String}

lemma escapedName_eq : escapedName n = String.ofList (Pointer.escape n.toList) := by
  rw [escapedName, Pointer.Step.segment_eq, Pointer.Step.text]

lemma IsBareName.escapedName (h : IsBareName n) : escapedName n = n := by
  rw [escapedName_eq, Pointer.escape_eq_self h.tilde h.slash, String.ofList_toList]

/-- The compiler takes the last segment for the name. -/
lemma ofReference_pointerTo : Name.ofReference (pointerTo n) = escapedName n := by
  refine ofReference_registryPath ?_
  rw [escapedName_eq, String.toList_ofList]
  exact Pointer.slash_not_mem_escape _

lemma pointerTo_eq : pointerTo n = Pointer.ofSegments ["components", "schemas", n] := by
  have components : Pointer.escape "components".toList = "components".toList := by decide
  have schemas : Pointer.escape "schemas".toList = "schemas".toList := by decide
  have path : registryPath.toList = '#' :: '/' :: ("components".toList ++ '/' ::
      ("schemas".toList ++ ['/'])) := by decide
  rw [pointerTo, escapedName_eq, Pointer.ofSegments, List.map_cons, List.map_cons, List.map_cons,
    List.map_nil, components, schemas, List.intercalate_cons_cons, List.intercalate_cons_cons,
    List.intercalate_singleton, ← String.toList_inj, String.toList_append, String.toList_ofList,
    String.toList_ofList, path]
  simp

end Schema

/-! ### Schemas of a document -/

namespace Document

open Attempt Schema

/-- A document has reusable schemas, all of them under texts. -/
structure HasSchemas (d : Document) (schemas : Fields NodeId) : Prop where
  entries : ∃ c i, d.field? "components" = some c ∧ d.graph.field? c "schemas" = some i ∧
    d.graph.entries? i = some (List.map (fun e => (.text e.1, e.2)) schemas)

/-- The registry of the schemas of a document. -/
def registry (d : Document) (schemas : Fields NodeId) : Registry Document :=
  schemas.map (Document.mk d.graph)

variable {d : Document} {schemas : Fields NodeId} {n : String} {a : NodeId}

/-- The pointer to a schema leads to it. -/
lemma HasSchemas.locate (hk : d.graph.Keyed) (hs : d.HasSchemas schemas) (ha : (n, a) ∈ schemas) :
    d.locate (pointerTo n) = .ok a := by
  obtain ⟨c, i, hc, hi, hes⟩ := hs.entries
  have hentry : d.graph.Entry i (.text n) a :=
    ⟨_, hes, List.mem_map.2 ⟨(n, a), ha, rfl⟩⟩
  have hsegments : Pointer.segments? (pointerTo n) = some ["components", "schemas", n] := by
    rw [pointerTo_eq]
    exact Pointer.segments?_ofSegments (by simp)
  simp only [Document.locate, hsegments, List.foldlM_cons, List.foldlM_nil]
  rw [Graph.step_of_entry hk (hk.field?_iff.1 hc)]
  refine bind_eq_ok_iff.2 ⟨c, rfl, bind_eq_ok_iff.2 ⟨i, ?_, bind_eq_ok_iff.2 ⟨a, ?_, rfl⟩⟩⟩
  · exact Graph.step_of_entry hk (hk.field?_iff.1 hi)
  · exact Graph.step_of_entry hk hentry

lemma HasSchemas.nodup (hk : d.graph.Keyed) (hs : d.HasSchemas schemas) :
    (List.map (·.1) schemas).Nodup := by
  obtain ⟨c, i, -, -, hes⟩ := hs.entries
  have keys := hk i
  rw [Graph.keys, hes, Option.getD_some, List.map_map, List.pairwise_map] at keys
  rw [List.Nodup, List.pairwise_map]
  refine keys.imp fun {e f} hne heq => ?_
  rw [Function.comp_apply, Function.comp_apply, heq, Scalar.same_self] at hne
  cases hne

lemma HasSchemas.lookup (hk : d.graph.Keyed) (hs : d.HasSchemas schemas) (ha : (n, a) ∈ schemas) :
    (d.registry schemas).lookup n = some ⟨d.graph, a⟩ := by
  refine lookup_of_mem ?_ (List.mem_map.2 ⟨(n, a), ha, rfl⟩)
  rw [registry, Fields.map, List.map_map]
  exact hs.nodup hk

/-- The schemas of the description are those of the document. -/
lemma HasSchemas.schemas_eq (hk : d.graph.Keyed) (hs : d.HasSchemas schemas) {api : Api Document}
    (h : d.describeParts.outcome = .ok api) : api.schemas = d.registry schemas := by
  obtain ⟨c, i, hc, hi, hes⟩ := hs.entries
  have hentries : d.schemaEntries = List.map (fun e => (.text e.1, e.2)) schemas := by
    rw [schemaEntries, hc, Option.bind_some, hi, Option.bind_some, hes, Option.getD_some]
  rw [describeParts, outcome_bind, bind_eq_ok_iff] at h
  obtain ⟨described, hd, h⟩ := h
  obtain rfl := Except.ok.inj h
  obtain ⟨paths, head, -⟩ := hasHead_of_describe hd
  rw [describe_of_hasHead head, hentries, checkTextKeys_of_texts (hs.nodup hk)] at hd
  simp only [outcome_bind, bind_eq_ok_iff, outcome_passed, outcome_pure,
    Check.under_eq_ok_iff] at hd
  obtain ⟨ops, -, found, hfound, hd⟩ := hd
  cases hfound
  rw [← Except.ok.inj hd]
  rfl

end Document

/-! ### What the compiler reads -/

namespace TypeExpr

variable {α : Type} [Layered α] {registry : Registry α} {options : TypeOptions} {s : Schema α}
  {n : String} {a : α} {target : String} {fuel : Nat} {context : String} {opened : List String}

/-- Where references are verified or expanded, the compiler takes a schema for a reference to the
schema `a` of the name `n`: the reference is kept as the name, or that schema is compiled in its
place. If nothing is cut off, this gives the declared type of that schema. -/
structure ReadsAs (registry : Registry α) (s : Schema α) (n : String) (a : α) : Prop where
  verified : ∀ options fuel context opened, options.referenceMode = .verify →
    compileWithin registry options (fuel + 1) s context opened = pure (.reference n)
  expanded : ∀ options fuel context opened, options.referenceMode = .inline → n ∉ opened →
    compileWithin registry options (fuel + 1) s context opened =
      compileWithin registry options fuel (layer a) n (n :: opened)
  declared : ∀ options context, options.referenceMode = .inline →
    ¬(compile registry options s context none).Reports Notice.IsCutOff →
    compile registry options s context none = compile registry options (layer a) n (some n)

lemma readsAs_of_lookup (ht : s.IsUntyped)
    (hr : s.keyword? "$ref" = some (.scalar (.text target))) (hn : Name.ofReference target = n)
    (hne : n ≠ "") (hl : registry.lookup n = some a) : ReadsAs registry s n a := by
  have expanded (options : TypeOptions) (fuel : Nat) (context : String) (opened : List String)
      (hm : options.referenceMode = .inline) (ho : n ∉ opened) :
      compileWithin registry options (fuel + 1) s context opened =
        compileWithin registry options fuel (layer a) n (n :: opened) := by
    rw [compileWithin_of_isUntyped ht, hr]
    simp [ofReference, hn, hne, hm, hl, ho]
  refine ⟨fun options fuel context opened hm => ?_, expanded, fun options context hm hq => ?_⟩
  · rw [compileWithin_of_isUntyped ht, hr]
    simp [ofReference, hn, hne, hm, hl]
  · have hopened : (some n).toList.filter (· ≠ "") = [n] := by simp [hne]
    rw [compile, expanded _ _ _ _ hm (by simp)] at hq ⊢
    rw [compile, hopened]
    exact (compileWithin_eq_of_not_reports (Nat.le_succ _) options.maxDepth hq).symm

/-- A reference to the empty name is none. -/
lemma compileWithin_of_nameless (ht : s.IsUntyped)
    (hr : s.keyword? "$ref" = some (.scalar (.text target))) (hn : Name.ofReference target = "") :
    compileWithin registry options (fuel + 1) s context opened = pure .any := by
  rw [compileWithin_of_isUntyped ht, hr]
  simp [ofReference, hn]

end TypeExpr

namespace Document

open TypeExpr Schema

variable {d : Document} {schemas : Fields NodeId} {n : String} {a : NodeId} {s : Schema Document}

/-- The pointer to a reusable schema leads to it, and the description has this schema under its
name. Unless there is something to escape in the name, the compiler reads the pointer alike: the
reference is kept as the name of the schema where references are verified, and where they are
expanded the schema is compiled in its place. By its own rule the compiler takes a reference to the
empty name for any value. -/
theorem reference_read (hk : d.graph.Keyed) (hs : d.HasSchemas schemas) (ha : (n, a) ∈ schemas)
    (ht : s.IsUntyped) (hr : s.keyword? "$ref" = some (.scalar (.text (pointerTo n)))) :
    d.locate (pointerTo n) = .ok a ∧
    (∀ api, d.describeParts.outcome = .ok api → api.schemas = d.registry schemas) ∧
    (IsBareName n → ReadsAs (d.registry schemas) s n ⟨d.graph, a⟩) ∧
    (n = "" → ∀ options fuel context opened,
      compileWithin (d.registry schemas) options (fuel + 1) s context opened = pure .any) := by
  refine ⟨hs.locate hk ha, fun api => hs.schemas_eq hk, fun hn => ?_, ?_⟩
  · have named : Name.ofReference (pointerTo n) = n := ofReference_pointerTo.trans hn.escapedName
    exact readsAs_of_lookup ht hr named hn.ne_empty (hs.lookup hk ha)
  · rintro rfl options fuel context opened
    exact compileWithin_of_nameless ht hr ofReference_pointerTo

/-- A document with schemas of three names: in one there is a slash, and one is empty. -/
def oddNames : Document :=
  ofValue (.ofFields [("openapi", .text "3.0.0"),
    ("info", .ofFields [("title", .text "Pets"), ("version", .text "1")]),
    ("components", .ofFields [("schemas", .ofFields [
      ("Pet", .ofFields [("type", .text "string")]), ("a/b", .ofFields [("type", .text "number")]),
      ("", .ofFields [("type", .text "boolean")])])])])

/-- Its schemas by name. -/
def oddSchemas : Fields NodeId :=
  [("Pet", 5), ("a/b", 7), ("", 9)]

lemma oddNames_hasSchemas : oddNames.HasSchemas oddSchemas :=
  ⟨11, 10, rfl, rfl, rfl⟩

/-- A schema that is nothing but a reference to a reusable schema. -/
def referenceTo (n : String) : Schema Document :=
  layer (ofValue (.ofFields [("$ref", .text (pointerTo n))]))

/-- A reference to a pet is read alike. -/
theorem reference_read_pet :
    oddNames.locate (pointerTo "Pet") = .ok 5 ∧
    compile (oddNames.registry oddSchemas) { referenceMode := .verify }
        (referenceTo "Pet") "" none = pure (.reference "Pet") ∧
    (compile (oddNames.registry oddSchemas) { referenceMode := .inline }
        (referenceTo "Pet") "" none).outcome = .ok .string := by
  have keyed : oddNames.graph.Keyed := (ofValue_isSound (by decide +kernel)).keyed
  have untyped : (referenceTo "Pet").IsUntyped := by
    intro w _ h
    cases h
  obtain ⟨located, -, read, -⟩ :=
    reference_read keyed oddNames_hasSchemas List.mem_cons_self untyped rfl
  have bare : IsBareName "Pet" := ⟨by decide, by decide, by decide⟩
  refine ⟨located, ?_, ?_⟩
  · rw [compile, (read bare).verified _ _ _ _ rfl]
  · rw [compile, (read bare).expanded _ _ _ _ rfl (by simp)]
    rfl

/-- Where a name is empty or has a slash in it, the pointer leads to the schema, and the compiler
does not read it so. -/
theorem reference_read_otherwise :
    oddNames.HasSchemas oddSchemas ∧
    (oddNames.locate (pointerTo "") = .ok 9 ∧
      (compile (oddNames.registry oddSchemas) { referenceMode := .verify }
        (referenceTo "") "" none).outcome = .ok .any) ∧
    (oddNames.locate (pointerTo "a/b") = .ok 7 ∧
      (compile (oddNames.registry oddSchemas) { referenceMode := .verify }
        (referenceTo "a/b") "" none).outcome = .ok .any) :=
  ⟨oddNames_hasSchemas, ⟨rfl, rfl⟩, rfl, rfl⟩

end Document

end ApiBridge
