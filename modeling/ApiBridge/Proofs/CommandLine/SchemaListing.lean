import ApiBridge.Proofs.CommandLine.JsonOutput
import ApiBridge.Proofs.Console.Tables

/-!
# Listing the schemas of a document

A schema is shown by its type and its first properties. What stands for the type can be any value,
and is shown by its text, if it has one. The keys of the first properties are joined, which they are
only if all of them are texts. So the schemas of a document are listed exactly where this holds of
each of them, whatever else the schemas are.
-/

namespace ApiBridge

/-! ### Texts of values -/

namespace Value

lemma written_eq_ok_iff {v : Value} {text : String} :
    v.written = .ok text ↔ v.isWritable = true ∧ text = v.display := by
  rw [written]
  split
  case isTrue h => simp [h, eq_comm]
  case isFalse h => simp [h]

end Value

/-! ### Short descriptions -/

namespace Schema

variable {α : Type} [Layered α] {schema : Schema α}

/-- The keys of the properties of a schema, in order. -/
def propertyKeys (schema : Schema α) : List Scalar :=
  match keyword? "properties" schema with
  | some (.map entries) => entries.map (·.1)
  | _ => []

/-- The value that stands for the type of a schema: what is given as the type or, without that, what
the schema refers to. -/
def typeValue? (schema : Schema α) : Option Value :=
  ((schema.field? "type").or (schema.field? "$ref")).map Layered.value

/-- The text that stands for the type of a schema. -/
def typeText (schema : Schema α) : String :=
  match schema, schema.field? "type", schema.field? "$ref" with
  | .map _, some kind, _ => (Layered.value kind).display
  | .map _, none, some target => "-> " ++ (Layered.value target).display
  | .map _, none, none => "-"
  | _, _, _ => "unknown"

/-- The texts of the first five keys, with dots after them if there are more. -/
def listedKeys (schema : Schema α) : String :=
  ", ".intercalate ((schema.propertyKeys.take 5).map Scalar.display)
    ++ if 5 < schema.propertyKeys.length then "..." else ""

/-- A schema can be described: what stands for its type has a text, and the keys of its first five
properties are texts. -/
structure IsDescribable (schema : Schema α) : Prop where
  type : ∀ v ∈ schema.typeValue?, v.isWritable = true
  keys : ∀ k ∈ schema.propertyKeys.take 5, ∃ s, k = .text s

lemma shownType_eq_ok_iff {entries : List (Scalar × α)} {text : String} :
    shownType (.map entries : Schema α) = .ok text ↔
      (∀ v ∈ typeValue? (.map entries : Schema α), v.isWritable = true) ∧
        text = typeText (.map entries : Schema α) := by
  unfold shownType typeValue? typeText
  cases Layer.field? "type" (.map entries : Schema α) with
  | some kind => simp [Value.written_eq_ok_iff]
  | none =>
    cases Layer.field? "$ref" (.map entries : Schema α) with
    | some target =>
      rw [map_eq_ok_iff]
      simp only [Value.written_eq_ok_iff]
      grind
    | none => grind

/-- The keys of properties are joined exactly if they are texts. -/
lemma allTexts_keys_eq_ok_iff {keys : List Scalar} {texts : List String} :
    Value.allTexts 0 (keys.map .scalar) = .ok texts ↔
      (∀ k ∈ keys, ∃ s, k = .text s) ∧ texts = keys.map Scalar.display := by
  rw [Value.allTexts_eq_ok_iff]
  constructor
  · intro h
    have keys_eq : keys = texts.map Scalar.text := by
      refine List.map_injective_iff.2 (fun _ _ h => Value.scalar.inj h) ?_
      rw [h, List.map_map]
      rfl
    subst keys_eq
    simp [Function.comp_def]
  · rintro ⟨h, rfl⟩
    rw [List.map_map]
    refine List.map_congr_left fun k hk => ?_
    obtain ⟨s, rfl⟩ := h k hk
    rfl

lemma propertyKeys_of_not_map (h : schema.entries? = none) : schema.propertyKeys = [] := by
  unfold propertyKeys keyword? Layer.field?
  rw [h]
  rfl

lemma describe_map (entries : List (Scalar × α)) :
    describe (.map entries : Schema α) = (do
      let schema : Schema α := .map entries
      let type ← shownType schema
      let names ← Value.allTexts 0 ((schema.propertyKeys.take 5).map .scalar)
      return (type, ", ".intercalate names
        ++ if 5 < schema.propertyKeys.length then "..." else "")) := by
  simp only [describe, propertyKeys, listedProperties]
  rcases (keyword? "properties" (.map entries : Schema α)).eq_none_or_eq_some with h | ⟨l, h⟩
  · simp [h]
  · cases l with
    | map _ => simp only [h, List.map_take, List.map_map, List.length_map, Function.comp_def]
    | _ => simp [h]

/-- A schema is described exactly if it can be, and then by the text for its type and the listed
keys. -/
lemma describe_eq_ok_iff {r : String × String} :
    describe schema = .ok r ↔
      schema.IsDescribable ∧ r = (schema.typeText, schema.listedKeys) := by
  have empty (h : schema.entries? = none) : schema.IsDescribable ∧ schema.listedKeys = "" := by
    refine ⟨⟨?_, ?_⟩, ?_⟩
    · simp [typeValue?, Layer.field?, h]
    · simp [propertyKeys_of_not_map h]
    · simp [listedKeys, propertyKeys_of_not_map h]
  cases schema with
  | map entries =>
    rw [describe_map]
    simp only [bind_eq_ok_iff, shownType_eq_ok_iff, allTexts_keys_eq_ok_iff]
    constructor
    · rintro ⟨_, ⟨type, rfl⟩, _, ⟨texts, rfl⟩, ⟨⟩⟩
      exact ⟨⟨type, texts⟩, rfl⟩
    · rintro ⟨⟨type, texts⟩, rfl⟩
      exact ⟨_, ⟨type, rfl⟩, _, ⟨texts, rfl⟩, rfl⟩
  | _ =>
    simp only [describe, (empty rfl).1, (empty rfl).2, typeText, true_and, Except.ok.injEq, eq_comm]

end Schema

/-! ### Tables -/

namespace Api

variable {α : Type} [Layered α] {api : Api α}

/-- The row of a schema: its name, its type and the first keys. -/
def schemaRow (entry : String × α) : List String :=
  [entry.1, Schema.typeText (layer entry.2), Schema.listedKeys (layer entry.2)]

/-- The table of schemas that can all be described. -/
def describedTable (api : Api α) : Table :=
  ⟨["Schema", "Type", "Properties"], List.map schemaRow api.schemas⟩

lemma row_eq_ok_iff {entry : String × α} {row : List String} :
    (do
      let (kind, properties) ← Schema.describe (layer entry.2)
      return [entry.1, kind, properties] : Except TextError (List String)) = .ok row ↔
      Schema.IsDescribable (layer entry.2) ∧ schemaRow entry = row := by
  simp only [bind_eq_ok_iff, Schema.describe_eq_ok_iff]
  constructor
  · rintro ⟨_, ⟨describable, rfl⟩, ⟨⟩⟩
    exact ⟨describable, rfl⟩
  · rintro ⟨describable, rfl⟩
    exact ⟨_, ⟨describable, rfl⟩, rfl⟩

/-- The schemas of a description are tabled exactly if each of them can be described. -/
lemma schemaTable_eq_ok_iff {t : Table} :
    api.schemaTable = .ok t ↔
      (∀ e ∈ api.schemas, Schema.IsDescribable (layer e.2)) ∧ t = api.describedTable := by
  have rows (rows : List (List String)) :
      List.Forall₂ (fun e row => schemaRow e = row) api.schemas rows ↔
        List.map schemaRow api.schemas = rows := by
    rw [← List.forall₂_map_left_iff (R := Eq), List.forall₂_eq_eq_eq]
  rw [schemaTable, bind_eq_ok_iff]
  simp only [mapM_eq_ok_iff, row_eq_ok_iff, List.forall₂_and_left, rows]
  constructor
  · rintro ⟨_, ⟨describable, rfl⟩, ⟨⟩⟩
    exact ⟨describable, rfl⟩
  · rintro ⟨describable, rfl⟩
    exact ⟨_, ⟨describable, rfl⟩, rfl⟩

end Api

/-! ### Printing tables -/

namespace Json

lemma badKeyOfItems?_eq_none {items : List Value} (h : ∀ v ∈ items, badKey? v = none) :
    badKeyOfItems? items = none := by
  induction items with
  | nil => rfl
  | cons v vs ih =>
    rw [badKeyOfItems?, h v (by simp), Option.none_or]
    exact ih fun w hw => h w (by simp [hw])

lemma badKeyOfEntries?_eq_none {fields : List (String × Value)}
    (h : ∀ f ∈ fields, badKey? f.2 = none) :
    badKeyOfEntries? (fields.map fun f => (.text f.1, f.2)) = none := by
  induction fields with
  | nil => rfl
  | cons f fs ih =>
    rw [List.map_cons, badKeyOfEntries?, if_pos (show isName (.text f.1) = true from rfl),
      h f (by simp), Option.none_or]
    exact ih fun g hg => h g (by simp [hg])

/-- Plain values have names as keys. -/
lemma IsPlain.badKey?_eq_none {v : Value} (h : IsPlain v) : badKey? v = none := by
  induction h with
  | null => rfl
  | bool _ => rfl
  | text _ => rfl
  | list _ ih => exact badKeyOfItems?_eq_none ih
  | map _ _ ih => exact badKeyOfEntries?_eq_none ih

end Json

/-- A table under different headers is printed whole, unless it is drawn. -/
lemma Table.print_stops {t : Table} {c : Console} (hc : c.format ≠ .rich)
    (hn : t.headers.Nodup) : (t.print c).2 = none := by
  cases format : c.format with
  | json =>
    obtain ⟨v, plain, printed⟩ := Console.exists_print_eq hn format
    simp only [printed, Console.printJson, plain.badKey?_eq_none]
  | plain => rw [print_lines (by rw [format]; decide)]
  | rich => exact absurd format hc

namespace CommandLine

open Run

variable {h : Host} {source : String} {api : Api Document}

/-! ### Runs -/

/-- A document is read as a description, and as it is meant. -/
structure IsReadAs (h : Host) (source : String) (api : Api Document) : Prop where
  described : apiOf h source = .ok api
  legible : Document.IsLegibleFrom h source

/-- What is said while the schemas of a document are listed. -/
def listingMessages (h : Host) (source : String) (api : Api Document) : List Message :=
  sourceMessages h source ++ if api.schemas = [] then [noSchemas] else []

/-- How a run ends that lists the schemas of a document, and what it prints: their table, if there
is one and if there are schemas. -/
lemma prints_listing {c : ColorConsole} (hc : c.format ≠ .rich) (ha : apiOf h source = .ok api) :
    Prints (runInspect h c .schemas source) fun r text =>
      (¬c.Draws (listingMessages h source api) ∧ (∃ reason, r = .error (.marks reason)) ∧
        text = "") ∨
      (c.Draws (listingMessages h source api) ∧
        match api.schemaTable with
        | .ok table => r = .ok () ∧
            text = if api.schemas = [] then "" else Printed.dataText (table.print c.toConsole).1
        | .error e => r = .error (.text e) ∧ text = "") := by
  rw [runInspect_eq]
  refine prints_spoken_bind ?_ (fun e _ he => by cases ha.symm.trans he) fun api' drawn ha' => ?_
  · intro reason undrawn
    exact .inl ⟨fun all => undrawn (ColorConsole.draws_append_iff.1 all).1, ⟨reason, rfl⟩, rfl⟩
  obtain rfl : api = api' := Except.ok.inj (ha.symm.trans ha')
  by_cases none : api.schemas = []
  · have table : api.schemaTable = .ok api.describedTable := by
      rw [Api.schemaTable_eq_ok_iff, none]
      simp
    simp only [listingMessages, none, table, List.isEmpty_nil, if_true,
      ColorConsole.draws_append_iff, drawn, true_and]
    exact prints_tell (fun told => .inr ⟨told, rfl, rfl⟩)
      fun reason untold => .inl ⟨untold, ⟨reason, rfl⟩, rfl⟩
  · have some : api.schemas.isEmpty = false := by simpa using none
    have all : c.Draws (listingMessages h source api) := by
      rw [listingMessages, if_neg none, List.append_nil]
      exact drawn
    simp only [some, Bool.false_eq_true, if_false, none]
    refine prints_require_bind ?_ ?_
    · intro e he
      rw [he]
      exact .inr ⟨all, rfl, rfl⟩
    · intro table tabled
      have headers : table.headers.Nodup := by
        rw [(Api.schemaTable_eq_ok_iff.1 tabled).2]
        simp [Api.describedTable]
      rw [showTable_of_ne_rich hc]
      refine prints_printData ?_
      rw [tabled, Table.print_stops hc headers]
      exact .inr ⟨all, rfl, rfl⟩

/-- A host with a document that describes a map from numbers. -/
def numbersHost : Host where
  directory := ⟨"/", ["home"]⟩
  tree := { files := [], directories := [["home"]] }
  environment := []
  input := .text ("\x7bopenapi: 3.0.0, paths: \x7b\x7d, info: \x7btitle: A, version: v\x7d, "
    ++ "components: \x7bschemas: \x7bA: \x7bproperties: \x7b1: \x7d\x7d\x7d\x7d\x7d")
  fetch := fun _ => .failed ""
  commands := []
  atTerminal := false

end CommandLine

end ApiBridge
