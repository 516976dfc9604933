import ApiBridge.Proofs.CommandLine.SchemaListing

/-!
# Reading tables back

Operations, schemas and tools are shown as tables. What stands in their cells are texts of the
description as they are, beside words of the program. So what is printed of a table can be read
back as the table exactly if none of those texts holds a tab or a line feed.
-/

namespace ApiBridge

open Table

/-! ### Texts in cells -/

lemma isCell_orDash {s : Option String} : IsCell (orDash s) ↔ IsCell (s.getD "") := by
  have dash : IsCell "-" := by decide
  have empty : IsCell "" := by decide
  cases s with
  | none => exact iff_of_true dash empty
  | some s =>
    by_cases hs : s = ""
    · subst hs
      exact iff_of_true dash empty
    · have kept : orDash (some s) = s := by simp [orDash, Option.filter, hs]
      rw [kept, Option.getD_some]

lemma Method.isCell_word (m : Method) : IsCell m.word := by
  cases m <;> decide

namespace Operation

variable {α : Type} [Layered α]

/-- What an operation says of itself: its description or, without one, its summary. -/
def told (o : Operation α) : String :=
  Tool.firstText [o.description, o.summary] ""

/-- The description of a tool is what its operation says of itself, or made of the path. -/
lemma isCell_description_iff {o : Operation α} (hp : IsCell o.path) :
    IsCell (Tool.ofOperation o).description ↔ IsCell o.told := by
  have made : IsCell s!"{o.method.word} {o.path}" := by
    refine isCell_append.2 ⟨isCell_append.2 ⟨?_, by decide⟩, hp⟩
    exact o.method.isCell_word
  simp only [told, Tool.ofOperation, Tool.firstText]
  cases ([o.description, o.summary].filterMap id).find? (· ≠ "") with
  | none => exact iff_of_true made (by decide)
  | some s => rfl

end Operation

lemma Schema.isCell_listedKeys_iff {α : Type} [Layered α] {schema : Schema α} :
    IsCell schema.listedKeys ↔ ∀ k ∈ schema.propertyKeys.take 5, IsCell k.display := by
  have dots : IsCell (if 5 < schema.propertyKeys.length then "..." else "") := by
    split <;> decide
  simp only [listedKeys, isCell_append, isCell_intercalate (show IsCell ", " by decide),
    List.forall_mem_map, dots, and_true]

namespace Table

/-- A table shows texts: it has a cell under each header in each row, and what stands in it can be
cells exactly if the texts can. -/
structure Shows (t : Table) (texts : List String) : Prop where
  headers : t.headers ≠ []
  rectangular : t.IsRectangular
  cells : (∀ row ∈ t.lines, ∀ cell ∈ row, IsCell cell) ↔ ∀ s ∈ texts, IsCell s

/-- A table with a row for each of some things shows their texts. -/
lemma shows_map {β : Type} {headers : List String} {row texts : β → List String} (xs : List β)
    (hne : headers ≠ []) (hh : ∀ cell ∈ headers, IsCell cell)
    (hl : ∀ x, (row x).length = headers.length)
    (hr : ∀ x, (∀ cell ∈ row x, IsCell cell) ↔ ∀ s ∈ texts x, IsCell s) :
    Shows ⟨headers, xs.map row⟩ (xs.flatMap texts) := by
  refine ⟨hne, List.forall_mem_map.2 fun x _ => hl x, ?_⟩
  simp only [lines, List.forall_mem_cons, List.forall_mem_map, List.forall_mem_flatMap, hr]
  exact and_iff_right hh

end Table

namespace CommandLine

open Run

variable {h : Host} {c : ColorConsole} {api : Api Document} {task : Task}

/-! ### Tables of tasks -/

namespace Task

/-- The document that a task reads. -/
def source : Task → String
  | .generate input _ _ => input.source
  | .types input _ => input.source
  | .inspect _ source => source

/-- The task shows a table. -/
def ShowsTable : Task → Prop
  | .generate _ _ _ => True
  | .types _ _ => False
  | .inspect view _ => view ≠ .info

/-- The table that a task shows of a description: none of schemas if there are no schemas. -/
def table? (api : Api Document) : Task → Option Table
  | .generate _ _ _ => some ⟨["Tool", "Method", "Path", "Description"],
      api.tools.map fun t => [t.name, t.method, t.path, t.description]⟩
  | .inspect .operations _ => some api.operationTable
  | .inspect .schemas _ => if api.schemas.isEmpty then none else some api.describedTable
  | _ => none

/-- The texts of a description that stand in the table of a task. -/
def texts (api : Api Document) : Task → List String
  | .generate _ _ _ => api.operations.flatMap fun o => [o.operationId, o.path, o.told]
  | .inspect .operations _ =>
    api.operations.flatMap fun o => [o.path, o.operationId, o.summary.getD ""]
  | .inspect .schemas _ => List.flatMap (fun e => e.1 :: Schema.typeText (layer e.2) ::
      ((Schema.propertyKeys (layer e.2)).take 5).map Scalar.display) api.schemas
  | _ => []

/-- The table of a task shows the texts of the description that stand in it. -/
lemma shows_texts {t : Table} (ht : task.table? api = some t) : t.Shows (task.texts api) := by
  cases task with
  | generate input directory install =>
    obtain rfl := Option.some.inj ht
    rw [Api.tools, List.map_map]
    refine shows_map _ (by simp) (by decide +kernel) (by simp) fun o => ?_
    have description := Operation.isCell_description_iff (o := o)
    simp only [Function.comp_apply, List.forall_mem_cons, List.not_mem_nil, false_implies,
      implies_true, and_true]
    constructor
    · rintro ⟨id, -, path, told⟩
      exact ⟨id, path, (description path).1 told⟩
    · rintro ⟨id, path, told⟩
      exact ⟨id, o.method.isCell_word, path, (description path).2 told⟩
  | types input file => cases ht
  | inspect view source =>
    cases view with
    | operations =>
      obtain rfl := Option.some.inj ht
      refine shows_map _ (by simp) (by decide +kernel) (by simp) fun o => ?_
      simp only [List.forall_mem_cons, isCell_orDash, o.method.isCell_word, true_and]
    | schemas =>
      obtain ⟨-, ht⟩ := Option.ite_none_left_eq_some.1 ht
      obtain rfl := Option.some.inj ht
      refine shows_map _ (by simp) (by decide +kernel) (fun _ => rfl) fun e => ?_
      simp only [Api.schemaRow, List.forall_mem_cons, Schema.isCell_listedKeys_iff,
        List.forall_mem_map, List.not_mem_nil, false_implies, implies_true, and_true]
    | info => cases ht

/-- What is printed of the table of a task, if it shows one. -/
def tableText (c : Console) (api : Api Document) (task : Task) : String :=
  ((task.table? api).map fun t => Printed.dataText (t.print c).1).getD ""

end Task

/-! ### Runs -/

/-- The tools of a project are those of the description that it is made from. -/
lemma toolTable_of_projectOf {input : TypesInput} {directory : String} {project : Project}
    {install : Bool} (hp : projectOf h input directory = .ok project) :
    ∃ api, apiOf h input.source = .ok api ∧
      (Task.generate input directory install).table? api = some project.toolTable := by
  obtain ⟨settings, -, hp⟩ := bind_eq_ok_iff.1 hp
  obtain ⟨api, ha, hp⟩ := bind_eq_ok_iff.1 hp
  have blueprint := (Project.ofApi_eq_ok (mapError_eq_ok_iff.1 hp)).2
  refine ⟨api, ha, ?_⟩
  rw [Project.toolTable, blueprint]
  rfl

/-- The operations of a document are all that is printed where they are shown. -/
lemma prints_operations (hc : c.format ≠ .rich) (source : String) :
    Prints (runInspect h c .operations source) fun r text => r = .ok () →
      ∃ api, apiOf h source = .ok api ∧
        text = Printed.dataText (api.operationTable.print c.toConsole).1 := by
  rw [runInspect_eq]
  refine prints_spoken_bind_of_ok fun api ha => ?_
  rw [showTable_of_ne_rich hc]
  exact prints_printData fun _ => ⟨api, ha, rfl⟩

/-- A task that shows a table and ends well prints no other data. -/
lemma prints_table (hc : c.format = .plain) (ht : task.ShowsTable) :
    Prints (task.perform h c) fun r text => r = .ok () →
      ∃ api, apiOf h task.source = .ok api ∧ text = task.tableText c.toConsole api := by
  have no_json : c.format ≠ .json := by
    rw [hc]
    decide
  have no_rich : c.format ≠ .rich := by
    rw [hc]
    decide
  cases task with
  | generate input directory install =>
    simp only [Task.perform]
    rw [runGenerate_eq]
    refine prints_spoken_bind_of_ok fun project hp => ?_
    refine (silent_write _ _).bind (fun _ h => by cases h) fun _ => ?_
    refine Prints.before ?_ (silent_buildOrAdvise h c directory install)
    refine (silent_tell c _).bind (fun _ h => by cases h) fun _ => ?_
    refine (silent_tell c _).bind (fun _ h => by cases h) fun _ => ?_
    refine Prints.before ?_ (silent_tell c _)
    rw [showProject, if_neg no_json, showTable_of_ne_rich no_rich]
    refine prints_printData fun _ => ?_
    obtain ⟨api, ha, table⟩ := toolTable_of_projectOf hp
    refine ⟨api, ha, ?_⟩
    rw [Task.tableText, table]
    rfl
  | types input file => exact ht.elim
  | inspect view source =>
    cases view with
    | operations => exact prints_operations no_rich source
    | schemas =>
      cases ha : apiOf h source with
      | error f =>
        simp only [Task.perform, runInspect_eq]
        refine prints_spoken_bind_of_ok fun api ha' => ?_
        cases ha.symm.trans ha'
      | ok api =>
        refine (prints_listing no_rich ha).imp fun r text shown returned => ⟨api, ha, ?_⟩
        rcases shown with ⟨-, ⟨reason, stopped⟩, -⟩ | ⟨-, shown⟩
        · cases returned.symm.trans stopped
        cases tabled : api.schemaTable with
        | error e =>
          simp only [tabled] at shown
          cases returned.symm.trans shown.1
        | ok t =>
          simp only [tabled, (Api.schemaTable_eq_ok_iff.1 tabled).2] at shown
          rw [shown.2, Task.tableText, Task.table?]
          by_cases none : api.schemas = []
          · simp [none]
          · simp [none]
    | info => exact absurd rfl ht

/-- Where a task shows a table and ends well, what is printed in the plain format is read back as the
table, with its headers first, a line for each row and a cell under each header, exactly if no text
of the description that stands in it holds a tab or a line feed. A task that shows no schemas, since
there are none, prints nothing. -/
theorem readLines_run_iff {words : List String} {choice : ConsoleChoice}
    (hw : Request.ofWords words = .ok (.work choice task))
    (hf : (choice.console h).format = .plain) (ht : task.ShowsTable)
    (hz : (run h words).exitCode = 0) :
    ∃ api, apiOf h task.source = .ok api ∧
      (∀ t, task.table? api = some t → t.IsRectangular ∧
        (Table.readLines (Printed.dataText (run h words).printed) = t.lines ↔
          ∀ s ∈ task.texts api, IsCell s)) ∧
      (task.table? api = none → Printed.dataText (run h words).printed = "") := by
  obtain ⟨api, ha, printed⟩ := dataText_run hw (prints_table hf ht) ((exitCode_run_eq_zero_iff hw).1 hz)
  have no_json : (choice.console h).format ≠ .json := by
    rw [hf]
    decide
  refine ⟨api, ha, fun t table => ?_, fun none => ?_⟩
  · have shows := Task.shows_texts table
    refine ⟨shows.rectangular, ?_⟩
    rw [printed, Task.tableText, table, ← shows.cells]
    exact readLines_print_iff no_json shows.headers shows.rectangular
  · rw [printed, Task.tableText, none]
    rfl

/-- A host with a document that has an operation whose summary has two lines. -/
def linesHost : Host where
  directory := ⟨"/", ["home"]⟩
  tree := {
    files := [(["home", "api.json"], Text.encode ("\x7b\"openapi\": \"3.0.0\", "
      ++ "\"info\": \x7b\"title\": \"A\", \"version\": \"1\"\x7d, \"paths\": \x7b\"/\": "
      ++ "\x7b\"get\": \x7b\"summary\": \"a\\nb\", \"responses\": \x7b\x7d\x7d\x7d\x7d\x7d"))]
    directories := [] }
  environment := []
  input := .text ""
  fetch := fun _ => .failed ""
  commands := []
  atTerminal := false

/-- The operations are shown there, and their table is not read back. -/
theorem readLines_run_iff_linesHost :
    ∃ api, apiOf linesHost "api.json" = .ok api ∧
      (run linesHost ["inspect", "operations", "--doc", "api.json"]).exitCode = 0 ∧
      Table.readLines (Printed.dataText
        (run linesHost ["inspect", "operations", "--doc", "api.json"]).printed) ≠
          api.operationTable.lines := by
  have words : Request.ofWords ["inspect", "operations", "--doc", "api.json"] =
      .ok (.work ⟨false, false, false, false, false⟩ (.inspect .operations "api.json")) := by
    decide +kernel
  -- one evaluation, so that the document is read once
  obtain ⟨ends, described⟩ :
      (run linesHost ["inspect", "operations", "--doc", "api.json"]).exitCode = 0 ∧
      (apiOf linesHost "api.json").toOption.map (Task.texts · (.inspect .operations "api.json")) =
        some ["/", "get", "a\nb"] := by
    decide +kernel
  obtain ⟨api, hapi, texts⟩ := Option.map_eq_some_iff.1 described
  have ha := toOption_eq_some_iff.1 hapi
  obtain ⟨api', ha', read, -⟩ := readLines_run_iff words rfl (nofun : View.operations ≠ .info) ends
  obtain rfl : api = api' := Except.ok.inj (ha.symm.trans ha')
  refine ⟨api, ha, ends, fun same => ?_⟩
  have cells := (read _ rfl).2.1 same
  rw [texts] at cells
  exact absurd cells (by decide)

end CommandLine

end ApiBridge
