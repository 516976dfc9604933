import ApiBridge.Proofs.CommandLine.TypesText
import ApiBridge.Proofs.Project.Tools

/-!
# Data as JSON

With the format of JSON every task prints its data as one value, which another program can read. The
only task that prints no value at all is the one that shows the schemas of a document that has none.
-/

namespace ApiBridge

/-! ### Documents -/

namespace Json

variable {v : Value}

/-- The text is one JSON document: it spells one value, with blanks around it. -/
def IsDocument (s : String) : Prop :=
  ∃ before cs after v, IsBlank before ∧ IsBlank after ∧ Spells cs v ∧
    s.toList = before ++ (cs ++ after)

lemma not_isDocument_empty : ¬IsDocument "" := by
  rintro ⟨before, cs, after, v, -, -, h, hs⟩
  obtain ⟨c, rest, rfl, -⟩ := h.exists_cons
  simp at hs

lemma isDocument_line {s : String} (h : Spells s.toList v) : IsDocument (s ++ "\n") :=
  ⟨[], s.toList, ['\n'], v, isBlank_nil, by simp [IsBlank, isSpace], h, by simp⟩

/-- The entries of plain values under different names are plain. -/
lemma isPlain_ofFields {fields : List (String × Value)} (hn : (fields.map (·.1)).Nodup)
    (h : ∀ f ∈ fields, IsPlain f.2) : IsPlain (.ofFields fields) :=
  .map hn h

lemma isPlain_map {β : Type} {f : β → Value} (h : ∀ x, IsPlain (f x)) (xs : List β) :
    IsPlain (.list (xs.map f)) := by
  refine .list fun v hv => ?_
  obtain ⟨x, -, rfl⟩ := List.mem_map.1 hv
  exact h x

end Json

/-! ### What is shown is plain -/

open Json

lemma Declaration.isPlain_record (d : Declaration) : IsPlain d.record := by
  refine .map (by simp) ?_
  simp only [List.forall_mem_cons, List.not_mem_nil, false_implies, implies_true, and_true]
  exact ⟨.text _, .text _, .text _, .text _⟩

namespace Tool

lemma isPlain_parameterRecord (p : ToolParameter) : IsPlain (parameterRecord p) := by
  refine .map (by simp) ?_
  simp only [List.forall_mem_cons, List.not_mem_nil, false_implies, implies_true, and_true]
  exact ⟨.text _, .text _, .text _, .bool _, .text _⟩

lemma isPlain_bodyRecord (b : ToolBody) : IsPlain (bodyRecord b) := by
  refine .map (by simp) ?_
  simp only [List.forall_mem_cons, List.not_mem_nil, false_implies, implies_true, and_true]
  exact ⟨.text _, .bool _⟩

lemma isPlain_record (t : Tool) : IsPlain t.record := by
  have body : IsPlain ((t.body.map bodyRecord).getD .null) := by
    cases t.body with
    | none => exact .null
    | some b => exact isPlain_bodyRecord b
  refine .map (by simp) ?_
  simp only [List.forall_mem_cons, List.not_mem_nil, false_implies, implies_true, and_true]
  exact ⟨.text _, .text _, .text _, .text _, isPlain_map isPlain_parameterRecord _, body⟩

end Tool

lemma Project.isPlain_record (p : Project) : IsPlain p.record := by
  refine .map (by simp) ?_
  simp only [List.forall_mem_cons, List.not_mem_nil, false_implies, implies_true, and_true]
  exact ⟨.text _, .text _, .text _, isPlain_map Tool.isPlain_record _,
    isPlain_map (fun d => .text _) _, isPlain_map (fun f => .text _) _⟩

/-- General information is spelled by what is written of it, the numbers in it included. -/
lemma Api.spells_record {α : Type} (api : Api α) :
    Spells (write .pretty api.record).toList api.record := by
  refine spells_writeAt_ofFields .pretty 0 (by simp) ?_
  simp only [List.forall_mem_cons, List.not_mem_nil, false_implies, implies_true, and_true]
  exact ⟨.text _ _, .text _ _, .text _ _, .text _ _,
    spells_writeAt .pretty 1 (isPlain_map (fun s => .text _) _),
    spells_writeAt_nat .pretty 1 _, spells_writeAt_nat .pretty 1 _⟩

/-! ### Tables -/

namespace Console

lemma nodup_zip {headers : List String} (hn : headers.Nodup) (row : List String) :
    ((headers.zip row).map Prod.fst).Nodup := by
  have before : (headers.zip row).map Prod.fst <+: headers := by
    induction headers generalizing row with
    | nil => simp
    | cons header headers ih =>
      cases row with
      | nil => simp
      | cons cell row => simpa using ih (List.nodup_cons.1 hn).2 row
  exact before.sublist.nodup hn

/-- A row under different headers is a map of texts. -/
lemma rowMap_texts {headers : List String} (hn : headers.Nodup) (row : List String) :
    rowMap (.list (headers.map .text)) (.list (row.map .text)) =
      .ok (.ofFields ((headers.zip row).map fun cell => (cell.1, .text cell.2))) := by
  have distinct := pairwise_text (nodup_zip hn row)
  have merged : mergeKeys ((headers.zip row).map fun cell =>
      (Scalar.text cell.1, Value.text cell.2)) =
      (headers.zip row).map fun cell => (.text cell.1, .text cell.2) := by
    refine mergeKeys_eq_self ?_
    simpa [Function.comp_def] using distinct
  refine bind_eq_ok_iff.2 ⟨headers.map .text, rfl, bind_eq_ok_iff.2
    ⟨(headers.map Value.text).zip (row.map .text), rfl, bind_eq_ok_iff.2
    ⟨(headers.zip row).map fun cell => (.text cell.1, .text cell.2), ?_, ?_⟩⟩⟩
  · rw [mapM_eq_ok_iff, List.zip_map, List.forall₂_map_left_iff, List.forall₂_map_right_iff,
      List.forall₂_same]
    exact fun cell _ => rfl
  · rw [merged, Value.ofFields, List.map_map]
    rfl

/-- A table with different headers is printed as a list of maps. -/
lemma exists_print_eq {t : Table} (hn : t.headers.Nodup) {c : Console} (hc : c.format = .json) :
    ∃ v, IsPlain v ∧ t.print c = printJson v := by
  let map (row : List String) : Value :=
    .ofFields ((t.headers.zip row).map fun cell => (cell.1, .text cell.2))
  have maps : (t.rows.map fun row => Value.list (row.map .text)).mapM
      (rowMap (.list (t.headers.map .text))) = .ok (t.rows.map map) := by
    rw [mapM_eq_ok_iff, List.forall₂_map_left_iff, List.forall₂_map_right_iff, List.forall₂_same]
    exact fun row _ => rowMap_texts hn row
  refine ⟨.list (t.rows.map map), isPlain_map (fun row => isPlain_ofFields ?_ ?_) _, ?_⟩
  · rw [List.map_map]
    exact nodup_zip hn row
  · simp only [List.forall_mem_map]
    exact fun cell _ => .text _
  · have shown : (partsOf (.list (t.rows.map fun row => .list (row.map .text))) >>= fun rows =>
        rows.mapM (rowMap (.list (t.headers.map .text)))) = .ok (t.rows.map map) :=
      bind_eq_ok_iff.2 ⟨_, rfl, maps⟩
    unfold Table.print printTable
    simp only [hc, shown]

end Console

namespace CommandLine

open Run

variable {h : Host} {c : ColorConsole}

/-! ### Parts that print a document -/

/-- If a part of a run ends well, all the data that it prints is one document. -/
def PrintsDocument (x : Run Unit) : Prop :=
  Prints x fun r text => r = .ok () → IsDocument text

lemma printsDocument_printJson {v : Value} (hv : Spells (write .pretty v).toList v) :
    PrintsDocument (Run.printData (Console.printJson v)) := by
  refine prints_printData ?_
  unfold Console.printJson
  cases badKey? v with
  | some k => exact fun h => by cases h
  | none =>
    intro _
    simp only [Console.dataText_line]
    exact isDocument_line hv

lemma printsDocument_plain {v : Value} (hv : IsPlain v) :
    PrintsDocument (Run.printData (Console.printJson v)) :=
  printsDocument_printJson (spells_writeAt .pretty 0 hv)

lemma printsDocument_table (hc : c.format = .json) {t : Table} (hn : t.headers.Nodup)
    (title : String) : PrintsDocument (Run.showTable c title t) := by
  obtain ⟨v, hv, heq⟩ := Console.exists_print_eq hn hc
  rw [showTable_of_ne_rich (by simp [hc]), heq]
  exact printsDocument_plain hv

lemma Run.Silent.printsDocument {α : Type} {x : Run α} {f : α → Run Unit} (hx : Silent x)
    (hf : ∀ a, PrintsDocument (f a)) : PrintsDocument (x >>= f) :=
  hx.bind (fun _ h => by cases h) hf

/-- Nothing is printed before the input is read. -/
lemma printsDocument_spoken_bind {α : Type} {ms : List Message} {r : Except Failure α}
    {f : α → Run Unit} (hf : ∀ a, PrintsDocument (f a)) :
    PrintsDocument (spoken c ms r >>= f) :=
  prints_spoken_bind_of_ok fun a _ => hf a

/-! ### Tasks -/

lemma silent_follow (c : ColorConsole) (events : List BuildEvent) : Silent (follow c events) := by
  induction events with
  | nil => exact prints_pure rfl
  | cons event events ih =>
    cases event with
    | noted n => exact (silent_tell c _).bind (fun _ => rfl) fun _ => ih
    | ran command =>
      have kept : Silent (modify fun e => { e with commands := e.commands ++ [command] }) :=
        fun s => ⟨[], by rw [after_modify, List.append_nil], rfl⟩
      exact kept.bind (fun _ => rfl) fun _ => ih

lemma silent_buildOrAdvise (h : Host) (c : ColorConsole) (directory : String) (install : Bool) :
    Silent (buildOrAdvise h c directory install) := by
  cases install with
  | false =>
    simp only [buildOrAdvise, Bool.false_eq_true, if_false]
    exact silent_tell c _
  | true =>
    simp only [buildOrAdvise, if_true]
    generalize build (Path.ofText directory) defaultSeconds h.commands = built
    refine (silent_tell c _).bind (fun _ => rfl) fun _ => ?_
    refine (silent_follow c _).bind (fun _ => rfl) fun _ => ?_
    exact prints_require_bind (fun _ _ => rfl) fun _ _ => silent_tell c _

lemma printsDocument_runGenerate (hc : c.format = .json) (input : TypesInput) (directory : String)
    (install : Bool) : PrintsDocument (runGenerate h c input directory install) := by
  rw [runGenerate_eq]
  refine printsDocument_spoken_bind fun project => ?_
  refine (silent_write _ _).printsDocument fun _ => ?_
  have presented : PrintsDocument (present h c directory project) := by
    refine (silent_tell c _).printsDocument fun _ => (silent_tell c _).printsDocument fun _ => ?_
    rw [showProject, if_pos hc]
    exact (printsDocument_plain project.isPlain_record).before (silent_tell c _)
  exact presented.before (silent_buildOrAdvise h c directory install)

lemma printsDocument_runTypes (hc : c.format = .json) (input : TypesInput) :
    PrintsDocument (runTypes h c input none) := by
  rw [runTypes_eq]
  refine printsDocument_spoken_bind fun types => ?_
  simp only [deliver, hc, if_true]
  exact printsDocument_plain (isPlain_map Declaration.isPlain_record types.1)

/-- The schemas of a document that has some are a document; of one that has none nothing is
printed. -/
lemma prints_runInspect_schemas (hc : c.format = .json) (source : String) :
    Prints (runInspect h c .schemas source) fun r text => r = .ok () →
      ∃ api, apiOf h source = .ok api ∧
        if api.schemas = [] then text = "" else IsDocument text := by
  rw [runInspect_eq]
  refine prints_spoken_bind_of_ok fun api hapi => ?_
  by_cases none : api.schemas = []
  · simp only [none, List.isEmpty_nil, if_true]
    refine (silent_tell c _).imp fun r text silent _ => ⟨api, hapi, ?_⟩
    rw [if_pos none]
    exact silent
  · have some : api.schemas.isEmpty = false := by simpa using none
    have shown : PrintsDocument (do
        let table ← Run.require .text api.schemaTable
        Run.showTable c api.schemaTitle table) := by
      refine prints_require_bind (fun _ _ h => by cases h) fun table htable => ?_
      obtain ⟨rows, -, htable⟩ := bind_eq_ok_iff.1 htable
      cases htable
      exact printsDocument_table hc (by simp) _
    simp only [some, Bool.false_eq_true, if_false]
    refine Prints.imp shown fun r text document hr => ⟨api, hapi, ?_⟩
    rw [if_neg none]
    exact document hr

lemma printsDocument_runInspect (hc : c.format = .json) {view : View} (hv : view ≠ .schemas)
    (source : String) : PrintsDocument (runInspect h c view source) := by
  rw [runInspect_eq]
  refine printsDocument_spoken_bind fun api => ?_
  cases view with
  | operations => exact printsDocument_table hc (by simp [Api.operationTable]) _
  | schemas => exact absurd rfl hv
  | info =>
    have shown : Run.showRecord c api.record = Run.printData (Console.printJson api.record) := by
      simp only [Run.showRecord, hc, Console.printRecord]
    rw [shown]
    exact printsDocument_printJson api.spells_record

/-! ### Whole runs -/

/-- The task prints its data, instead of writing it to a file. -/
def Task.PrintsData : Task → Prop
  | .generate _ _ _ => True
  | .types _ file => file = none
  | .inspect _ _ => True

/-- The task shows the schemas of a document that has none. -/
def Task.ShowsNothing (h : Host) : Task → Prop
  | .inspect .schemas source => ∃ api, apiOf h source = .ok api ∧ api.schemas = []
  | _ => False

lemma prints_perform (hc : c.format = .json) {task : Task} (ht : task.PrintsData) :
    Prints (task.perform h c) fun r text => r = .ok () →
      (task.ShowsNothing h ∧ text = "") ∨ (¬task.ShowsNothing h ∧ IsDocument text) := by
  -- All tasks but one print a document.
  have documents {x : Run Unit} (hx : PrintsDocument x) (hs : ¬task.ShowsNothing h) :
      Prints x fun r text => r = .ok () →
        (task.ShowsNothing h ∧ text = "") ∨ (¬task.ShowsNothing h ∧ IsDocument text) :=
    hx.imp fun r text document hr => .inr ⟨hs, document hr⟩
  cases task with
  | generate input directory install =>
    exact documents (printsDocument_runGenerate hc input directory install) id
  | types input file =>
    obtain rfl : file = none := ht
    exact documents (printsDocument_runTypes hc input) id
  | inspect view source =>
    cases view with
    | operations => exact documents (printsDocument_runInspect hc (by decide) source) id
    | info => exact documents (printsDocument_runInspect hc (by decide) source) id
    | schemas =>
      refine (prints_runInspect_schemas hc source).imp fun r text shown hr => ?_
      obtain ⟨api, hapi, htext⟩ := shown hr
      split at htext
      case isTrue none => exact .inl ⟨⟨api, hapi, none⟩, htext⟩
      case isFalse some =>
        refine .inr ⟨?_, htext⟩
        rintro ⟨api', hapi', none⟩
        cases hapi.symm.trans hapi'
        exact some none

/-- What a run prints as data with the format of JSON, if it ends well, is one JSON document, except
that nothing is printed where the schemas of a document are shown that has none. -/
theorem json_output_iff {words : List String} {choice : ConsoleChoice} {task : Task}
    (hw : Request.ofWords words = .ok (.work choice task)) (hj : choice.json = true)
    (ht : task.PrintsData) (hz : (run h words).exitCode = 0) :
    (IsDocument (Printed.dataText (run h words).printed) ↔ ¬task.ShowsNothing h) ∧
      (task.ShowsNothing h → Printed.dataText (run h words).printed = "") := by
  have format : (choice.console h).format = .json := by
    simp only [ConsoleChoice.console, hj, if_true]
  have printed := dataText_run (h := h) hw (prints_perform format ht)
  rcases printed ((exitCode_run_eq_zero_iff hw).1 hz) with ⟨shows, htext⟩ | ⟨shows, document⟩
  · rw [htext]
    exact ⟨⟨fun document => absurd document not_isDocument_empty, fun hn => absurd shows hn⟩,
      fun _ => rfl⟩
  · exact ⟨⟨fun _ => shows, fun _ => document⟩, fun hs => absurd hs shows⟩

/-- The operations of a document without any are a document, and its schemas are nothing. -/
theorem json_output_iff_failingHost :
    IsDocument (Printed.dataText
      (run failingHost ["--json", "inspect", "operations", "--doc", "api.json"]).printed) ∧
    (run failingHost ["--json", "inspect", "schemas", "--doc", "api.json"]).exitCode = 0 ∧
    ¬IsDocument (Printed.dataText
      (run failingHost ["--json", "inspect", "schemas", "--doc", "api.json"]).printed) ∧
    Printed.dataText
      (run failingHost ["--json", "inspect", "schemas", "--doc", "api.json"]).printed = "" := by
  have operations : Request.ofWords ["--json", "inspect", "operations", "--doc", "api.json"] =
      .ok (.work ⟨true, false, false, false, false⟩ (.inspect .operations "api.json")) := by
    decide +kernel
  have schemas : Request.ofWords ["--json", "inspect", "schemas", "--doc", "api.json"] =
      .ok (.work ⟨true, false, false, false, false⟩ (.inspect .schemas "api.json")) := by
    decide +kernel
  -- one evaluation, so that the document is loaded once
  obtain ⟨ends, none⟩ :
      ((run failingHost ["--json", "inspect", "operations", "--doc", "api.json"]).exitCode = 0 ∧
        (run failingHost ["--json", "inspect", "schemas", "--doc", "api.json"]).exitCode = 0) ∧
      (apiOf failingHost "api.json").toOption.map (fun api => api.schemas.isEmpty) =
        some true := by
    decide +kernel
  have nothing : Task.ShowsNothing failingHost (.inspect .schemas "api.json") := by
    obtain ⟨api, hapi, hs⟩ := Option.map_eq_some_iff.1 none
    exact ⟨api, toOption_eq_some_iff.1 hapi, by simpa using hs⟩
  have shown := json_output_iff (h := failingHost) operations rfl trivial ends.1
  have missing := json_output_iff (h := failingHost) schemas rfl trivial ends.2
  exact ⟨shown.1.2 id, ends.2, fun document => missing.1.1 document nothing, missing.2 nothing⟩

end CommandLine

end ApiBridge
