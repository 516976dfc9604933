import ApiBridge.Proofs.CommandLine.Printing
import ApiBridge.Proofs.CommandLine.Failing
import ApiBridge.Proofs.Project.Pinned

/-!
# The text of types

The types of a document can be printed, written to a file or generated with a project. A printed
text loses the line feeds at its end and gets one, and since no declaration ends with a line feed
and the file of declarations ends with exactly one, that is the text of the file again. So there is
one text in all three places.
-/

namespace ApiBridge

/-! ### How texts end -/

namespace Text

/-- The text ends within a line: with a character that is no line feed. -/
def EndsWithinLine (s : String) : Prop :=
  ∃ cs c, s.toList = cs ++ [c] ∧ c ≠ '\n'

lemma EndsWithinLine.append {t : String} (h : EndsWithinLine t) (s : String) :
    EndsWithinLine (s ++ t) := by
  obtain ⟨cs, c, ht, hc⟩ := h
  refine ⟨s.toList ++ cs, c, ?_, hc⟩
  rw [String.toList_append, ht, List.append_assoc]

lemma EndsWithinLine.ne_empty {s : String} (h : EndsWithinLine s) : s ≠ "" := by
  obtain ⟨cs, c, hs, -⟩ := h
  rintro rfl
  simp at hs

lemma EndsWithinLine.intercalate (sep : String) {ss : List String} (hne : ss ≠ [])
    (h : ∀ s ∈ ss, EndsWithinLine s) : EndsWithinLine (sep.intercalate ss) := by
  induction ss with
  | nil => exact absurd rfl hne
  | cons s ss ih =>
    cases ss with
    | nil => simpa using h s (by simp)
    | cons t ts =>
      rw [String.intercalate_cons_cons]
      exact (ih (by simp) fun u hu => h u (by simp [hu])).append _

lemma EndsWithinLine.endsWith_eq_false {s : String} (h : EndsWithinLine s) :
    s.endsWith "\n" = false := by
  obtain ⟨cs, c, hs, hc⟩ := h
  rw [String.endsWith_eq_endsWith_toSlice, String.Slice.endsWith_string_eq_false_iff]
  rintro ⟨before, hbefore⟩
  have last := congrArg List.getLast? hbefore
  simp [hs] at last
  exact hc last.symm

lemma endsWith_append_newline (s : String) : (s ++ "\n").endsWith "\n" = true := by
  rw [String.endsWith_eq_endsWith_toSlice, String.Slice.endsWith_string_iff]
  exact ⟨s.toList, by simp⟩

/-- Of a text that ends within a line and a line feed after it, the line feed is dropped. -/
lemma EndsWithinLine.dropTrailingNewlines {s : String} (h : EndsWithinLine s) :
    dropTrailingNewlines (s ++ "\n") = s := by
  obtain ⟨cs, c, hs, hc⟩ := h
  apply String.toList_injective
  simp [Text.dropTrailingNewlines, hs, hc]

end Text

/-! ### Files of declarations -/

namespace Declaration

open Text

variable {α : Type} [Layered α]

/-- A declaration is written as its expression is made for: records as interfaces. -/
def IsFitting (d : Declaration) : Prop :=
  d.kind = d.expression.declarationKind

lemma isFitting_of_declarations {options : TypeOptions} {api : Api α} {ds : List Declaration}
    (h : (api.declarations options).outcome = .ok ds) : ∀ d ∈ ds, d.IsFitting := by
  intro d hd
  obtain ⟨settled, -⟩ := Draft.settleAll_eq_ok.1 h
  obtain ⟨draft, -, hdraft⟩ := exists_of_mem_right settled hd
  exact hdraft.kind

/-- A record ends with its closing brace. -/
lemma endsWithinLine_source_record (level : Int) (properties : List (Property TypeExpr)) :
    EndsWithinLine ((TypeExpr.record properties).source level) := by
  have brace : EndsWithinLine "\x7d" := ⟨[], '\x7d', rfl, by decide⟩
  cases properties with
  | nil => exact brace.append "\x7b"
  | cons p ps =>
    rw [TypeExpr.source]
    · rw [String.intercalate_append_of_ne_nil (by simp) (by simp)]
      refine EndsWithinLine.append ?_ _
      simpa using brace.append (TypeExpr.indentation level)
    · simp

lemma IsFitting.endsWithinLine {d : Declaration} (h : d.IsFitting) : EndsWithinLine d.source := by
  obtain ⟨name, kind, expression, origin⟩ := d
  obtain rfl : kind = expression.declarationKind := h
  have semicolon : EndsWithinLine ";" := ⟨[], ';', rfl, by decide⟩
  unfold source TypeExpr.declarationKind
  cases expression with
  | record properties => exact (endsWithinLine_source_record 0 properties).append _
  | _ => exact semicolon.append _

/-- The file of declarations is a text that ends within a line and a line feed, also when nothing is
declared. -/
lemma exists_fileText {ds : List Declaration} (h : ∀ d ∈ ds, d.IsFitting) :
    ∃ s, EndsWithinLine s ∧ fileText fileHeader ds = s ++ "\n" := by
  have stop : EndsWithinLine "." := ⟨[], '.', rfl, by decide⟩
  have header : ∃ s, fileHeader = s ++ "." ++ "\n" :=
    ⟨"// Type definitions generated by lightning-mcp from the API description.\n"
      ++ "// Do not edit by hand; regenerate instead", by decide⟩
  obtain ⟨s, hs⟩ := header
  have named : fileHeader ≠ "" := by decide
  cases ds with
  | nil =>
    refine ⟨s ++ ".", stop.append s, ?_⟩
    simp only [fileText, List.map_nil, String.intercalate_nil, named, false_and, if_false, if_true]
    rw [hs, if_pos (endsWith_append_newline _)]
  | cons d ds =>
    have body : EndsWithinLine ("\n\n".intercalate ((d :: ds).map source)) := by
      refine EndsWithinLine.intercalate _ (by simp) fun text htext => ?_
      obtain ⟨d', hd', rfl⟩ := List.mem_map.1 htext
      exact (h d' hd').endsWithinLine
    have whole := body.append (fileHeader ++ "\n")
    refine ⟨_, whole, ?_⟩
    simp only [fileText, named, body.ne_empty, false_and, if_false, whole.endsWith_eq_false,
      Bool.false_eq_true]

/-- A printed file of declarations is the file. -/
lemma dataText_printSource_fileText {ds : List Declaration} (h : ∀ d ∈ ds, d.IsFitting) :
    Printed.dataText (Console.printSource (fileText fileHeader ds)) = fileText fileHeader ds := by
  obtain ⟨s, hs, heq⟩ := exists_fileText h
  rw [heq, Console.printSource, hs.dropTrailingNewlines, Console.dataText_line]

end Declaration

/-! ### Projects that are not written -/

namespace Project

/-- Where a text is missing, it is that of one of the files. -/
lemma exists_of_writeAll_noText {base : Place} {t : FileTree}
    {files : List (Path × Except TextError String)} {e : TextError}
    (h : (writeAll base t files).2 = some (.noText e)) : ∃ f ∈ files, f.2 = .error e := by
  induction files generalizing t with
  | nil => cases h
  | cons f files ih =>
    obtain ⟨path, text⟩ := f
    cases text with
    | error e' =>
      cases h
      exact ⟨_, List.mem_cons_self, rfl⟩
    | ok text =>
      rw [writeAll] at h
      split at h
      case h_1 => cases h
      case h_2 =>
        obtain ⟨f, hf, he⟩ := ih h
        exact ⟨f, List.mem_cons_of_mem _ hf, he⟩

/-- A project whose manifest and types have texts has texts for all its files. -/
lemma write_ne_noText {p : Project} {manifest types : String}
    (hm : p.blueprint.writtenManifest = .ok manifest)
    (ht : Declaration.writtenFile Declaration.fileHeader p.declarations = .ok types) (h : Host)
    (e : TextError) : (p.write h).2 ≠ some (.noText e) := by
  intro he
  rw [write, hm] at he
  obtain ⟨f, hf, hfile⟩ := exists_of_writeAll_noText he
  simp only [files, List.mem_cons, List.not_mem_nil, or_false] at hf
  rcases hf with rfl | rfl | rfl | rfl | rfl
  · cases hfile
  · cases hm.symm.trans hfile
  · cases hfile
  · cases hfile
  · cases ht.symm.trans hfile

end Project

namespace CommandLine

open Run

variable {h : Host} {c : ColorConsole} {input : TypesInput} {file directory : String}
  {types : List Declaration × String}

/-! ### Runs that make types -/

/-- Declarations that have a text fit, and the text is that of their file. -/
lemma of_typesOf (ht : typesOf h input = .ok types) :
    (∀ d ∈ types.1, d.IsFitting) ∧
      types.2 = Declaration.fileText Declaration.fileHeader types.1 := by
  obtain ⟨settings, -, ht⟩ := bind_eq_ok_iff.1 ht
  obtain ⟨api, -, ht⟩ := bind_eq_ok_iff.1 ht
  obtain ⟨declarations, hd, ht⟩ := bind_eq_ok_iff.1 ht
  obtain ⟨text, htext, ht⟩ := bind_eq_ok_iff.1 ht
  cases ht
  refine ⟨Declaration.isFitting_of_declarations (mapError_eq_ok_iff.1 hd), ?_⟩
  have written := mapError_eq_ok_iff.1 htext
  unfold Declaration.writtenFile at written
  split at written
  · exact (Except.ok.inj written).symm
  · cases written

/-- How a run ends that prints types in plain format, and what it prints: the text of the types. -/
lemma prints_runTypes (h : Host) (hc : c.format = .plain) (input : TypesInput) :
    Prints (runTypes h c input none) fun r text =>
      (¬c.Draws (typesMessages h input) ∧ (∃ reason, r = .error (.marks reason)) ∧ text = "") ∨
      (c.Draws (typesMessages h input) ∧
        match typesOf h input with
        | .ok types => r = .ok () ∧ text = types.2
        | .error f => r = .error f ∧ text = "") := by
  rw [runTypes_eq]
  refine prints_spoken_bind ?_ ?_ ?_
  · exact fun reason undrawn => .inl ⟨undrawn, ⟨reason, rfl⟩, rfl⟩
  · intro f drawn hf
    rw [hf]
    exact .inr ⟨drawn, rfl, rfl⟩
  · intro types drawn ht
    obtain ⟨fitting, text⟩ := of_typesOf ht
    have shown : deliver h c types none = print (Console.printSource types.2) := by
      simp only [deliver, showSource, hc, reduceCtorEq, if_false]
    rw [shown, ht]
    refine prints_print (.inr ⟨drawn, rfl, ?_⟩)
    rw [text]
    exact Declaration.dataText_printSource_fileText fitting

/-- What a run comes to that writes types to a file, and the files that it leaves. -/
lemma after_runTypes (drawn : c.Draws (typesMessages h input)) (file : String) (s : Effects) :
    let written (text : String) := s.tree.write h.directory.names (Path.ofText file) text false
    let done := (runTypes h c input (some file)).after s
    match typesOf h input with
    | .ok types => done.2.tree = (written types.2).1 ∧
        done.1 = match (written types.2).2 with
          | some e => .error (.file e)
          | none => unlessStopped .marks (c.sayAll [typesWritten types file]).2
    | .error f => done.1 = .error f ∧ done.2.tree = s.tree := by
  simp only [runTypes_eq, after_bind, after_spoken_of_draws drawn]
  cases typesOf h input with
  | error f => exact ⟨rfl, rfl⟩
  | ok types =>
    simp only [deliver, after_bind, after_write, after_tell, Effects.tree_withPrinted]
    cases (s.tree.write h.directory.names (Path.ofText file) types.2 false).2 with
    | some e => exact ⟨rfl, rfl⟩
    | none => exact ⟨rfl, rfl⟩

/-- A message that cannot be drawn stops a run before it writes types. -/
lemma after_runTypes_of_not_draws (undrawn : ¬c.Draws (typesMessages h input))
    (file : Option String) (s : Effects) :
    ∃ reason ps, (runTypes h c input file).after s = (.error (.marks reason), s.withPrinted ps) := by
  obtain ⟨reason, stops⟩ := after_spoken_of_not_draws undrawn (typesOf h input) s
  exact ⟨reason, (c.sayAll (typesMessages h input)).1, by rw [runTypes_eq, after_bind, stops]⟩

/-- A project is made with the types of its document. -/
lemma projectOf_of_typesOf (directory : String) (ht : typesOf h input = .ok types) :
    ∃ project, projectOf h input directory = .ok project ∧
      project.directory = Path.ofText directory ∧
      Declaration.writtenFile Declaration.fileHeader project.declarations = .ok types.2 ∧
      ∃ manifest, project.blueprint.writtenManifest = .ok manifest := by
  obtain ⟨settings, hs, ht⟩ := bind_eq_ok_iff.1 ht
  obtain ⟨api, ha, ht⟩ := bind_eq_ok_iff.1 ht
  obtain ⟨declarations, hd, ht⟩ := bind_eq_ok_iff.1 ht
  obtain ⟨text, htext, ht⟩ := bind_eq_ok_iff.1 ht
  cases ht
  have project : (Project.ofApi (Path.ofText directory) api settings).outcome =
      .ok ⟨Path.ofText directory, Project.blueprintOf api settings, declarations⟩ := by
    simp only [Project.ofApi, Attempt.outcome_bind, mapError_eq_ok_iff.1 hd]
    rfl
  refine ⟨⟨Path.ofText directory, Project.blueprintOf api settings, declarations⟩, ?_, rfl,
    mapError_eq_ok_iff.1 htext, ?_⟩
  · exact bind_eq_ok_iff.2 ⟨settings, hs, bind_eq_ok_iff.2 ⟨api, ha, mapError_eq_ok_iff.2 project⟩⟩
  · obtain ⟨found, hfound, hsettings⟩ := bind_eq_ok_iff.1 hs
    cases hsettings
    have writable := Settings.isWritable_of_resolve (mapError_eq_ok_iff.1 hfound)
    exact ⟨_, Project.writtenManifest_eq_ok_iff.2 ⟨writable, rfl⟩⟩

/-- Without types that have a text no project is generated. -/
lemma runGenerate_fails (h : Host) (c : ColorConsole) (directory : String) (install : Bool)
    (s : Effects) {f : Failure} (hf : typesOf h input = .error f) :
    ∃ e, ((runGenerate h c input directory install).after s).1 = .error e := by
  -- A project that is written has a text for its types.
  have not_written {project : Project} {tree : FileTree}
      (hp : projectOf h input directory = .ok project)
      (hw : project.write { h with tree := s.tree } = (tree, none)) : False := by
    obtain ⟨settings, hs, hp⟩ := bind_eq_ok_iff.1 hp
    obtain ⟨api, ha, hp⟩ := bind_eq_ok_iff.1 hp
    have made := mapError_eq_ok_iff.1 hp
    rw [Project.ofApi, Attempt.outcome_bind] at made
    obtain ⟨declarations, hd, made⟩ := bind_eq_ok_iff.1 made
    cases made
    obtain ⟨text, htext, -⟩ := Project.find_of_write hw
      (((Path.ofText directory).child "src").child "types.ts",
        Declaration.writtenFile Declaration.fileHeader declarations) (by simp [Project.files])
    have returned : typesOf h input = .ok (declarations, text) :=
      bind_eq_ok_iff.2 ⟨settings, hs, bind_eq_ok_iff.2 ⟨api, ha, bind_eq_ok_iff.2
        ⟨declarations, mapError_eq_ok_iff.2 hd,
          bind_eq_ok_iff.2 ⟨text, mapError_eq_ok_iff.2 htext, rfl⟩⟩⟩⟩
    cases returned.symm.trans hf
  have ends := endsGenerating h c input directory install s
  generalize (runGenerate h c input directory install).after s = done at ends ⊢
  cases ends with
  | unsaid _ _ => exact ⟨_, rfl⟩
  | unprepared _ _ _ => exact ⟨_, rfl⟩
  | unwritten _ _ _ _ => exact ⟨_, rfl⟩
  | written _ _ hp hw _ => exact (not_written hp hw).elim

/-- A run that generates a project leaves the text of the types in it, unless a message cannot be
drawn before that or a file cannot be written. -/
lemma find_types_runGenerate (drawn : c.Draws (projectMessages h input directory))
    (install : Bool) (ht : typesOf h input = .ok types)
    (writable : ∀ e, ((runGenerate h c input directory install).after ⟨[], h.tree, []⟩).1 ≠
      .error (.file e)) :
    ((runGenerate h c input directory install).after ⟨[], h.tree, []⟩).2.tree.find h.directory.names
        (((Path.ofText directory).child "src").child "types.ts") =
      .ok (some (.ok (Text.encode types.2))) := by
  obtain ⟨project, hp, hd, htypes, ⟨manifest, hm⟩⟩ := projectOf_of_typesOf directory ht
  have ends := endsGenerating h c input directory install ⟨[], h.tree, []⟩
  generalize (runGenerate h c input directory install).after ⟨[], h.tree, []⟩ = done
    at writable ends ⊢
  cases ends with
  | unsaid _ undrawn => exact absurd drawn undrawn
  | unprepared _ _ hp' => cases hp.symm.trans hp'
  | @unwritten _ tree e _ _ hp' hw =>
    cases hp.symm.trans hp'
    cases e with
    | noFile e => exact absurd rfl (writable e)
    | noText e => exact absurd (congrArg Prod.snd hw) (Project.write_ne_noText hm htypes h e)
  | @written _ tree _ _ _ hp' hw he =>
    cases hp.symm.trans hp'
    have left : done.2.tree = tree := by
      cases he with
      | whole _ => rfl
      | stopped _ _ _ => rfl
    obtain ⟨text, htext, found⟩ := Project.find_of_write hw
      (((Path.ofText directory).child "src").child "types.ts",
        Declaration.writtenFile Declaration.fileHeader project.declarations)
      (by simp [Project.files, hd])
    cases htypes.symm.trans htext
    rw [left]
    exact found

/-! ### Whole runs -/

section

variable {words printing writing generating : List String} {install : Bool}
  {choice printed written generated : ConsoleChoice}

/-- What stops a run at a message is a failure of no kind of its own. -/
lemma exitCode_of_marks {task : Task} {reason : String}
    (hw : Request.ofWords words = .ok (.work choice task))
    (hr : (task.outcome h choice).1 = .error (.marks reason)) :
    (run h words).exitCode = Failure.generalCode := by
  rw [exitCode_run hw, hr]
  exact Failure.told_of_general rfl

lemma exitCode_ne_zero_of_error {task : Task} {f : Failure}
    (hw : Request.ofWords words = .ok (.work choice task))
    (hf : (task.outcome h choice).1 = .error f) : (run h words).exitCode ≠ 0 := by
  rw [ne_eq, exitCode_run_eq_zero_iff hw, hf]
  intro h
  cases h

/-- A run that prints types prints nothing but their text, or it fails and prints no data. -/
lemma run_printing (hw : Request.ofWords words = .ok (.work choice (.types input none)))
    (hc : (choice.console h).format = .plain) :
    (¬(choice.console h).Draws (typesMessages h input) →
      (run h words).exitCode = Failure.generalCode ∧
        Printed.dataText (run h words).printed = "") ∧
    ((choice.console h).Draws (typesMessages h input) → ∀ types, typesOf h input = .ok types →
      (run h words).exitCode = 0 ∧ Printed.dataText (run h words).printed = types.2) ∧
    (∀ f, typesOf h input = .error f →
      (run h words).exitCode ≠ 0 ∧ Printed.dataText (run h words).printed = "") := by
  rcases dataText_run (h := h) hw (prints_runTypes h hc input) with
    ⟨undrawn, ⟨reason, stopped⟩, silent⟩ | ⟨drawn, ends⟩
  · exact ⟨fun _ => ⟨exitCode_of_marks hw stopped, silent⟩, fun drawn => absurd drawn undrawn,
      fun _ _ => ⟨exitCode_ne_zero_of_error hw stopped, silent⟩⟩
  · refine ⟨fun undrawn => absurd drawn undrawn, fun _ types ht => ?_, fun f hf => ?_⟩
    · rw [ht] at ends
      exact ⟨(exitCode_run_eq_zero_iff hw).2 ends.1, ends.2⟩
    · rw [hf] at ends
      exact ⟨exitCode_ne_zero_of_error hw ends.1, ends.2⟩

/-- A run that writes types leaves their text in the file, or it fails and leaves all files as they
are. -/
lemma run_writing (hw : Request.ofWords words = .ok (.work choice (.types input (some file)))) :
    (¬(choice.console h).Draws (typesMessages h input) →
      (run h words).exitCode = Failure.generalCode ∧ (run h words).tree = h.tree) ∧
    ((choice.console h).Draws (typesMessages h input) → ∀ types, typesOf h input = .ok types →
      (∀ e, ¬EndsWith h words choice (.types input (some file)) (.file e)) →
      (run h words).tree.find h.directory.names (Path.ofText file) =
        .ok (some (.ok (Text.encode types.2))) ∧
      ((run h words).exitCode = 0 ↔ (choice.console h).Draws [typesWritten types file])) ∧
    (∀ f, typesOf h input = .error f → (run h words).exitCode ≠ 0 ∧ (run h words).tree = h.tree) := by
  have tree := tree_run (h := h) hw
  by_cases drawn : (choice.console h).Draws (typesMessages h input)
  · have writes := after_runTypes drawn file ⟨[], h.tree, []⟩
    refine ⟨fun undrawn => absurd drawn undrawn, fun _ types ht writable => ?_, fun f hf => ?_⟩
    · rw [ht] at writes
      cases stopped : (h.tree.write h.directory.names (Path.ofText file) types.2 false).2 with
      | some e =>
        simp only [stopped] at writes
        exact absurd ⟨hw, writes.2⟩ (writable e)
      | none =>
        simp only [stopped] at writes
        refine ⟨?_, ?_⟩
        · rw [tree, Task.outcome, Task.perform, writes.1]
          exact FileTree.find_of_write (Prod.ext rfl stopped)
        · rw [exitCode_run_eq_zero_iff hw, Task.outcome, Task.perform, writes.2,
            ← ColorConsole.stopped_sayAll_iff]
          cases ((choice.console h).sayAll [typesWritten types file]).2 with
          | none => exact iff_of_true rfl rfl
          | some reason => exact iff_of_false (fun h => by cases h) fun h => by cases h
    · rw [hf] at writes
      exact ⟨exitCode_ne_zero_of_error hw writes.1, tree.trans writes.2⟩
  · obtain ⟨reason, ps, stops⟩ :=
      after_runTypes_of_not_draws drawn (some file) ⟨[], h.tree, []⟩
    have failed : ((Task.types input (some file)).outcome h choice).1 = .error (.marks reason) :=
      congrArg Prod.fst stops
    have kept : (run h words).tree = h.tree :=
      tree.trans (congrArg (fun done => done.2.tree) stops)
    exact ⟨fun _ => ⟨exitCode_of_marks hw failed, kept⟩, fun drawn' => absurd drawn' drawn,
      fun _ _ => ⟨exitCode_ne_zero_of_error hw failed, kept⟩⟩

/-- A run that generates a project leaves the text of the types in it, or it fails. -/
lemma run_generating
    (hw : Request.ofWords words = .ok (.work choice (.generate input directory install))) :
    (¬(choice.console h).Draws (projectMessages h input directory) →
      (run h words).exitCode = Failure.generalCode ∧ (run h words).tree = h.tree) ∧
    ((choice.console h).Draws (projectMessages h input directory) →
      ∀ types, typesOf h input = .ok types →
      (∀ e, ¬EndsWith h words choice (.generate input directory install) (.file e)) →
      (run h words).tree.find h.directory.names
          (((Path.ofText directory).child "src").child "types.ts") =
        .ok (some (.ok (Text.encode types.2)))) ∧
    (∀ f, typesOf h input = .error f → (run h words).exitCode ≠ 0) := by
  have tree := tree_run (h := h) hw
  refine ⟨fun undrawn => ?_, fun drawn types ht writable => ?_, fun f hf => ?_⟩
  · have ends := endsGenerating h (choice.console h) input directory install ⟨[], h.tree, []⟩
    generalize hdone : (runGenerate h (choice.console h) input directory install).after
      ⟨[], h.tree, []⟩ = done at ends
    cases ends with
    | unsaid _ _ =>
      exact ⟨exitCode_of_marks hw (congrArg Prod.fst hdone),
        tree.trans (congrArg (fun done => done.2.tree) hdone)⟩
    | unprepared _ drawn _ => exact absurd drawn undrawn
    | unwritten _ drawn _ _ => exact absurd drawn undrawn
    | written _ drawn _ _ _ => exact absurd drawn undrawn
  · rw [tree]
    exact find_types_runGenerate drawn install ht fun e he => writable e ⟨hw, he⟩
  · obtain ⟨e, he⟩ :=
      runGenerate_fails h (choice.console h) directory install ⟨[], h.tree, []⟩ hf
    exact exitCode_ne_zero_of_error hw he

/-- Three runs are asked for the types of one document: to print them in plain format, to write them
to a file and to generate a project with them. -/
structure AskForTypes (h : Host) (input : TypesInput) (file directory : String) (install : Bool)
    (printing writing generating : List String) (printed written generated : ConsoleChoice) :
    Prop where
  printing : Request.ofWords printing = .ok (.work printed (.types input none))
  plain : (printed.console h).format = .plain
  writing : Request.ofWords writing = .ok (.work written (.types input (some file)))
  generating :
    Request.ofWords generating = .ok (.work generated (.generate input directory install))
  legible : IsLegibleInput h input.source input.settingsPath

/-- The text of a document that describes a type, and an operation that is passed over, whose path
has in it what looks like a mark. -/
def petText : String :=
  "\x7b\"openapi\":\"3.0\",\"info\":\x7b\"title\":\"A\",\"version\":\"1\"\x7d,"
    ++ "\"paths\":\x7b\"/[/x]\":\x7b\"get\":\x7b\x7d\x7d\x7d,"
    ++ "\"components\":\x7b\"schemas\":\x7b\"Pet\":\x7b\x7d\x7d\x7d\x7d"

/-- A host whose input is that document. -/
def petHost : Host where
  directory := ⟨"/", ["home"]⟩
  tree := { files := [], directories := [["home"]] }
  environment := []
  input := .text petText
  fetch := fun _ => .failed ""
  commands := []
  atTerminal := false

end

end CommandLine

end ApiBridge
