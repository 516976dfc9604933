import ApiBridge.CommandLine.Run
import ApiBridge.Proofs.Console.Streams
import ApiBridge.Proofs.Document.Loading
import ApiBridge.Proofs.Outcome
import ApiBridge.Proofs.Project.Written

/-!
# What runs do

A run is made of parts: some say messages and come to a result, others print data, one writes files
and one runs commands. A message that cannot be drawn stops a run where it is said. So the messages
that a run says on its way to a result are collected beside the result, and all ways in which a run
can end that generates a project are told once: what is said of such runs follows by cases.
-/

namespace ApiBridge

/-! ### Failures -/

namespace Failure

/-- The failure comes from printing: of data, or of something that is to be drawn. -/
def IsOfPrinting : Failure → Prop
  | .data _ | .marks _ => True
  | _ => False

variable {f : Failure} {c : ColorConsole}

lemma exitCode_ne_zero (f : Failure) : f.exitCode ≠ 0 := by
  unfold exitCode
  repeat' split
  all_goals decide

/-- A failure whose report can be drawn ends a run with its own code. -/
lemma told_of_draws (h : c.Draws [(.error, f.report)]) : (f.told c).2 = f.exitCode := by
  have said := ColorConsole.stopped_say_iff.2 h
  unfold told
  split
  case h_1 => rfl
  case h_2 hs =>
    rw [hs] at said
    cases said

/-- A failure whose report cannot be drawn ends a run like any other. -/
lemma told_of_not_draws (h : ¬c.Draws [(.error, f.report)]) : (f.told c).2 = generalCode := by
  have unsaid := mt ColorConsole.stopped_say_iff.1 h
  unfold told
  split
  case h_1 hs =>
    rw [hs] at unsaid
    exact absurd rfl unsaid
  case h_2 => rfl

lemma told_of_general (h : f.exitCode = generalCode) : (f.told c).2 = generalCode := by
  by_cases drawn : c.Draws [(.error, f.report)]
  · rw [told_of_draws drawn, h]
  · exact told_of_not_draws drawn

lemma told_ne_zero (f : Failure) (c : ColorConsole) : (f.told c).2 ≠ 0 := by
  by_cases drawn : c.Draws [(.error, f.report)]
  · rw [told_of_draws drawn]
    exact f.exitCode_ne_zero
  · rw [told_of_not_draws drawn]
    decide

end Failure

namespace CommandLine

/-- What has been done when more has been printed. -/
def Effects.withPrinted (s : Effects) (ps : List Printed) : Effects :=
  { s with printed := s.printed ++ ps }

namespace Effects

variable (s : Effects) (ps qs : List Printed)

@[simp] lemma printed_withPrinted : (s.withPrinted ps).printed = s.printed ++ ps := rfl

@[simp] lemma tree_withPrinted : (s.withPrinted ps).tree = s.tree := rfl

@[simp] lemma commands_withPrinted : (s.withPrinted ps).commands = s.commands := rfl

@[simp] lemma withPrinted_nil : s.withPrinted [] = s := by
  simp only [withPrinted, List.append_nil]

@[simp] lemma withPrinted_withPrinted :
    (s.withPrinted ps).withPrinted qs = s.withPrinted (ps ++ qs) := by
  simp only [withPrinted, List.append_assoc]

end Effects

namespace Run

variable {α β ε : Type} {x : Run α} {f : α → Run β} {c : ColorConsole} {ms ns : List Message}

/-! ### Parts of runs -/

/-- What a part of a run comes to after `s` has been done, and what has been done then. -/
def after (x : Run α) (s : Effects) : Except Failure α × Effects :=
  x.run.run s

/-- What a part of a run comes to that may be stopped. -/
def unlessStopped (kind : ε → Failure) : Option ε → Except Failure Unit
  | some e => .error (kind e)
  | none => .ok ()

lemma ext_after {x y : Run α} (h : ∀ s, x.after s = y.after s) : x = y :=
  funext h

@[simp] lemma after_pure (a : α) (s : Effects) : (pure a : Run α).after s = (.ok a, s) := rfl

@[simp] lemma after_throw (e : Failure) (s : Effects) :
    (throw e : Run α).after s = (.error e, s) := rfl

@[simp] lemma after_get (s : Effects) : (get : Run Effects).after s = (.ok s, s) := rfl

@[simp] lemma after_modify (g : Effects → Effects) (s : Effects) :
    (modify g : Run Unit).after s = (.ok (), g s) := rfl

lemma after_bind (x : Run α) (f : α → Run β) (s : Effects) :
    (x >>= f).after s =
      match x.after s with
      | (.ok a, s) => (f a).after s
      | (.error e, s) => (.error e, s) := by
  unfold after
  rw [ExceptT.run_bind, StateT.run_bind]
  generalize StateT.run x.run s = w
  obtain ⟨r, s⟩ := w
  cases r with
  | ok a => rfl
  | error e => rfl

@[simp] lemma after_print (ps : List Printed) (s : Effects) :
    (print ps).after s = (.ok (), s.withPrinted ps) := rfl

@[simp] lemma after_require (kind : ε → Failure) (r : Except ε α) (s : Effects) :
    (require kind r).after s = (r.mapError kind, s) := by
  cases r with
  | ok a => rfl
  | error e => rfl

@[simp] lemma after_write (kind : ε → Failure) (g : FileTree → FileTree × Option ε) (s : Effects) :
    (write kind g).after s =
      (unlessStopped kind (g s.tree).2, { s with tree := (g s.tree).1 }) := by
  simp only [write, after_bind, after_get, after_modify]
  cases (g s.tree).2 with
  | some e => rfl
  | none => rfl

@[simp] lemma after_printData (d : Console.DataResult) (s : Effects) :
    (printData d).after s = (unlessStopped .data d.2, s.withPrinted d.1) := by
  simp only [printData, after_bind, after_print]
  cases d.2 with
  | some e => rfl
  | none => rfl

@[simp] lemma after_tell (c : ColorConsole) (ms : List Message) (s : Effects) :
    (tell c ms).after s =
      (unlessStopped .marks (c.sayAll ms).2, s.withPrinted (c.sayAll ms).1) := by
  simp only [tell, after_bind, after_print]
  cases (c.sayAll ms).2 with
  | some reason => rfl
  | none => rfl

/-! ### Printing and running commands -/

/-- How a part of a run ends that runs commands and then comes to `r`. -/
inductive Ends (s : Effects) (commands : List Command) (r : Except Failure Unit) :
    Except Failure Unit × Effects → Prop
  | whole (ps : List Printed) : Ends s commands r (r, ⟨ps, s.tree, s.commands ++ commands⟩)
  /-- Something that is to be printed stops it, after the first of the commands. -/
  | stopped {f : Failure} {first : List Command} (ps : List Printed) (hf : f.IsOfPrinting)
    (hc : first <+: commands) :
    Ends s commands r (.error f, ⟨ps, s.tree, s.commands ++ first⟩)

/-- A part of a run only prints and runs commands, and comes to `r` if it can print all. -/
def Executes (x : Run Unit) (commands : List Command) (r : Except Failure Unit) : Prop :=
  ∀ s, Ends s commands r (x.after s)

/-- A part of a run does nothing but print. -/
def OnlyPrints (x : Run Unit) : Prop :=
  Executes x [] (.ok ())

variable {x y : Run Unit} {first second : List Command} {r : Except Failure Unit}

lemma executes_require (kind : ε → Failure) (r : Except ε Unit) :
    Executes (require kind r) [] (r.mapError kind) := by
  intro s
  have ends : Ends s [] (r.mapError kind) (r.mapError kind, _) := .whole s.printed
  rwa [List.append_nil, ← after_require] at ends

lemma executes_command (command : Command) :
    Executes (modify fun e => { e with commands := e.commands ++ [command] }) [command] (.ok ()) :=
  fun s => .whole s.printed

/-- The commands of two parts of a run follow each other. -/
lemma Executes.bind (hx : Executes x first (.ok ())) (hy : Executes y second r) :
    Executes (do x; y) (first ++ second) r := by
  intro s
  rw [after_bind]
  have ends := hx s
  generalize x.after s = done at ends ⊢
  cases ends with
  | stopped ps hf hc => exact .stopped ps hf (hc.trans (List.prefix_append _ _))
  | whole ps =>
    have next := hy ⟨ps, s.tree, s.commands ++ first⟩
    simp only
    generalize y.after ⟨ps, s.tree, s.commands ++ first⟩ = last at next ⊢
    cases next with
    | stopped qs hf hc =>
      rw [List.append_assoc]
      exact .stopped qs hf ((List.prefix_append_right_inj first).2 hc)
    | whole qs =>
      rw [List.append_assoc]
      exact .whole qs

/-- What only prints may stop a run, and changes nothing else about it. -/
lemma OnlyPrints.bind (hx : OnlyPrints x) (hy : Executes y second r) :
    Executes (do x; y) second r :=
  Executes.bind hx hy

/-- What only prints afterwards does not change what a run has come to, unless it stops it. -/
lemma Executes.before (hx : Executes x first r) (hy : OnlyPrints y) :
    Executes (do x; y) first r := by
  cases r with
  | ok _ =>
    have both := Executes.bind hx hy
    rwa [List.append_nil] at both
  | error e =>
    intro s
    rw [after_bind]
    have ends := hx s
    generalize x.after s = done at ends ⊢
    cases ends with
    | stopped ps hf hc => exact .stopped ps hf hc
    | whole ps => exact .whole ps

/-- What may be stopped by something that it prints only prints. -/
lemma onlyPrints_of_after {kind : ε → Failure} {stopped : Option ε} {ps : List Printed}
    (h : ∀ s, x.after s = (unlessStopped kind stopped, s.withPrinted ps))
    (hk : ∀ e, (kind e).IsOfPrinting) : OnlyPrints x := by
  intro s
  have commands : s.commands = s.commands ++ [] := (List.append_nil _).symm
  rw [h, Effects.withPrinted, commands]
  cases stopped with
  | none => exact .whole _
  | some e => exact .stopped _ (hk e) List.nil_prefix

lemma onlyPrints_printData (d : Console.DataResult) : OnlyPrints (printData d) :=
  onlyPrints_of_after (after_printData d) fun _ => trivial

lemma onlyPrints_tell (c : ColorConsole) (ms : List Message) : OnlyPrints (tell c ms) :=
  onlyPrints_of_after (after_tell c ms) fun _ => trivial

/-- Nothing stops the printing of what has no marks. -/
lemma onlyPrints_print (ps : List Printed) : OnlyPrints (print ps) :=
  onlyPrints_printData (ps, none)

lemma onlyPrints_pure : OnlyPrints (pure ()) := by
  have silent : (print [] : Run Unit) = pure () := ext_after fun s => by simp
  exact silent ▸ onlyPrints_print []

lemma onlyPrints_printDrawn (drawn : Except String String) : OnlyPrints (printDrawn drawn) := by
  cases drawn with
  | ok text => exact onlyPrints_print _
  | error reason =>
    intro s
    have stops : (printDrawn (.error reason)).after s =
        (.error (.marks reason), ⟨s.printed, s.tree, s.commands ++ []⟩) := by
      rw [printDrawn, after_bind, after_require, List.append_nil]
      rfl
    rw [stops]
    exact .stopped _ trivial List.nil_prefix

lemma onlyPrints_showTable (c : ColorConsole) (title : String) (t : Table) :
    OnlyPrints (showTable c title t) := by
  unfold showTable
  split
  · exact onlyPrints_printDrawn _
  · exact onlyPrints_printData _

lemma onlyPrints_showRecord (c : ColorConsole) (v : Value) : OnlyPrints (showRecord c v) := by
  unfold showRecord
  split
  · exact onlyPrints_print _
  · exact onlyPrints_printData _
  · exact onlyPrints_printData _

lemma onlyPrints_showSource (c : ColorConsole) (text : String) : OnlyPrints (showSource c text) := by
  unfold showSource
  split
  · exact onlyPrints_print _
  · exact onlyPrints_print _

/-- The commands among the events of a build are run in order. -/
lemma executes_follow (c : ColorConsole) (events : List BuildEvent) :
    Executes (follow c events) (events.filterMap BuildEvent.command?) (.ok ()) := by
  induction events with
  | nil => exact onlyPrints_pure
  | cons event events ih =>
    cases event with
    | noted n => exact OnlyPrints.bind (onlyPrints_tell c _) ih
    | ran command => exact Executes.bind (executes_command command) ih

/-! ### Messages on the way to a result -/

/-- Say messages, and come to a result. -/
def spoken (c : ColorConsole) (ms : List Message) (r : Except Failure α) : Run α := do
  tell c ms
  require id r

/-- The messages that follow a result, if there is one. -/
def messagesAfter (r : Except Failure α) (ns : α → List Message) : List Message :=
  match r with
  | .ok a => ns a
  | .error _ => []

/-- If all messages are drawn, a part of a run that says them comes to its result. -/
lemma after_spoken_of_draws (h : c.Draws ms) (r : Except Failure α) (s : Effects) :
    (spoken c ms r).after s = (r, s.withPrinted (c.sayAll ms).1) := by
  rw [spoken, after_bind, after_tell, ColorConsole.stopped_sayAll_iff.2 h]
  simp only [unlessStopped, after_require]
  cases r with
  | ok a => rfl
  | error e => rfl

/-- And else it is stopped by one of them. -/
lemma after_spoken_of_not_draws (h : ¬c.Draws ms) (r : Except Failure α) (s : Effects) :
    ∃ reason, (spoken c ms r).after s =
      (.error (.marks reason), s.withPrinted (c.sayAll ms).1) := by
  obtain ⟨reason, hr⟩ := Option.ne_none_iff_exists'.1 (mt ColorConsole.stopped_sayAll_iff.1 h)
  refine ⟨reason, ?_⟩
  rw [spoken, after_bind, after_tell, hr]
  rfl

lemma tell_append (c : ColorConsole) (ms ns : List Message) :
    tell c (ms ++ ns) = (do tell c ms; tell c ns) := by
  refine ext_after fun s => ?_
  rw [after_bind, after_tell, after_tell, ColorConsole.sayAll_append]
  rcases c.sayAll ms with ⟨ps, stopped | stopped⟩
  · simp only [unlessStopped, after_tell, Effects.withPrinted_withPrinted]
  · rfl

lemma tell_bind_spoken (c : ColorConsole) (ms ns : List Message) (r : Except Failure α) :
    (do tell c ms; spoken c ns r) = spoken c (ms ++ ns) r := by
  rw [spoken, spoken, tell_append, bind_assoc]

/-- The messages of two parts of a run follow each other. -/
lemma spoken_bind (c : ColorConsole) (ms : List Message) (r : Except Failure α)
    (ns : α → List Message) (g : α → Except Failure β) :
    (do let a ← spoken c ms r; spoken c (ns a) (g a)) =
      spoken c (ms ++ messagesAfter r ns) (do let a ← r; g a) := by
  cases r with
  | ok a => exact (bind_assoc _ _ _).trans (tell_bind_spoken c ms (ns a) (g a))
  | error e =>
    rw [messagesAfter, List.append_nil]
    exact bind_assoc _ _ _

lemma require_bind (r : Except Failure α) (g : α → Except Failure β) :
    (do let a ← require id r; require id (g a)) = require id (r >>= g) := by
  cases r with
  | ok a => rfl
  | error e => rfl

lemma spoken_bind_require (c : ColorConsole) (ms : List Message) (r : Except Failure α)
    (g : α → Except Failure β) :
    (do let a ← spoken c ms r; require id (g a)) = spoken c ms (r >>= g) := by
  simp only [spoken, bind_assoc, require_bind]

lemma require_eq (kind : ε → Failure) (r : Except ε α) :
    require kind r = require id (r.mapError kind) := by
  cases r with
  | ok a => rfl
  | error e => rfl

lemma attempt_eq (c : ColorConsole) (kind : ε → Failure) (a : Attempt ε α) :
    attempt c kind a = spoken c (Notice.messages a.run.notices) (a.outcome.mapError kind) := by
  rw [attempt, spoken, ← require_eq]
  rfl

end Run

open Run

/-! ### Reading the input -/

/-- The settings that a run uses. -/
def settingsOf (h : Host) (input : TypesInput) : Except Failure Settings := do
  let settings ← (Settings.resolve h input.settingsPath).outcome.mapError Failure.settings
  return settings.withTypeOptions input.referenceMode input.dedupeNames

/-- The description that a run reads. -/
def apiOf (h : Host) (source : String) : Except Failure (Api Document) :=
  (Api.load h source).outcome

/-- The messages of finding the settings. -/
def settingsMessages (h : Host) (input : TypesInput) : List Message :=
  Notice.messages (Settings.resolve h input.settingsPath).run.notices

/-- The messages of reading a document. -/
def sourceMessages (h : Host) (source : String) : List Message :=
  Notice.messages (Api.load h source).run.notices

lemma settingsFor_eq (h : Host) (c : ColorConsole) (input : TypesInput) :
    settingsFor h c input = spoken c (settingsMessages h input) (settingsOf h input) := by
  rw [settingsFor, attempt_eq, settingsMessages, settingsOf, ← spoken_bind_require]
  rfl

lemma descriptionIn_eq (h : Host) (c : ColorConsole) (source : String) :
    descriptionIn h c source = spoken c (sourceMessages h source) (apiOf h source) := by
  have same : (Api.load h source).outcome.mapError id = apiOf h source := by
    unfold apiOf
    cases (Api.load h source).outcome with
    | ok api => rfl
    | error e => rfl
  rw [descriptionIn, attempt_eq, same]
  rfl

/-- A file that is read as JSON names no half of a surrogate pair. -/
def IsLegibleFile (h : Host) (path : Path) : Prop :=
  ∀ bytes text, h.findFile path = .ok (some (.ok bytes)) → fileText bytes = .ok text →
    Document.jsonNamesHalf text.toList = false

lemma isLegibleFile_of_missing {h : Host} {path : Path} (hf : h.findFile path = .ok none) :
    IsLegibleFile h path := by
  intro bytes text hf'
  cases hf.symm.trans hf'

/-- A file without backslashes is legible. -/
lemma isLegibleFile_of_not_mem {h : Host} {path : Path} {text : String}
    (hf : h.findFile path = .ok (some (.ok (Text.encode text)))) (hr : '\r' ∉ text.toList)
    (hb : '\\' ∉ text.toList) : IsLegibleFile h path := by
  intro bytes text' hf' ht
  cases hf.symm.trans hf'
  cases (fileText_encode hr).symm.trans ht
  exact Document.jsonNamesHalf_of_not_mem hb

/-- All texts that are read for types are read as they are meant. -/
structure IsLegibleInput (h : Host) (source : String) (settingsPath : Option String) : Prop where
  document : Document.IsLegibleFrom h source
  settings : ∀ path, Settings.path? h settingsPath = .ok (some path) → IsLegibleFile h path
  manifest : IsLegibleFile h (h.inDirectory Settings.manifestName)

/-! ### Runs that show a description or make types -/

lemma runInspect_eq (h : Host) (c : ColorConsole) (view : View) (source : String) :
    runInspect h c view source = (do
      let api ← spoken c (sourceMessages h source) (apiOf h source)
      match view with
      | .operations => Run.showTable c api.operationTitle api.operationTable
      | .schemas =>
        if api.schemas.isEmpty then Run.tell c [noSchemas]
        else
          let table ← Run.require .text api.schemaTable
          Run.showTable c api.schemaTitle table
      | .info => Run.showRecord c api.record) := by
  rw [← descriptionIn_eq]
  cases view with
  | operations => rfl
  | schemas => rfl
  | info => rfl

/-- The declarations of a document, and the text of their file. -/
def typesOf (h : Host) (input : TypesInput) : Except Failure (List Declaration × String) := do
  let settings ← settingsOf h input
  let api ← apiOf h input.source
  let declarations ← (api.declarations settings.types).outcome.mapError .text
  let text ← (Declaration.writtenFile Declaration.fileHeader declarations).mapError .text
  return (declarations, text)

/-- The messages before types are printed or written. -/
def typesMessages (h : Host) (input : TypesInput) : List Message :=
  settingsMessages h input ++ messagesAfter (settingsOf h input) fun settings =>
    sourceMessages h input.source ++ messagesAfter (apiOf h input.source) fun api =>
      Notice.messages (api.declarations settings.types).run.notices

/-- What is said of types that have been written to a file. -/
def typesWritten (types : List Declaration × String) (file : String) : Message :=
  (.success, s!"Wrote {types.1.length} declarations to {file}")

/-- What a run does with types: it writes them to a file or prints them. -/
def deliver (h : Host) (c : ColorConsole) (types : List Declaration × String) :
    Option String → Run Unit
  | some file => do
    Run.write .file fun tree => tree.write h.directory.names (Path.ofText file) types.2 false
    Run.tell c [typesWritten types file]
  | none =>
    if c.format = .json then
      Run.printData (Console.printJson (.list (types.1.map Declaration.record)))
    else Run.showSource c types.2

lemma runTypes_eq (h : Host) (c : ColorConsole) (input : TypesInput) (file : Option String) :
    runTypes h c input file = (do
      let types ← spoken c (typesMessages h input) (typesOf h input)
      deliver h c types file) := by
  have compiled : spoken c (typesMessages h input) (typesOf h input) = (do
      let settings ← settingsFor h c input
      let api ← descriptionIn h c input.source
      let declarations ← Run.attempt c .text (api.declarations settings.types)
      let text ← Run.require .text (Declaration.writtenFile Declaration.fileHeader declarations)
      return (declarations, text)) := by
    rw [typesMessages, typesOf, settingsFor_eq, ← spoken_bind]
    refine congrArg _ (funext fun settings => ?_)
    rw [descriptionIn_eq, ← spoken_bind]
    refine congrArg _ (funext fun api => ?_)
    rw [attempt_eq, ← spoken_bind_require]
    refine congrArg _ (funext fun declarations => ?_)
    rw [← require_bind, ← require_eq]
    rfl
  rw [compiled]
  simp only [runTypes, bind_assoc, pure_bind]
  cases file with
  | some file => rfl
  | none => rfl

/-! ### Runs that generate -/

/-- The project that a run generates. -/
def projectOf (h : Host) (input : TypesInput) (directory : String) : Except Failure Project := do
  let settings ← settingsOf h input
  let api ← apiOf h input.source
  (Project.ofApi (Path.ofText directory) api settings).outcome.mapError .text

/-- The messages before a project is written. -/
def projectMessages (h : Host) (input : TypesInput) (directory : String) : List Message :=
  settingsMessages h input ++ messagesAfter (settingsOf h input) fun settings =>
    (.info, s!"Generating MCP server from {input.source}...") ::
      (sourceMessages h input.source ++ messagesAfter (apiOf h input.source) fun api =>
        api.idWarnings.map (.warning, ·) ++
          Notice.messages (Project.ofApi (Path.ofText directory) api settings).run.notices)

/-- The data that is printed of a project. -/
def showProject (c : ColorConsole) (project : Project) : Run Unit :=
  if c.format = .json then Run.printData (Console.printJson project.record)
  else Run.showTable c project.toolTitle project.toolTable

/-- What is printed of a project once it is written. -/
def present (h : Host) (c : ColorConsole) (directory : String) (project : Project) : Run Unit := do
  Run.tell c (Notice.messages [project.writtenNotice])
  Run.tell c (project.typeWarnings.map (.warning, ·))
  showProject c project
  Run.say c .success
    s!"MCP server generated successfully at {(h.absolute (Path.ofText directory)).text}"

/-- The commands that build a project, or the advice to run them. -/
def buildOrAdvise (h : Host) (c : ColorConsole) (directory : String) (install : Bool) :
    Run Unit := do
  if install then
    Run.say c .info "Installing dependencies and building the generated server..."
    let (events, outcome) := build (Path.ofText directory) defaultSeconds h.commands
    Run.follow c events
    Run.require .build outcome
    Run.say c .success "Build completed successfully"
  else
    Run.say c .suggestion s!"cd {directory} && npm install && npm run build"

lemma runGenerate_eq (h : Host) (c : ColorConsole) (input : TypesInput) (directory : String)
    (install : Bool) : runGenerate h c input directory install = (do
      let project ← spoken c (projectMessages h input directory) (projectOf h input directory)
      Run.write Failure.ofWriteError fun tree => project.write { h with tree := tree }
      present h c directory project
      buildOrAdvise h c directory install) := by
  have prepared : spoken c (projectMessages h input directory) (projectOf h input directory) = (do
      let settings ← settingsFor h c input
      Run.say c .info s!"Generating MCP server from {input.source}..."
      let api ← descriptionIn h c input.source
      Run.tell c (api.idWarnings.map (.warning, ·))
      Run.attempt c .text (Project.ofApi (Path.ofText directory) api settings)) := by
    rw [projectMessages, projectOf, settingsFor_eq, ← spoken_bind]
    refine congrArg _ (funext fun settings => ?_)
    rw [← List.singleton_append, ← tell_bind_spoken, descriptionIn_eq, ← spoken_bind]
    refine congrArg _ (funext fun _ => congrArg _ (funext fun api => ?_))
    rw [← tell_bind_spoken, attempt_eq]
  rw [prepared]
  by_cases json : c.format = .json
  · simp only [runGenerate, present, showProject, buildOrAdvise, bind_assoc, json, if_true]
  · simp only [runGenerate, present, showProject, buildOrAdvise, bind_assoc, json, if_false]

lemma onlyPrints_present (h : Host) (c : ColorConsole) (directory : String) (project : Project) :
    OnlyPrints (present h c directory project) := by
  have shown : OnlyPrints (showProject c project) := by
    unfold showProject
    split
    · exact onlyPrints_printData _
    · exact onlyPrints_showTable c _ _
  exact (onlyPrints_tell c _).bind ((onlyPrints_tell c _).bind (shown.bind (onlyPrints_tell c _)))

/-- The commands of the build, if there is to be one. -/
def buildCommands (h : Host) (directory : String) (install : Bool) : List Command :=
  if install then
    (build (Path.ofText directory) defaultSeconds h.commands).1.filterMap BuildEvent.command?
  else []

/-- What the build comes to, if there is to be one. -/
def buildOutcome (h : Host) (directory : String) (install : Bool) : Except Failure Unit :=
  if install then (build (Path.ofText directory) defaultSeconds h.commands).2.mapError .build
  else .ok ()

lemma executes_buildOrAdvise (h : Host) (c : ColorConsole) (directory : String) (install : Bool) :
    Executes (buildOrAdvise h c directory install) (buildCommands h directory install)
      (buildOutcome h directory install) := by
  cases install with
  | false =>
    simp only [buildOrAdvise, buildCommands, buildOutcome, Bool.false_eq_true, if_false]
    exact onlyPrints_tell c _
  | true =>
    simp only [buildOrAdvise, buildCommands, buildOutcome, if_true]
    generalize build (Path.ofText directory) defaultSeconds h.commands = built
    obtain ⟨events, outcome⟩ := built
    rw [← List.append_nil (events.filterMap BuildEvent.command?)]
    exact (onlyPrints_tell c _).bind <| (executes_follow c events).bind <|
      (executes_require .build outcome).before (onlyPrints_tell c _)

/-- How a run ends that generates a project, and what it has done then. -/
inductive EndsGenerating (h : Host) (c : ColorConsole) (input : TypesInput) (directory : String)
    (install : Bool) (s : Effects) : Except Failure Unit × Effects → Prop
  /-- A message stops the run before anything is written. -/
  | unsaid {reason : String} (ps : List Printed)
    (hm : ¬c.Draws (projectMessages h input directory)) :
    EndsGenerating h c input directory install s (.error (.marks reason), s.withPrinted ps)
  /-- The project cannot be prepared, and nothing is done but printing. -/
  | unprepared {f : Failure} (ps : List Printed)
    (hm : c.Draws (projectMessages h input directory))
    (hp : projectOf h input directory = .error f) :
    EndsGenerating h c input directory install s (.error f, s.withPrinted ps)
  /-- A file of the project cannot be written. -/
  | unwritten {project : Project} {tree : FileTree} {e : WriteError} (ps : List Printed)
    (hm : c.Draws (projectMessages h input directory))
    (hp : projectOf h input directory = .ok project)
    (hw : project.write { h with tree := s.tree } = (tree, some e)) :
    EndsGenerating h c input directory install s
      (.error (.ofWriteError e), ⟨ps, tree, s.commands⟩)
  /-- The project is written, and the commands of the build follow. -/
  | written {project : Project} {tree : FileTree} {done : Except Failure Unit × Effects}
    (ps : List Printed) (hm : c.Draws (projectMessages h input directory))
    (hp : projectOf h input directory = .ok project)
    (hw : project.write { h with tree := s.tree } = (tree, none))
    (he : Run.Ends ⟨ps, tree, s.commands⟩ (buildCommands h directory install)
      (buildOutcome h directory install) done) :
    EndsGenerating h c input directory install s done

lemma endsGenerating (h : Host) (c : ColorConsole) (input : TypesInput) (directory : String)
    (install : Bool) (s : Effects) : EndsGenerating h c input directory install s
      ((runGenerate h c input directory install).after s) := by
  rw [runGenerate_eq, after_bind]
  by_cases hm : c.Draws (projectMessages h input directory)
  · rw [after_spoken_of_draws hm]
    cases hp : projectOf h input directory with
    | error f => exact .unprepared _ hm hp
    | ok project =>
      simp only [after_bind (Run.write _ _), after_write, Effects.tree_withPrinted]
      cases hw : project.write { h with tree := s.tree } with
      | mk tree stopped =>
        cases stopped with
        | some e => exact .unwritten _ hm hp hw
        | none =>
          have rest := (onlyPrints_present h c directory project).bind
            (executes_buildOrAdvise h c directory install)
          exact .written _ hm hp hw (rest _)
  · obtain ⟨reason, stops⟩ := after_spoken_of_not_draws hm (projectOf h input directory) s
    rw [stops]
    exact .unsaid _ hm

/-! ### Whole runs -/

variable {h : Host} {words : List String} {choice : ConsoleChoice} {task : Task} {f : Failure}

/-- What a task comes to on a host, and what has been done then. -/
def Task.outcome (h : Host) (choice : ConsoleChoice) (task : Task) : Except Failure Unit × Effects :=
  (task.perform h (choice.console h)).after ⟨[], h.tree, []⟩

/-- A run does a task and fails. -/
def EndsWith (h : Host) (words : List String) (choice : ConsoleChoice) (task : Task)
    (f : Failure) : Prop :=
  Request.ofWords words = .ok (.work choice task) ∧ (task.outcome h choice).1 = .error f

/-- What a run does is what its task does, and after a failure its report. -/
lemma run_eq (hw : Request.ofWords words = .ok (.work choice task)) :
    run h words = match task.outcome h choice with
      | (.ok _, done) => ⟨done, 0⟩
      | (.error f, done) =>
        ⟨done.withPrinted (f.told (choice.console h)).1, (f.told (choice.console h)).2⟩ := by
  rw [run, hw, Task.outcome, after]
  simp only [Request.perform]
  rcases (task.perform h (choice.console h)).run.run ⟨[], h.tree, []⟩ with ⟨_ | _, done⟩
  · rfl
  · rfl

lemma tree_run (hw : Request.ofWords words = .ok (.work choice task)) :
    (run h words).tree = (task.outcome h choice).2.tree := by
  rw [run_eq hw]
  rcases task.outcome h choice with ⟨_ | _, done⟩
  · rfl
  · rfl

lemma commands_run (hw : Request.ofWords words = .ok (.work choice task)) :
    (run h words).commands = (task.outcome h choice).2.commands := by
  rw [run_eq hw]
  rcases task.outcome h choice with ⟨_ | _, done⟩
  · rfl
  · rfl

lemma exitCode_run (hw : Request.ofWords words = .ok (.work choice task)) :
    (run h words).exitCode = match (task.outcome h choice).1 with
      | .ok _ => 0
      | .error f => (f.told (choice.console h)).2 := by
  rw [run_eq hw]
  rcases task.outcome h choice with ⟨_ | _, done⟩
  · rfl
  · rfl

/-- A run ends well exactly if its task comes to its end. -/
lemma exitCode_run_eq_zero_iff (hw : Request.ofWords words = .ok (.work choice task)) :
    (run h words).exitCode = 0 ↔ (task.outcome h choice).1 = .ok () := by
  rw [exitCode_run hw]
  cases (task.outcome h choice).1 with
  | ok _ => exact iff_of_true rfl rfl
  | error f => exact iff_of_false (f.told_ne_zero _) fun h => by cases h

end CommandLine

end ApiBridge
