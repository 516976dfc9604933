import ApiBridge.Proofs.CommandLine.Runs

/-!
# Runs that fail

A run that fails because of its input has written nothing and run no command, and it ends with the
code of its failure if the report of that can be drawn. A run that fails while it builds a project
has written all files of the project, and has run the commands of the build up to the one that
failed.
-/

namespace ApiBridge

/-! ### Failures of the input -/

/-- The failure comes from the settings, from the document, or from what is in it. -/
def Failure.IsOfInput : Failure → Prop
  | .settings _ | .load _ | .reference _ | .description _ => True
  | _ => False

/-- A failure that is reported as one of the input, and the exit code of its class. -/
inductive Failure.ExitsWith : Failure → Nat → Prop
  | settings {e : SettingsError} (hr : e.isReported = true) : ExitsWith (.settings e) 1
  | load {e : LoadError} (hr : e.isReported = true) : ExitsWith (.load e) 7
  | reference {e : ReferenceError} (hr : e.isReported = true) : ExitsWith (.reference e) 7
  | malformed {e : DescriptionError} (hr : e.isReported = true) (hm : e.isMalformed = true) :
    ExitsWith (.description e) 7
  | unsupported {e : DescriptionError} (hr : e.isReported = true) (hm : e.isMalformed = false) :
    ExitsWith (.description e) 8

namespace Failure.ExitsWith

variable {f : Failure} {code : Nat}

lemma isOfInput (h : f.ExitsWith code) : f.IsOfInput := by
  cases h with
  | settings _ => trivial
  | load _ => trivial
  | reference _ => trivial
  | malformed _ _ => trivial
  | unsupported _ _ => trivial

lemma exitCode (h : f.ExitsWith code) : f.exitCode = code := by
  cases h with
  | settings hr => simp [Failure.exitCode, isReported, hr, generalCode]
  | load hr => simp [Failure.exitCode, isReported, hr, documentCode]
  | reference hr => simp [Failure.exitCode, isReported, hr, documentCode]
  | malformed hr hm => simp [Failure.exitCode, isReported, hr, hm, documentCode]
  | unsupported hr hm => simp [Failure.exitCode, isReported, hr, hm, dialectCode]

end Failure.ExitsWith

namespace CommandLine

namespace Run

variable {α β ε : Type} {x : Run α} {f : α → Run β}

/-- A part of a run does not fail because of the input. -/
def NeverOfInput (x : Run α) : Prop :=
  ∀ s f, (x.after s).1 = .error f → ¬f.IsOfInput

/-- When a part of a run fails because of the input, it has done nothing but print. -/
def LeavesNoTrace (x : Run α) : Prop :=
  ∀ s f, (x.after s).1 = .error f → f.IsOfInput →
    (x.after s).2.tree = s.tree ∧ (x.after s).2.commands = s.commands

lemma OnlyPrints.neverOfInput {x : Run Unit} (hx : OnlyPrints x) : NeverOfInput x := by
  intro s f hf
  have ends := hx s
  generalize x.after s = done at hf ends
  cases ends with
  | whole ps => cases hf
  | stopped ps printing _ =>
    cases hf
    cases f with
    | data _ => exact id
    | marks _ => exact id
    | _ => exact printing.elim

lemma neverOfInput_require {kind : ε → Failure} (hk : ∀ e, ¬(kind e).IsOfInput)
    (a : Except ε α) : NeverOfInput (require kind a) := by
  intro s f hf
  rw [after_require, mapError_eq_error_iff] at hf
  obtain ⟨e, -, rfl⟩ := hf
  exact hk e

lemma neverOfInput_write {kind : ε → Failure} (hk : ∀ e, ¬(kind e).IsOfInput)
    (g : FileTree → FileTree × Option ε) : NeverOfInput (write kind g) := by
  intro s f hf
  rw [after_write] at hf
  simp only at hf
  cases hs : (g s.tree).2 with
  | none =>
    rw [hs] at hf
    cases hf
  | some e =>
    rw [hs] at hf
    cases hf
    exact hk e

lemma NeverOfInput.bind (hx : NeverOfInput x) (hf : ∀ a, NeverOfInput (f a)) :
    NeverOfInput (x >>= f) := by
  intro s e he
  rw [after_bind] at he
  split at he
  case h_1 a s' _ => exact hf a s' e he
  case h_2 e' s' hs =>
    cases he
    exact hx s e (by rw [hs])

/-- Until its messages are said and its input is read, a run has done nothing but print. -/
lemma leavesNoTrace_spoken_bind (c : ColorConsole) (ms : List Message) (r : Except Failure α)
    (hf : ∀ a, NeverOfInput (f a)) : LeavesNoTrace (spoken c ms r >>= f) := by
  intro s e
  rw [after_bind]
  by_cases drawn : c.Draws ms
  · rw [after_spoken_of_draws drawn]
    cases r with
    | ok a => exact fun he hi => absurd hi (hf a _ e he)
    | error e' => exact fun _ _ => ⟨rfl, rfl⟩
  · obtain ⟨reason, stops⟩ := after_spoken_of_not_draws drawn r s
    rw [stops]
    exact fun _ _ => ⟨rfl, rfl⟩

end Run

open Run

/-! ### Tasks -/

variable {h : Host} {c : ColorConsole}

/-- A project that is built, or not, does not fail because of the input. -/
lemma not_isOfInput_of_ends {directory : String} {install : Bool} {s : Effects} {f : Failure}
    {done : Except Failure Unit × Effects}
    (he : Run.Ends s (buildCommands h directory install) (buildOutcome h directory install) done)
    (hf : done.1 = .error f) : ¬f.IsOfInput := by
  cases he with
  | whole ps =>
    unfold buildOutcome at hf
    split at hf
    · obtain ⟨e, -, rfl⟩ := mapError_eq_error_iff.1 hf
      exact id
    · cases hf
  | stopped ps printing _ =>
    cases hf
    cases f with
    | data _ => exact id
    | marks _ => exact id
    | _ => exact printing.elim

lemma leavesNoTrace_runGenerate (h : Host) (c : ColorConsole) (input : TypesInput)
    (directory : String) (install : Bool) :
    LeavesNoTrace (runGenerate h c input directory install) := by
  intro s f hf hi
  have ends := endsGenerating h c input directory install s
  generalize (runGenerate h c input directory install).after s = done at hf ends ⊢
  cases ends with
  | unsaid _ _ => exact ⟨rfl, rfl⟩
  | unprepared _ _ _ => exact ⟨rfl, rfl⟩
  | @unwritten _ _ e _ _ _ _ =>
    cases hf
    cases e with
    | noFile _ => exact absurd hi id
    | noText _ => exact absurd hi id
  | written _ _ _ _ he => exact absurd hi (not_isOfInput_of_ends he hf)

lemma leavesNoTrace_runTypes (h : Host) (c : ColorConsole) (input : TypesInput)
    (file : Option String) : LeavesNoTrace (runTypes h c input file) := by
  rw [runTypes_eq]
  refine leavesNoTrace_spoken_bind c _ _ fun types => ?_
  cases file with
  | some file =>
    exact (neverOfInput_write (fun _ => id) _).bind fun _ => (onlyPrints_tell c _).neverOfInput
  | none =>
    rw [deliver]
    split
    · exact (onlyPrints_printData _).neverOfInput
    · exact (onlyPrints_showSource c _).neverOfInput

lemma leavesNoTrace_runInspect (h : Host) (c : ColorConsole) (view : View) (source : String) :
    LeavesNoTrace (runInspect h c view source) := by
  rw [runInspect_eq]
  refine leavesNoTrace_spoken_bind c _ _ fun api => ?_
  cases view with
  | operations => exact (onlyPrints_showTable c _ _).neverOfInput
  | schemas =>
    simp only
    split
    · exact (onlyPrints_tell c _).neverOfInput
    · exact (neverOfInput_require (fun _ => id) _).bind fun _ =>
        (onlyPrints_showTable c _ _).neverOfInput
  | info => exact (onlyPrints_showRecord c _).neverOfInput

/-- A task that fails because of its input has done nothing but print. -/
lemma leavesNoTrace_perform (h : Host) (c : ColorConsole) (task : Task) :
    LeavesNoTrace (task.perform h c) := by
  cases task with
  | generate input directory install => exact leavesNoTrace_runGenerate h c input directory install
  | types input file => exact leavesNoTrace_runTypes h c input file
  | inspect view source => exact leavesNoTrace_runInspect h c view source

/-! ### Commands of a build -/

/-- The commands are those of the first of the steps, and by their results all but the last of them
have ended well. -/
def AreFirstOf (commands : List Command) (directory : Path) (steps : List BuildStep)
    (results : List CommandResult) : Prop :=
  ∃ k ≤ steps.length, commands = (steps.take k).map (fun step => ⟨step.words, directory⟩) ∧
    ∀ i, i + 1 < k → ∃ output errors, results[i]? = some (.ended 0 output errors)

lemma areFirstOf_one (directory : Path) (step : BuildStep) (steps : List BuildStep)
    (results : List CommandResult) :
    AreFirstOf [⟨step.words, directory⟩] directory (step :: steps) results := by
  refine ⟨1, by simp, by simp, ?_⟩
  intro i hi
  omega

lemma AreFirstOf.cons {commands : List Command} {directory : Path} {steps : List BuildStep}
    {results : List CommandResult} (h : AreFirstOf commands directory steps results)
    (step : BuildStep) (output errors : String) :
    AreFirstOf (⟨step.words, directory⟩ :: commands) directory (step :: steps)
      (.ended 0 output errors :: results) := by
  obtain ⟨k, hk, rfl, ended⟩ := h
  refine ⟨k + 1, by simpa using hk, by simp, ?_⟩
  intro i hi
  cases i with
  | zero => exact ⟨output, errors, rfl⟩
  | succ i => simpa using ended i (by omega)

lemma ended_of_stepOutcome {seconds : Value} {step : BuildStep} {result : CommandResult}
    (h : stepOutcome seconds step result = .ok ()) :
    ∃ output errors, result = .ended 0 output errors := by
  unfold stepOutcome at h
  split at h
  case h_1 => cases h
  case h_2 =>
    split at h
    · cases h
    · cases h
  case h_3 code output errors =>
    split at h
    case isTrue hcode => exact ⟨output, errors, by rw [hcode]⟩
    case isFalse => cases h

/-- However a build ends, each command but the last has ended well. -/
lemma areFirstOf_runSteps (directory : Path) (seconds : Value) (steps : List BuildStep)
    (results : List CommandResult) :
    AreFirstOf ((runSteps directory seconds steps results).1.filterMap BuildEvent.command?)
      directory steps results := by
  induction steps generalizing results with
  | nil => exact ⟨0, by simp, rfl, by simp⟩
  | cons step steps ih =>
    cases hs : stepOutcome seconds step (results.headD .missing) with
    | error e =>
      have one : (runSteps directory seconds (step :: steps) results).1.filterMap
          BuildEvent.command? = [⟨step.words, directory⟩] := by
        simp only [runSteps, hs]
        rfl
      rw [one]
      exact areFirstOf_one directory step steps results
    | ok _ =>
      obtain ⟨output, errors, head⟩ := ended_of_stepOutcome hs
      cases results with
      | nil => cases head
      | cons result results =>
        obtain rfl : result = .ended 0 output errors := head
        have more := (ih results).cons step output errors
        simp only [runSteps, hs]
        exact more

/-! ### Whole runs -/

lemma isOfInput_of_apiOf {source : String} {f : Failure} (hf : apiOf h source = .error f) :
    f.IsOfInput := by
  unfold apiOf Api.load at hf
  split at hf
  case h_1 d _ =>
    unfold Api.ofDocument at hf
    split at hf
    · obtain ⟨e, -, rfl⟩ := mapError_eq_error_iff.1 hf
      trivial
    · cases hf
      trivial
  case h_2 =>
    cases hf
    trivial

/-- Building is not what keeps a project from being prepared. -/
lemma projectOf_ne_build {input : TypesInput} {directory : String} (e : BuildError) :
    projectOf h input directory ≠ .error (.build e) := by
  unfold projectOf settingsOf
  intro hf
  rcases bind_eq_error_iff.1 hf with hf | ⟨settings, -, hf⟩
  · rcases bind_eq_error_iff.1 hf with hf | ⟨_, -, hf⟩
    · obtain ⟨_, -, hf⟩ := mapError_eq_error_iff.1 hf
      cases hf
    · cases hf
  · rcases bind_eq_error_iff.1 hf with hf | ⟨api, -, hf⟩
    · exact isOfInput_of_apiOf hf
    · obtain ⟨_, -, hf⟩ := mapError_eq_error_iff.1 hf
      cases hf

/-- Where building a project fails, the project has been written, and the commands of the build have
been run. -/
lemma after_runGenerate_of_build {input : TypesInput} {directory : String} {install : Bool}
    {e : BuildError} {s : Effects}
    (hf : ((runGenerate h c input directory install).after s).1 = .error (.build e)) :
    ∃ project tree, projectOf h input directory = .ok project ∧
      project.write { h with tree := s.tree } = (tree, none) ∧
      ((runGenerate h c input directory install).after s).2.tree = tree ∧
      ((runGenerate h c input directory install).after s).2.commands =
        s.commands ++ (build (Path.ofText directory) defaultSeconds h.commands).1.filterMap
          BuildEvent.command? := by
  have ends := endsGenerating h c input directory install s
  generalize (runGenerate h c input directory install).after s = done at hf ends ⊢
  cases ends with
  | unsaid _ _ => cases hf
  | unprepared _ _ hp =>
    cases hf
    exact absurd hp (projectOf_ne_build e)
  | @unwritten _ _ e' _ _ _ _ => cases e' <;> cases hf
  | @written project tree _ _ _ hp hw he =>
    refine ⟨project, tree, hp, hw, ?_⟩
    cases he with
    | stopped _ printing _ =>
      cases hf
      exact printing.elim
    | whole _ =>
      cases install with
      | false => cases hf
      | true => exact ⟨rfl, rfl⟩

/-- A run that fails because of its input leaves all files as they are and runs no command. It exits
with the code of that class of failures if the report can be drawn, and else with the code of other
failures. A run that fails in the build has written all files of the project, and of the commands
that it has run all but the last have ended well. -/
theorem failure_leaves (h : Host) (words : List String) (choice : ConsoleChoice) :
    (∀ task f code, EndsWith h words choice task f → f.ExitsWith code →
      ((choice.console h).Draws [(.error, f.report)] → (run h words).exitCode = code) ∧
      (¬(choice.console h).Draws [(.error, f.report)] →
        (run h words).exitCode = Failure.generalCode) ∧
      (run h words).tree = h.tree ∧ (run h words).commands = []) ∧
    (∀ input directory install e,
      EndsWith h words choice (.generate input directory install) (.build e) →
      ∃ project, projectOf h input directory = .ok project ∧
        (∀ f ∈ project.files, ∃ text, f.2 = .ok text ∧
          (run h words).tree.find h.directory.names f.1 = .ok (some (.ok (Text.encode text)))) ∧
        AreFirstOf (run h words).commands (Path.ofText directory) buildSteps h.commands) := by
  constructor
  · rintro task f code ⟨hw, failed⟩ hcode
    have exits := exitCode_run (h := h) hw
    rw [failed] at exits
    obtain ⟨same_tree, no_commands⟩ :=
      leavesNoTrace_perform h (choice.console h) task _ f failed hcode.isOfInput
    refine ⟨fun drawn => ?_, fun undrawn => ?_, (tree_run hw).trans same_tree,
      (commands_run hw).trans no_commands⟩
    · exact exits.trans ((Failure.told_of_draws drawn).trans hcode.exitCode)
    · exact exits.trans (Failure.told_of_not_draws undrawn)
  · rintro input directory install e ⟨hw, failed⟩
    obtain ⟨project, written, hp, hwritten, htree, hcommands⟩ := after_runGenerate_of_build failed
    refine ⟨project, hp, ?_, ?_⟩
    · rw [tree_run hw, Task.outcome, Task.perform, htree]
      exact Project.find_of_write hwritten
    · rw [commands_run hw, Task.outcome, Task.perform, hcommands]
      exact areFirstOf_runSteps _ _ _ _

/-- A host with a document, where packages are fetched and nothing can be compiled. -/
def failingHost : Host where
  directory := ⟨"/", ["home"]⟩
  tree := {
    files := [(["home", "api.json"], Text.encode ("\x7b\"openapi\": \"3.0.0\", \"paths\": \x7b\x7d, "
      ++ "\"info\": \x7b\"title\": \"A\", \"version\": \"1\"\x7d\x7d"))]
    directories := [] }
  environment := []
  input := .text ""
  fetch := fun _ => .failed ""
  commands := [.ended 0 "" "", .ended 2 "" "no compiler"]
  atTerminal := false

/-- That host without colors, and with a document as its input. -/
def plainFailingHost : Host :=
  { failingHost with
    environment := [("NO_COLOR", "1")]
    input := .text "\x7b\"openapi\":\"3.0\",\"info\":\x7b\"title\":\"A\",\"version\":\"1\"\x7d\x7d" }

/-- Runs there fail without a document, and with it in the second step of the build. What looks like
marks in the name of a document changes the code, but nothing else. -/
theorem failure_leaves_failingHost :
    ((run failingHost ["generate", "--doc", "none.json"]).exitCode = 7 ∧
      (run failingHost ["generate", "--doc", "none.json"]).tree = failingHost.tree ∧
      (run failingHost ["generate", "--doc", "none.json"]).commands = []) ∧
    ((run failingHost ["types", "--doc", "[/b].json"]).exitCode = 1 ∧
      (run failingHost ["types", "--doc", "[/b].json"]).tree = failingHost.tree ∧
      (run failingHost ["types", "--doc", "[/b].json"]).commands = []) ∧
    ∃ project, projectOf plainFailingHost ⟨"-", none, none, false⟩ "out" = .ok project ∧
      (∀ f ∈ project.files, ∃ text, f.2 = .ok text ∧
        (run plainFailingHost ["generate", "--doc", "-", "--output", "out"]).tree.find ["home"] f.1
          = .ok (some (.ok (Text.encode text)))) ∧
      AreFirstOf (run plainFailingHost ["generate", "--doc", "-", "--output", "out"]).commands
        (Path.ofText "out") buildSteps plainFailingHost.commands := by
  let choice : ConsoleChoice := ⟨false, false, false, false, false⟩
  have no_document : EndsWith failingHost ["generate", "--doc", "none.json"] choice
      (.generate ⟨"none.json", none, none, false⟩ defaultDirectory true)
      (.load (.fileMissing "none.json")) :=
    ⟨by decide +kernel, by decide +kernel⟩
  have no_marks : EndsWith failingHost ["types", "--doc", "[/b].json"] choice
      (.types ⟨"[/b].json", none, none, false⟩ none) (.load (.fileMissing "[/b].json")) :=
    ⟨by decide +kernel, by decide +kernel⟩
  have not_built : EndsWith plainFailingHost ["generate", "--doc", "-", "--output", "out"] choice
      (.generate ⟨"-", none, none, false⟩ "out" true) (.build (.failed "Build" 2 ["no compiler"])) :=
    ⟨by decide +kernel, by decide +kernel⟩
  refine ⟨?_, ?_, ?_⟩
  · obtain ⟨told, -, left⟩ := (failure_leaves failingHost _ choice).1 _ _ _ no_document
      (.load rfl)
    exact ⟨told (ColorConsole.stopped_sayAll_iff.1 (by decide +kernel)), left⟩
  · obtain ⟨-, untold, left⟩ := (failure_leaves failingHost _ choice).1 _ _ _ no_marks
      (.load rfl)
    exact ⟨untold (mt ColorConsole.stopped_sayAll_iff.2 (by decide +kernel)), left⟩
  · exact (failure_leaves plainFailingHost _ choice).2 _ _ _ _ not_built

end CommandLine

end ApiBridge
