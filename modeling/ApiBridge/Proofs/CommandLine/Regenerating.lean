import ApiBridge.Proofs.CommandLine.Failing
import ApiBridge.Proofs.Document.Loading
import ApiBridge.Proofs.Project.Pinned

/-!
# Projects that are generated again

A project that is generated where another one has been generated before is the project that is
generated without that other one, unless the earlier run has changed what the later one reads: the
versions that the working directory pins, the file of settings, or the document. A run that a message
stops before it writes anything is left out.
-/

namespace ApiBridge

/-! ### What a generated manifest pins -/

lemma readJsonFile_encode {s : String} (h : '\r' ∉ s.toList) :
    readJsonFile (Text.encode s) = (Json.read s).mapError .notJson := by
  rw [readJsonFile, fileText_encode h]
  rfl

namespace Json

lemma return_not_mem_json (s : String) : '\r' ∉ (Blueprint.json s).toList :=
  control_not_mem_writeString .script s (by decide)

/-- In lines of fields between braces no carriage return stands outside the values. -/
lemma return_not_mem_block {indent closing : String} (hi : '\r' ∉ indent.toList)
    (hc : '\r' ∉ closing.toList) {fields : List Field} (hf : ∀ f ∈ fields, '\r' ∉ f.text.toList) :
    '\r' ∉ (block indent closing fields).toList := by
  have line : ∀ f ∈ fields, '\r' ∉ (f.line indent).toList := by
    intro f hmem
    have colon : '\r' ∉ ": ".toList := by decide
    simp only [Field.line, lineHead, String.toList_append, List.mem_append, hi, colon, hf f hmem,
      return_not_mem_json, or_self, not_false_eq_true]
  have opening : '\r' ∉ "\x7b\n".toList := by decide
  have newline : '\r' ∉ "\n".toList := by decide
  have end_brace : '\r' ∉ "\x7d".toList := by decide
  have lines : '\r' ∉ (",\n".intercalate (fields.map (Field.line indent))).toList := by
    rw [String.toList_intercalate]
    refine not_mem_intercalate (by decide) ?_
    simpa using line
  simp only [block, String.toList_append, List.mem_append, hc, opening, newline, end_brace, lines,
    or_self, not_false_eq_true]

lemma return_not_mem_versionFields (versions : List (String × String)) :
    ∀ f ∈ Blueprint.versionFields versions, '\r' ∉ f.text.toList := by
  intro f hf
  obtain ⟨v, -, rfl⟩ := List.mem_map.1 hf
  exact return_not_mem_json v.2

end Json

namespace Blueprint

open Json Json.Field

lemma return_not_mem_manifestText (b : Blueprint) : '\r' ∉ b.manifestText.toList := by
  have inner {fields : List Field} (hf : ∀ f ∈ fields, '\r' ∉ f.text.toList) :
      '\r' ∉ (block "    " "  " fields).toList :=
    return_not_mem_block (by decide) (by decide) hf
  have fields : ∀ f ∈ manifestFields b.title b.settings, '\r' ∉ f.text.toList := by
    simp only [manifestFields, List.forall_mem_cons, ofText, ofBlock, return_not_mem_json,
      not_false_eq_true, true_and, List.not_mem_nil, false_implies, implies_true, and_true]
    refine ⟨inner ?_, inner ?_, inner (return_not_mem_versionFields _),
      inner (return_not_mem_versionFields _)⟩
    · simp [return_not_mem_json]
    · simp [return_not_mem_json]
  rw [manifestText_eq b (withFurther_ne_nil _ (by simp)) (withFurther_ne_nil _ (by simp)),
    String.toList_append, List.mem_append, not_or]
  exact ⟨return_not_mem_block (by decide) (by decide) fields, by decide⟩

/-- Manifests of one text have the same versions. -/
lemma versions_of_manifestText_eq {a b : Blueprint} (h : a.manifestText = b.manifestText)
    (package : String) : a.settings.packages.versions.lookup package =
      b.settings.packages.versions.lookup package := by
  have values : manifestValue a.title a.settings = manifestValue b.title b.settings := by
    have read := a.read_manifestText
    rw [h, b.read_manifestText] at read
    exact (Except.ok.inj read).symm
  have dependencies (c : Blueprint) :
      ((manifestValue c.title c.settings).field? "dependencies").bind (Value.field? package) =
        (c.settings.packages.versions.lookup package).map .text :=
    field?_versionsValue _ package
  have texts : (a.settings.packages.versions.lookup package).map Value.text =
      (b.settings.packages.versions.lookup package).map Value.text := by
    rw [← dependencies a, ← dependencies b, values]
  refine Option.map_injective (fun s s' hs => ?_) texts
  cases hs
  rfl

end Blueprint

/-- The host with other files. -/
def Host.withTree (h : Host) (t : FileTree) : Host :=
  { h with tree := t }

/-- A manifest that has been generated pins the versions that it has been generated with. -/
lemma pinnedVersions_of_manifest {h : Host} {b : Blueprint}
    (hf : h.findFile (h.inDirectory Settings.manifestName) =
      .ok (some (.ok (Text.encode b.manifestText)))) :
    (Settings.pinnedVersions h).outcome = .ok (Settings.pinnedPackages.filterMap fun e =>
      ((b.settings.packages.versions.lookup e.1).filter (· ≠ "")).map (e.2, ·)) := by
  have pinned (package : String) :
      Settings.pinnedVersion? (manifestValue b.title b.settings) package =
        (b.settings.packages.versions.lookup package).filter (· ≠ "") := by
    have dependencies : (manifestValue b.title b.settings).field? "dependencies" =
        some (versionsValue b.settings.packages.versions) := rfl
    rw [Settings.pinnedVersion?, dependencies, Option.bind_some, field?_versionsValue]
    cases b.settings.packages.versions.lookup package with
    | none => rfl
    | some v => rfl
  have read : readJsonFile (Text.encode b.manifestText) =
      .ok (manifestValue b.title b.settings) := by
    rw [readJsonFile_encode b.return_not_mem_manifestText, b.read_manifestText]
    rfl
  have manifest : Settings.readManifest (.ok (Text.encode b.manifestText)) =
      .ok (manifestValue b.title b.settings) :=
    bind_eq_ok_iff.2 ⟨_, rfl, mapError_eq_ok_iff.2 read⟩
  simp only [Settings.pinnedVersions, hf, Attempt.ofExcept_ok_bind, manifest, Settings.versionsIn,
    pinned]
  rfl

/-- The manifest of a project that is written in the working directory is the one that is found
there. -/
lemma Project.findFile_manifest_of_write {p : Project} {h : Host} {t : FileTree}
    (hd : p.directory = Path.ofText ".")
    (hl : h.tree.locate h.directory.names (h.inDirectory Settings.manifestName) =
      .ok (h.directory.names ++ [Settings.manifestName])) (hw : p.write h = (t, none)) :
    t.fileAt? (h.directory.names ++ [Settings.manifestName]) =
      some (Text.encode p.blueprint.manifestText) ∧
    (h.withTree t).findFile (h.inDirectory Settings.manifestName) =
      .ok (some (.ok (Text.encode p.blueprint.manifestText))) := by
  unfold write at hw
  split at hw
  case h_1 => cases hw
  case h_2 =>
    have manifest : (p.directory.child "package.json", p.blueprint.writtenManifest) ∈ p.files := by
      simp [files]
    have starts : ∀ f ∈ p.files, f.1.start h.directory.names = h.directory.names := by
      intro f hf
      rw [p.start_of_mem_files _ f hf, hd]
      rfl
    obtain ⟨text, place, htext, settled, contents⟩ :=
      settled_of_writeAll hw starts p.files_apart _ manifest
    obtain ⟨-, rfl⟩ := writtenManifest_eq_ok_iff.1 htext
    obtain rfl : place = h.directory.names ++ [Settings.manifestName] := by
      obtain ⟨d, hlocated, -, hplace⟩ := FileTree.locate_child settled.located
      rw [hd, FileTree.locate_eq_ok_iff] at hlocated
      have way := hlocated.2
      simp only [show Path.ofText "." = ⟨"", []⟩ by decide +kernel] at way
      rw [hplace, if_neg (by decide), ← Except.ok.inj way]
      rfl
    have later : h.tree.Later t := by
      obtain ⟨d, -, hdir, hplace⟩ := FileTree.locate_child hl
      rw [if_neg (by decide)] at hplace
      obtain rfl : h.directory.names = d := (List.append_inj_left' hplace rfl)
      have rest := later_writeAll hdir starts
      rwa [hw] at rest
    refine ⟨contents, ?_⟩
    change t.find h.directory.names (h.inDirectory Settings.manifestName) = _
    simp only [FileTree.find, later.locate hl, contents, Option.map_some, List.contains_iff_mem,
      settled.opened, if_false]

/-! ### What a run reads of the files -/

variable {h : Host} {t : FileTree}

/-- Of the files, loading reads the one that the source is the path of. -/
lemma Document.load_withTree {source : String} (hs : Document.IsFile source →
    (h.withTree t).findFile (Path.ofText source) = h.findFile (Path.ofText source)) :
    Document.load (h.withTree t) source = Document.load h source := by
  unfold load
  split
  case isTrue => rfl
  case isFalse hinput =>
    split
    case isTrue => rfl
    case isFalse hurl => rw [loadFile, loadFile, hs ⟨hinput, Bool.eq_false_iff.2 hurl⟩]

namespace CommandLine

open Run

variable {input : TypesInput} {directory : String}

/-- The same settings are found in other files if the chosen file and the versions that are pinned
are the same. -/
lemma settingsOf_withTree {path : String} (hp : input.settingsPath = some path)
    (settings : (h.withTree t).findFile (Path.ofText path) = h.findFile (Path.ofText path))
    (pinned : (Settings.pinnedVersions (h.withTree t)).outcome =
      (Settings.pinnedVersions h).outcome) :
    settingsOf (h.withTree t) input = settingsOf h input := by
  have loaded : Settings.load (h.withTree t) (Path.ofText path) =
      Settings.load h (Path.ofText path) := by
    rw [Settings.load, Settings.load, settings]
  have unpinned : Settings.unpinned (h.withTree t) (some path) =
      Settings.unpinned h (some path) := loaded
  unfold settingsOf
  rw [hp, Settings.outcome_resolve, Settings.outcome_resolve, pinned, unpinned]

/-- The same project is prepared if what is read is the same. -/
lemma projectOf_withTree {path : String} (hp : input.settingsPath = some path)
    (settings : (h.withTree t).findFile (Path.ofText path) = h.findFile (Path.ofText path))
    (document : Document.IsFile input.source →
      (h.withTree t).findFile (Path.ofText input.source) = h.findFile (Path.ofText input.source))
    (pinned : (Settings.pinnedVersions (h.withTree t)).outcome =
      (Settings.pinnedVersions h).outcome) :
    projectOf (h.withTree t) input directory = projectOf h input directory := by
  unfold projectOf apiOf Api.load
  rw [settingsOf_withTree hp settings pinned, Document.load_withTree document]

/-- With a valid file of settings there are settings, unless versions cannot be looked for. -/
lemma settingsOf_of_load (input : TypesInput) {path : String} {settings : Settings}
    {versions : List (String × String)} (hp : input.settingsPath = some path)
    (hs : Settings.load h (Path.ofText path) = .ok settings)
    (hv : (Settings.pinnedVersions h).outcome = .ok versions) :
    ∃ settings, settingsOf h input = .ok settings := by
  have resolved : (Settings.resolve h (some path)).outcome = .ok (settings.pin versions) :=
    Settings.resolve_eq_ok_iff.2 ⟨settings, versions, hs, hv, rfl⟩
  unfold settingsOf
  rw [hp, resolved]
  exact ⟨_, rfl⟩

/-- If versions cannot be looked for there are no settings, whatever file is chosen. -/
lemma settingsOf_fails (input : TypesInput) {e : SettingsError}
    (hv : (Settings.pinnedVersions h).outcome = .error e) (settings : Settings) :
    settingsOf h input ≠ .ok settings := by
  intro hs
  obtain ⟨found, hfound, -⟩ := bind_eq_ok_iff.1 hs
  obtain ⟨_, _, -, hv', -⟩ := Settings.resolve_eq_ok_iff.1 (mapError_eq_ok_iff.1 hfound)
  cases hv.symm.trans hv'

/-- The tree after a project is generated: the one in which it is written, if it can be prepared and
the messages before can be drawn. -/
lemma tree_runGenerate (h : Host) (c : ColorConsole) (input : TypesInput) (directory : String)
    (install : Bool) (s : Effects) :
    (c.Draws (projectMessages h input directory) →
      ((runGenerate h c input directory install).after s).2.tree =
        match projectOf h input directory with
        | .ok project => (project.write (h.withTree s.tree)).1
        | .error _ => s.tree) ∧
    (¬c.Draws (projectMessages h input directory) →
      ((runGenerate h c input directory install).after s).2.tree = s.tree) := by
  have ends := endsGenerating h c input directory install s
  generalize (runGenerate h c input directory install).after s = done at ends ⊢
  cases ends with
  | unsaid _ undrawn => exact ⟨fun drawn => absurd drawn undrawn, fun _ => rfl⟩
  | unprepared _ drawn hp =>
    rw [hp]
    exact ⟨fun _ => rfl, fun undrawn => absurd drawn undrawn⟩
  | unwritten _ drawn hp hw =>
    rw [hp]
    exact ⟨fun _ => (congrArg Prod.fst hw).symm, fun undrawn => absurd drawn undrawn⟩
  | @written project tree _ _ drawn hp hw he =>
    have left : done.2.tree = tree := by
      cases he with
      | whole _ => rfl
      | stopped _ _ _ => rfl
    rw [hp]
    exact ⟨fun _ => left.trans (congrArg Prod.fst hw).symm, fun undrawn => absurd drawn undrawn⟩

lemma directory_of_projectOf {project : Project} (hp : projectOf h input directory = .ok project) :
    project.directory = Path.ofText directory := by
  obtain ⟨settings, -, hp⟩ := bind_eq_ok_iff.1 hp
  obtain ⟨api, -, hp⟩ := bind_eq_ok_iff.1 hp
  exact (Project.ofApi_eq_ok (mapError_eq_ok_iff.1 hp)).1

/-! ### Whole runs -/

/-- The words ask for the project of a document in a directory, with a file of settings, and not for
its build. -/
def Generates (words : List String) (source settings directory : String) : Prop :=
  ∃ choice mode dedupeNames, Request.ofWords words =
    .ok (.work choice (.generate ⟨source, some settings, mode, dedupeNames⟩ directory false))

/-- A run that generates a project is stopped by a message before it writes anything. -/
def IsMuted (h : Host) (words : List String) : Prop :=
  ∃ choice input directory install,
    Request.ofWords words = .ok (.work choice (.generate input directory install)) ∧
      ¬(choice.console h).Draws (projectMessages h input directory)

section

variable {words : List String} {choice : ConsoleChoice} {install : Bool}

lemma draws_of_not_isMuted (hm : ¬IsMuted h words)
    (hw : Request.ofWords words = .ok (.work choice (.generate input directory install))) :
    (choice.console h).Draws (projectMessages h input directory) := by
  by_contra undrawn
  exact hm ⟨choice, input, directory, install, hw, undrawn⟩

/-- A run that is not stopped leaves the files of its project, if that can be prepared. -/
lemma tree_run_of_not_isMuted (hm : ¬IsMuted h words)
    (hw : Request.ofWords words = .ok (.work choice (.generate input directory install))) :
    (run h words).tree = match projectOf h input directory with
      | .ok project => (project.write h).1
      | .error _ => h.tree :=
  (tree_run hw).trans <|
    (tree_runGenerate h _ input directory install _).1 (draws_of_not_isMuted hm hw)

/-- A run that is stopped leaves all files as they are. -/
lemma tree_run_of_isMuted (hm : IsMuted h words) : (run h words).tree = h.tree := by
  obtain ⟨choice, input, directory, install, hw, undrawn⟩ := hm
  exact (tree_run hw).trans ((tree_runGenerate h _ input directory install _).2 undrawn)

/-- A run whose project cannot be prepared fails. -/
lemma endsWith_of_unprepared {f : Failure} (hm : ¬IsMuted h words)
    (hw : Request.ofWords words = .ok (.work choice (.generate input directory install)))
    (hf : projectOf h input directory = .error f) :
    EndsWith h words choice (.generate input directory install) f := by
  refine ⟨hw, ?_⟩
  have drawn := draws_of_not_isMuted hm hw
  rw [Task.outcome, Task.perform, runGenerate_eq, after_bind, after_spoken_of_draws drawn, hf]

/-- A run whose project cannot be written fails. -/
lemma endsWith_of_unwritten {project : Project} {e : WriteError} (hm : ¬IsMuted h words)
    (hw : Request.ofWords words = .ok (.work choice (.generate input directory install)))
    (hp : projectOf h input directory = .ok project) (he : (project.write h).2 = some e) :
    EndsWith h words choice (.generate input directory install) (.ofWriteError e) := by
  refine ⟨hw, ?_⟩
  have drawn := draws_of_not_isMuted hm hw
  rw [Task.outcome, Task.perform, runGenerate_eq, after_bind, after_spoken_of_draws drawn, hp]
  simp only [after_bind (Run.write _ _), after_write, Effects.tree_withPrinted]
  rw [he]
  rfl

end

/-- What a later run reads is as it was before an earlier run: its file of settings, the document and
the versions that the working directory pins. All that the runs read is read as it is meant. -/
structure LeavesInput (h : Host) (first : List String) (source earlier later : String) : Prop where
  settings : (h.withTree (run h first).tree).findFile (Path.ofText later) =
    h.findFile (Path.ofText later)
  document : Document.IsFile source →
    (h.withTree (run h first).tree).findFile (Path.ofText source) = h.findFile (Path.ofText source)
  pinned : (Settings.pinnedVersions (h.withTree (run h first).tree)).outcome =
    (Settings.pinnedVersions h).outcome
  legible_earlier : IsLegibleInput h source (some earlier)
  legible_later : IsLegibleInput h source (some later)
  legible_again : IsLegibleInput (h.withTree (run h first).tree) source (some later)

/-- A host whose input is a document, with two files of settings, of which the first names a
version. -/
def settledHost : Host where
  directory := ⟨"/", ["home"]⟩
  tree := {
    files := [
      (["home", "first.json"], Text.encode "\x7b\"dependencies\":\x7b\"mcpSdk\":\"1.0.0\"\x7d\x7d"),
      (["home", "second.json"], Text.encode "\x7b\x7d")]
    directories := [] }
  environment := [("NO_COLOR", "1")]
  input := .text "\x7b\"openapi\":\"3.0\",\"info\":\x7b\"title\":\"A\",\"version\":\"1\"\x7d\x7d"
  fetch := fun _ => .failed ""
  commands := []
  atTerminal := false

/-- The words for the project of the document there, in a directory and with a file of settings. -/
def generateWords (directory settings : String) : List String :=
  ["generate", "--doc", "-", "--output", directory, "--config", settings, "--no-install"]

/-- What these words choose. -/
def plainChoice : ConsoleChoice := ⟨false, false, false, false, false⟩

lemma ofWords_generateWords (directory settings : String)
    (hd : directory = "out" ∨ directory = ".")
    (hs : settings = "first.json" ∨ settings = "second.json") :
    Request.ofWords (generateWords directory settings) =
      .ok (.work plainChoice (.generate ⟨"-", some settings, none, false⟩ directory false)) := by
  rcases hd with rfl | rfl
  · rcases hs with rfl | rfl
    · decide +kernel
    · decide +kernel
  · rcases hs with rfl | rfl
    · decide +kernel
    · decide +kernel

/-- Without colours no message stops a run. -/
lemma not_isMuted_settledHost (t : FileTree) (words : List String) :
    ¬IsMuted settledHost words ∧ ¬IsMuted (settledHost.withTree t) words := by
  have plain (h : Host) (he : h.environment = settledHost.environment) : ¬IsMuted h words := by
    rintro ⟨choice, input, directory, install, -, undrawn⟩
    refine undrawn fun colors => ?_
    have no_color : (choice.console h).noColor = true := by
      simp [ConsoleChoice.console, he, settledHost, Console.environmentIsPlain]
    cases no_color.symm.trans colors
  exact ⟨plain _ rfl, plain _ rfl⟩

/-- The files there with a manifest that pins the versions of the first file of settings. -/
def pinnedTree : FileTree :=
  settledHost.tree.setFile ["home", "package.json"] (Text.encode
    "\x7b\"dependencies\":\x7b\"@modelcontextprotocol/sdk\":\"1.0.0\",\"axios\":\"^1.6.0\"\x7d\x7d")

end CommandLine

end ApiBridge
