import ApiBridge.Proofs.Files.Places
import ApiBridge.Proofs.Project.Pinned

/-!
# Which settings count

The settings of a run come from one source: the file that the run is told of, the file that the
environment names, the file in the working directory, or the defaults. The first of them that is
there counts, and what is said in the others is not looked at. The manifest of the working directory
is no such source, it only replaces two versions. A file that cannot be opened is there, and a file
that cannot even be looked for ends the run with a failure that is not reported.
-/

namespace ApiBridge

namespace Settings

variable {h h' : Host} {chosen : Option String}

/-! ### Sources -/

/-- What the settings of a run are taken from. -/
inductive Source
  | chosen (path : String)
  | environment (path : String)
  | workingDirectory
  | defaults
  deriving DecidableEq, Repr

/-- The source in the working directory: its file, unless it is seen that there is none. -/
def ownSource (h : Host) : Source :=
  match h.findFile (h.inDirectory fileName) with
  | .ok none => .defaults
  | _ => .workingDirectory

/-- The first source that is there for a run that is told of `chosen`: a variable that is empty names
no file. -/
def source (h : Host) (chosen : Option String) : Source :=
  match chosen, (h.environmentValue? pathVariable).filter (· ≠ "") with
  | some path, _ => .chosen path
  | none, some path => .environment path
  | none, none => ownSource h

/-- The file of a source. -/
def Source.file? (h : Host) : Source → Option Path
  | .chosen path => some (Path.ofText path)
  | .environment path => some (Path.ofText path)
  | .workingDirectory => some (h.inDirectory fileName)
  | .defaults => none

/-- The settings that a source gives. -/
def Source.settings (h : Host) (source : Source) : Except SettingsError Settings :=
  match source.file? h with
  | some path => load h path
  | none => .ok {}

/-- The settings of a run are read from the file of its source; that of the working directory has
been looked for before. -/
lemma path?_eq (h : Host) (chosen : Option String) : path? h chosen =
    if source h chosen = .workingDirectory then
      ((h.findFile (h.inDirectory fileName)).mapError .unreadable).map fun _ =>
        some (h.inDirectory fileName)
    else .ok ((source h chosen).file? h) := by
  unfold path? source
  cases chosen with
  | some path => rfl
  | none =>
    cases (h.environmentValue? pathVariable).filter (· ≠ "") with
    | some path => rfl
    | none =>
      unfold ownSource
      cases hf : h.findFile (h.inDirectory fileName) with
      | error e => simp [hf, Except.mapError, Except.map]
      | ok found => cases found <;> simp [hf, Except.mapError, Except.map, Source.file?]

/-- The settings of a run before versions are pinned are those of its source. -/
lemma settings_source (h : Host) (chosen : Option String) :
    (source h chosen).settings h = unpinned h chosen := by
  rw [unpinned, path?_eq]
  split
  case isTrue hs =>
    rw [hs, Source.settings, Source.file?]
    cases hf : h.findFile (h.inDirectory fileName) with
    | error e =>
      simp only [load, hf]
      rfl
    | ok found => rfl
  case isFalse =>
    unfold Source.settings
    cases (source h chosen).file? h with
    | none => rfl
    | some path => rfl

/-- Two hosts have the same working directory, and looking for its manifest and for the file of a
source comes to the same in both. -/
structure AgreeOn (source : Source) (h h' : Host) : Prop where
  directory : h'.directory = h.directory
  manifest : h'.findFile (h'.inDirectory manifestName) = h.findFile (h.inDirectory manifestName)
  file : ∀ path, source.file? h = some path → h'.findFile path = h.findFile path

/-- The settings of a run depend on nothing but its source and the manifest. -/
lemma resolve_congr (hs : source h' chosen = source h chosen)
    (agree : AgreeOn (source h chosen) h h') : resolve h' chosen = resolve h chosen := by
  have own (name : String) : h'.inDirectory name = h.inDirectory name := by
    rw [Host.inDirectory, agree.directory, Host.inDirectory]
  have file : (source h chosen).file? h' = (source h chosen).file? h := by
    cases source h chosen with
    | workingDirectory => exact congrArg some (own fileName)
    | chosen | environment | defaults => rfl
  have path : path? h' chosen = path? h chosen := by
    rw [path?_eq, path?_eq, hs, file, own]
    split
    case isTrue hw => rw [agree.file _ (by rw [hw]; rfl)]
    case isFalse => rfl
  have loaded {p : Path} (hp : path? h chosen = .ok (some p)) : load h' p = load h p := by
    have hp : (source h chosen).file? h = some p := by
      rw [path?_eq] at hp
      split at hp
      case isTrue hw =>
        obtain ⟨found, -, hp⟩ := map_eq_ok_iff.1 hp
        rw [hw, ← hp]
        rfl
      case isFalse => exact Except.ok.inj hp
    rw [load, agree.file p hp, load]
  have manifest := agree.manifest
  have versions : pinnedVersions h' = pinnedVersions h := by
    rw [own] at manifest
    simp only [pinnedVersions, own, manifest]
  unfold resolve
  rw [path, versions]
  cases hp : path? h chosen with
  | error e => rfl
  | ok found =>
    cases found with
    | none => rfl
    | some p => simp only [Attempt.ofExcept_ok_bind, loaded hp]

/-! ### Failures -/

/-- There is no file. -/
def IsMissing (h : Host) (path : Path) : Prop :=
  h.findFile path = .ok none

/-- There is a file, and it cannot be opened. -/
def IsLocked (h : Host) (path : Path) : Prop :=
  ∃ e, h.findFile path = .ok (some (.error e))

/-- There is a file that can be opened, and it holds no settings. -/
def IsInvalid (h : Host) (path : Path) : Prop :=
  ∃ bytes, h.findFile path = .ok (some (.ok bytes)) ∧
    ∀ v s, readJsonFile bytes = .ok v → Settings.check v ≠ .ok s

/-- Whether there is a file cannot be told: its path is too long, or leads through a directory that
cannot be entered. -/
def IsHidden (h : Host) (path : Path) : Prop :=
  h.tree.IsHidden h.directory.names path

/-- A text without slashes is the path of a single name. -/
lemma ofText_of_name {name : String} (hs : '/' ∉ name.toList) (hl : 1 < name.utf8ByteSize) :
    Path.ofText name = ⟨"", [name]⟩ := by
  have whole : name.toList.splitOn '/' = [name.toList] := List.splitOn_eq_singleton hs
  have some_name : name ≠ "" ∧ name ≠ "." := by
    constructor <;> rintro rfl <;> exact absurd hl (by decide)
  have names : (Path.ofText name).names = [name] := by
    simp [Path.ofText, whole, some_name]
  have top : (Path.ofText name).top = "" := by
    simp only [Path.ofText]
    split
    case h_4 => rfl
    all_goals
      rename_i slash
      rw [slash] at hs
      simp at hs
  rw [← top, ← names]

/-- What a name that is too long stands for is hidden. -/
lemma isHidden_of_name {name : String} (hd : h.tree.isDirectoryAt h.directory.names = true)
    (hs : '/' ∉ name.toList) (hz : '\x00' ∉ name.toList) (hl : nameLimit < name.utf8ByteSize)
    (open_ : h.directory.names ∉ h.tree.closed) : IsHidden h (Path.ofText name) := by
  have single := ofText_of_name hs (Nat.lt_of_le_of_lt (by decide) hl)
  have text : (Path.ofText name).text = name := by
    simp [single, Path.text]
  refine .tooLong ?_
  rw [FileTree.locate, text, single]
  simp [hz, FileTree.walk, hd, open_, hl]

/-- A name of many letters is too long. -/
lemma isHidden_replicate (hd : h.tree.isDirectoryAt h.directory.names = true)
    (open_ : h.directory.names ∉ h.tree.closed) {n : Nat} (hn : nameLimit < n) : IsHidden h (Path.ofText (String.ofList (List.replicate n 'a'))) := by
  have letters {c : Char} (hc : c ≠ 'a') : c ∉ (String.ofList (List.replicate n 'a')).toList := by
    rw [String.toList_ofList]
    exact fun hmem => hc (List.eq_of_mem_replicate hmem)
  have size : (String.ofList (List.replicate n 'a')).utf8ByteSize = n := by
    show (String.ofList (List.replicate n 'a')).toByteArray.size = n
    rw [String.toByteArray_ofList, List.utf8Encode, List.size_toByteArray, List.flatMap_replicate]
    simp [String.utf8EncodeChar]
  exact isHidden_of_name hd (letters (by decide)) (letters (by decide)) (by rwa [size]) open_

/-- Loading a file fails in one of five ways. -/
inductive LoadFails (h : Host) (path : Path) : SettingsError → Prop
  | hidden {e : FileError} (hf : h.findFile path = .error e) : LoadFails h path (.unreadable e)
  | missing (hf : h.findFile path = .ok none) : LoadFails h path (.fileMissing path.text)
  | locked {e : FileError} (hf : h.findFile path = .ok (some (.error e))) :
    LoadFails h path (.fileClosed path.text e)
  | notJson {bytes : List UInt8} {e : JsonFileError} (hf : h.findFile path = .ok (some (.ok bytes)))
    (he : readJsonFile bytes = .error e) : LoadFails h path (.notJson path.text e)
  | flawed {bytes : List UInt8} {v : Value} {flaws : List Flaw}
    (hf : h.findFile path = .ok (some (.ok bytes))) (hv : readJsonFile bytes = .ok v)
    (hc : (Settings.check v).toExcept = .error flaws) : LoadFails h path (.flawed path.text flaws)

/-- A file that can be opened is read and checked. -/
lemma load_of_opened {path : Path} {bytes : List UInt8}
    (hf : h.findFile path = .ok (some (.ok bytes))) : load h path =
      (readJsonFile bytes).mapError (.notJson path.text) >>= fun v =>
        ((Settings.check v).toExcept).mapError (.flawed path.text) := by
  unfold load
  rw [hf]
  rfl

lemma load_eq_error_iff {path : Path} {e : SettingsError} :
    load h path = .error e ↔ LoadFails h path e := by
  constructor
  · intro he
    rcases bind_eq_error_iff.1 he with hidden | ⟨found, hfound, he⟩
    · obtain ⟨e, hf, rfl⟩ := mapError_eq_error_iff.1 hidden
      exact .hidden hf
    have hf := mapError_eq_ok_iff.1 hfound
    cases found with
    | none =>
      cases he
      exact .missing hf
    | some opened =>
      rcases bind_eq_error_iff.1 he with locked | ⟨bytes, hopened, hread⟩
      · obtain ⟨e, rfl, rfl⟩ := mapError_eq_error_iff.1 locked
        exact .locked hf
      rw [mapError_eq_ok_iff.1 hopened] at hf
      rcases bind_eq_error_iff.1 hread with unread | ⟨v, hv, hcheck⟩
      · obtain ⟨e, hj, rfl⟩ := mapError_eq_error_iff.1 unread
        exact .notJson hf hj
      · obtain ⟨flaws, hc, rfl⟩ := mapError_eq_error_iff.1 hcheck
        exact .flawed hf (mapError_eq_ok_iff.1 hv) hc
  · intro fails
    cases fails with
    | hidden hf | missing hf | locked hf =>
      rw [load, hf]
      rfl
    | notJson hf he =>
      rw [load_of_opened hf]
      exact bind_eq_error_iff.2 (.inl (mapError_eq_error_iff.2 ⟨_, he, rfl⟩))
    | flawed hf hv hc =>
      rw [load_of_opened hf]
      exact bind_eq_error_iff.2
        (.inr ⟨_, mapError_eq_ok_iff.2 hv, mapError_eq_error_iff.2 ⟨_, hc, rfl⟩⟩)

/-- A failure to load a file is reported exactly when the file is missing, cannot be opened or holds
no settings. -/
lemma load_fails_reported_iff {path : Path} :
    (∃ e, load h path = .error e ∧ e.isReported = true) ↔
      IsMissing h path ∨ IsLocked h path ∨ IsInvalid h path := by
  simp only [load_eq_error_iff]
  constructor
  · rintro ⟨e, fails, reported⟩
    cases fails with
    | hidden hf => cases reported
    | missing hf => exact .inl hf
    | locked hf => exact .inr (.inl ⟨_, hf⟩)
    | notJson hf he =>
      refine .inr (.inr ⟨_, hf, fun v s hv => ?_⟩)
      cases he.symm.trans hv
    | flawed hf hv hc =>
      refine .inr (.inr ⟨_, hf, fun v' s hv' hs => ?_⟩)
      cases hv.symm.trans hv'
      rw [hs] at hc
      cases hc
  · rintro (missing | ⟨e, hf⟩ | ⟨bytes, hf, invalid⟩)
    · exact ⟨_, .missing missing, rfl⟩
    · exact ⟨_, .locked hf, rfl⟩
    · cases hv : readJsonFile bytes with
      | error e => exact ⟨_, .notJson hf hv, rfl⟩
      | ok v =>
        cases hs : (Settings.check v).toExcept with
        | error flaws => exact ⟨_, .flawed hf hv hs, rfl⟩
        | ok s => exact absurd (Check.toExcept_eq_ok_iff.1 hs) (invalid v s hv)

/-- A failure to load a file goes unreported exactly when the file is hidden. -/
lemma load_fails_unreported_iff {path : Path} :
    (∃ e, load h path = .error e ∧ e.isReported = false) ↔ IsHidden h path := by
  unfold IsHidden
  rw [← FileTree.find_fails_iff]
  simp only [load_eq_error_iff]
  constructor
  · rintro ⟨e, fails, unreported⟩
    cases fails with
    | hidden hf => exact ⟨_, hf⟩
    | missing | locked | notJson | flawed => cases unreported
  · rintro ⟨e, he⟩
    exact ⟨_, .hidden he, rfl⟩

/-- The versions of the manifest are not found exactly when it is hidden, and that goes
unreported. -/
lemma pinnedVersions_eq_error_iff {e : SettingsError} : (pinnedVersions h).outcome = .error e ↔
    ∃ fault, h.findFile (h.inDirectory manifestName) = .error fault ∧ .unreadable fault = e := by
  simp only [pinnedVersions, Attempt.outcome_bind, Attempt.outcome_ofExcept, bind_eq_error_iff,
    mapError_eq_error_iff]
  refine or_iff_left ?_
  rintro ⟨found, -, hfound⟩
  cases found with
  | none => cases hfound
  | some opened =>
    simp only at hfound
    split at hfound
    · cases hfound
    · cases hfound

/-- Settings are not found when the file of their source cannot be loaded or, after that, when the
versions of the manifest are not found. -/
lemma resolve_fails_iff {p : SettingsError → Prop} :
    (∃ e, (resolve h chosen).outcome = .error e ∧ p e) ↔
      (∃ path, (source h chosen).file? h = some path ∧ ∃ e, load h path = .error e ∧ p e) ∨
      (∃ s, (source h chosen).settings h = .ok s) ∧
        ∃ e, (pinnedVersions h).outcome = .error e ∧ p e := by
  have step (e : SettingsError) : (resolve h chosen).outcome = .error e ↔
      (source h chosen).settings h = .error e ∨
        (∃ s, (source h chosen).settings h = .ok s) ∧ (pinnedVersions h).outcome = .error e := by
    rw [outcome_resolve, ← settings_source, bind_eq_error_iff]
    refine or_congr_right ?_
    simp only [bind_eq_error_iff, pure, Except.pure, reduceCtorEq, and_false, exists_false, or_false,
      exists_and_right]
  have fails (e : SettingsError) : (source h chosen).settings h = .error e ↔
      ∃ path, (source h chosen).file? h = some path ∧ load h path = .error e := by
    unfold Source.settings
    cases (source h chosen).file? h with
    | none => simp
    | some path => simp
  simp only [step, fails]
  grind

/-! ### Pinned versions -/

/-- A version is the one that the manifest pins for a package, or `former` where it pins none. -/
def IsPinned (h : Host) (package former version : String) : Prop :=
  (∀ v, h.Pins package v → version = v) ∧ ((∀ v, ¬h.Pins package v) → version = former)

variable {versions : List (String × String)}

/-- A version that is found under the name of a setting is pinned. -/
lemma pins_of_lookup {package setting version : String}
    (hp : (package, setting) ∈ pinnedPackages) (hv : (pinnedVersions h).outcome = .ok versions)
    (hl : versions.lookup setting = some version) : h.Pins package version := by
  simp only [pinnedVersions, Attempt.outcome_bind, Attempt.outcome_ofExcept, bind_eq_ok_iff,
    mapError_eq_ok_iff] at hv
  obtain ⟨found, hf, hv⟩ := hv
  cases found with
  | none =>
    obtain rfl : [] = versions := Except.ok.inj hv
    cases hl
  | some opened =>
    cases hr : readManifest opened with
    | error reason =>
      simp only [hr] at hv
      obtain rfl : [] = versions := Except.ok.inj hv
      cases hl
    | ok manifest =>
      simp only [hr] at hv
      obtain rfl : versionsIn manifest = versions := Except.ok.inj hv
      obtain ⟨bytes, hopened, hj⟩ := bind_eq_ok_iff.1 hr
      rw [mapError_eq_ok_iff] at hopened hj
      have found := mem_of_lookup hl
      simp only [versionsIn, List.mem_filterMap, Option.map_eq_some_iff, Prod.mk.injEq] at found
      obtain ⟨⟨package', setting'⟩, hp', v, hv, rfl, rfl⟩ := found
      have same : package' = package := by
        simp only [pinnedPackages, List.mem_cons, Prod.mk.injEq, List.not_mem_nil, or_false]
          at hp hp'
        rcases hp with ⟨rfl, rfl⟩ | ⟨rfl, rfl⟩ <;> rcases hp' with ⟨rfl, h'⟩ | ⟨rfl, h'⟩
        · rfl
        · exact absurd h' (by decide)
        · exact absurd h' (by decide)
        · rfl
      subst hopened
      rw [← same, Host.pins_iff, hf]
      simp only [Option.bind_eq_bind, Except.toOption, Option.bind_some, hj]
      exact hv

lemma isPinned_getD {package setting : String} (hp : (package, setting) ∈ pinnedPackages)
    (hv : (pinnedVersions h).outcome = .ok versions) (former : String) :
    IsPinned h package former ((versions.lookup setting).getD former) := by
  constructor
  · intro v pins
    rw [lookup_pinnedVersions hp pins hv, Option.getD_some]
  · intro free
    cases hl : versions.lookup setting with
    | none => rfl
    | some v => exact absurd (pins_of_lookup hp hv hl) (free v)

/-- A host with a file of settings in its working directory and two beside it, one of which cannot be
opened. -/
def settingsHost (environment : List (String × String)) : Host where
  directory := ⟨"/", ["home"]⟩
  tree := {
    files := [(["home", "lightning-mcp.json"], Text.encode "\x7b\x7d"),
      (["home", "named.json"], Text.encode "\x7b\"scripts\":\x7b\"build\":\"named\"\x7d\x7d"),
      (["home", "locked.json"], [])]
    directories := []
    locked := [["home", "locked.json"]] }
  environment := environment
  input := .missing
  fetch := fun _ => .failed ""
  commands := []
  atTerminal := false

/-- A name that is too long for the file system. -/
def longName : String := String.ofList (List.replicate 300 'a')

end Settings

end ApiBridge
