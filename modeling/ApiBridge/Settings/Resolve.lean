import ApiBridge.Host
import ApiBridge.Notice
import ApiBridge.Settings.Basic

/-!
# Finding settings

The file of settings is the one that a run is told of, or the one that the environment names, or the
one in the working directory; without any of them all settings have their defaults. Versions in the
manifest of the working directory then replace those of the settings.
-/

namespace ApiBridge

/-- Why there are no settings. -/
inductive SettingsError
  | fileMissing (path : String)
  /-- The file is there and cannot be opened. -/
  | fileClosed (path : String) (e : FileError)
  | notJson (path : String) (e : JsonFileError)
  | flawed (path : String) (flaws : List Flaw)
  /-- A file cannot be looked for. -/
  | unreadable (e : FileError)
  deriving DecidableEq, Repr

/-- Is the error reported as one of settings? -/
def SettingsError.isReported : SettingsError → Bool
  | .unreadable _ => false
  | _ => true

/-- The report of settings that are not there. What is wrong with single settings follows it. -/
def SettingsError.message : SettingsError → String
  | .fileMissing path => s!"Config file not found at {path}"
  | .fileClosed path e => s!"Failed to read config at {path}: {e.message}"
  | .notJson path e => s!"Invalid config at {path}: {e.message}"
  | .flawed path _ => s!"Invalid config at {path}: "
  | .unreadable e => e.message

namespace Settings

/-- The settings in a file. -/
def load (h : Host) (path : Path) : Except SettingsError Settings := do
  match ← (h.findFile path).mapError .unreadable with
  | none => throw (.fileMissing path.text)
  | some opened =>
    let bytes ← opened.mapError (.fileClosed path.text)
    let v ← (readJsonFile bytes).mapError (.notJson path.text)
    ((Settings.check v).toExcept).mapError (.flawed path.text)

/-! ### Versions of the working directory -/

/-- The packages whose versions are taken over, with the names of the settings they replace. -/
def pinnedPackages : List (String × String) :=
  [("@modelcontextprotocol/sdk", "mcp_sdk"), ("axios", "axios")]

/-- The manifest of a project. -/
def manifestName : String := "package.json"

/-- The version that a manifest pins for a package. -/
def pinnedVersion? (manifest : Value) (package : String) : Option String :=
  (((manifest.field? "dependencies").bind (Value.field? package)).bind Value.text?).filter (· ≠ "")

/-- The versions that a manifest pins, by the names of their settings. -/
def versionsIn (manifest : Value) : List (String × String) :=
  pinnedPackages.filterMap fun (package, setting) =>
    (pinnedVersion? manifest package).map (setting, ·)

/-- The manifest that is found, or why it cannot be read. -/
def readManifest (opened : Except FileError (List UInt8)) : Except String Value := do
  let bytes ← opened.mapError FileError.message
  (readJsonFile bytes).mapError JsonFileError.message

/-- The versions that the manifest of the working directory pins. One that cannot be read pins
none. -/
def pinnedVersions (h : Host) : Attempt SettingsError (List (String × String)) := do
  let path := h.inDirectory manifestName
  match ← Attempt.ofExcept .unreadable (h.findFile path) with
  | none => return []
  | some opened =>
    match readManifest opened with
    | .ok manifest => return versionsIn manifest
    | .error reason => do
      Attempt.note (.manifestUnreadable path.text reason)
      return []

/-- The settings with versions replaced. -/
def pin (s : Settings) (versions : List (String × String)) : Settings :=
  { s with packages := { s.packages with
      sdk := (versions.lookup "mcp_sdk").getD s.packages.sdk
      axios := (versions.lookup "axios").getD s.packages.axios } }

/-! ### Precedence -/

/-- The variable that names a file of settings. -/
def pathVariable : String := "LIGHTNING_MCP_CONFIG"

/-- The file of settings in the working directory. -/
def fileName : String := "lightning-mcp.json"

/-- The file of settings for a run that is told of `chosen`. -/
def path? (h : Host) (chosen : Option String) : Except SettingsError (Option Path) :=
  match chosen, (h.environmentValue? pathVariable).filter (· ≠ "") with
  | some path, _ => .ok (some (Path.ofText path))
  | none, some path => .ok (some (Path.ofText path))
  | none, none =>
    let path := h.inDirectory fileName
    match h.findFile path with
    | .ok found => .ok (found.map fun _ => path)
    | .error e => .error (.unreadable e)

/-- The settings for a run that is told of `chosen`. -/
def resolve (h : Host) (chosen : Option String) : Attempt SettingsError Settings := do
  let settings ← match ← Attempt.ofExcept id (path? h chosen) with
    | none => pure {}
    | some path => do
      Attempt.note (.settingsRead path.text)
      Attempt.ofExcept id (load h path)
  let versions ← pinnedVersions h
  if versions.isEmpty then return settings
  let shown := Value.ofFields (versions.map fun e => (e.1, .text e.2))
  Attempt.note (.versionsPinned shown.quoted)
  return settings.pin versions

/-- The settings with the options of types that a run is told. -/
def withTypeOptions (s : Settings) (mode : Option ReferenceMode) (dedupeNames : Bool) :
    Settings :=
  { s with types := { s.types with
      referenceMode := mode.getD s.types.referenceMode
      dedupeNames := dedupeNames || s.types.dedupeNames } }

end Settings

end ApiBridge
