import ApiBridge.Proofs.Project.Tools

/-!
# What the manifests of a project say

A project has two files in JSON: the manifest of its package and the options of its compiler. Both
are laid out by hand, one field a line, and are read back as the maps that are meant.
-/

namespace ApiBridge

/-! ### Maps with one field a line -/

namespace Json

/-- A field of a map, with the text in which its value is written. -/
structure Field where
  name : String
  text : String
  value : Value

/-- The line of a field up to its value. -/
def lineHead (indent name : String) : String :=
  indent ++ Blueprint.json name ++ ": "

/-- The line of a field. -/
def Field.line (indent : String) (f : Field) : String :=
  lineHead indent f.name ++ f.text

/-- Lines of fields between braces. -/
def block (indent closing : String) (fields : List Field) : String :=
  "\x7b\n" ++ ",\n".intercalate (fields.map (Field.line indent)) ++ "\n" ++ closing ++ "\x7d"

lemma spells_block {indent closing : String} (hi : IsBlank indent.toList)
    (hc : IsBlank closing.toList) {fields : List Field} (hne : fields ≠ [])
    (hn : (fields.map (·.name)).Nodup) (h : ∀ f ∈ fields, Spells f.text.toList f.value) :
    Spells (block indent closing fields).toList
      (.ofFields (fields.map fun f => (f.name, f.value))) := by
  let entry (f : Field) : Entry :=
    ⟨'\n' :: indent.toList, f.name, .script, [], [' '], f.text.toList, f.value⟩
  have newline : IsBlank ('\n' :: indent.toList) := List.forall_mem_cons.2 ⟨rfl, hi⟩
  have after : IsBlank ('\n' :: closing.toList) := List.forall_mem_cons.2 ⟨rfl, hc⟩
  have spaced : ∀ e ∈ fields.map entry, e.IsSpaced := by
    intro e he
    obtain ⟨f, -, rfl⟩ := List.mem_map.1 he
    exact ⟨newline, isBlank_nil, by simp [IsBlank, isSpace, entry]⟩
  have spells : ∀ e ∈ fields.map entry, Spells e.text e.value := by
    intro e he
    obtain ⟨f, hf, rfl⟩ := List.mem_map.1 he
    exact h f hf
  have names : ((fields.map entry).map (·.name)).Nodup := by
    simpa [entry, Function.comp_def] using hn
  have map := Spells.map (by simpa using hne) spaced after names spells
  have spelled (f : Field) : (entry f).spelled = '\n' :: (f.line indent).toList := by
    simp [entry, Entry.spelled, Field.line, lineHead, Blueprint.json]
  have text : (block indent closing fields).toList = '\x7b' :: ([','].intercalate
      ((fields.map entry).map (·.spelled)) ++ ('\n' :: closing.toList ++ ['\x7d'])) := by
    obtain ⟨f, fs, rfl⟩ := List.exists_cons_of_ne_nil hne
    have lines := append_intercalate ['\n'] ['\n'] (f.line indent).toList
      (fs.map fun f => (f.line indent).toList)
    simp only [List.singleton_append, List.map_map, Function.comp_def] at lines
    simp only [List.map_cons, List.map_map, Function.comp_def, spelled, ← lines]
    simp [block, String.toList_intercalate, Function.comp_def]
  rw [text]
  simpa [entry, Value.ofFields, Function.comp_def] using map

end Json

/-! ### Compiler options -/

open Json (Field)

/-- A field with a text as its value. -/
def Json.Field.ofText (name text : String) : Field :=
  ⟨name, Blueprint.json text, .text text⟩

/-- A field that is switched on. -/
def Json.Field.on (name : String) : Field :=
  ⟨name, "true", .bool true⟩

/-- A field with a map as its value. -/
def Json.Field.ofBlock (indent closing name : String) (fields : List Field) : Field :=
  ⟨name, Json.block indent closing fields, .ofFields (fields.map fun f => (f.name, f.value))⟩

namespace Blueprint

/-- The options of the compiler that are the same in all projects. -/
def fixedOptions : List Field :=
  [.on "esModuleInterop", .on "allowSyntheticDefaultImports", .on "strict", .on "skipLibCheck",
    .on "forceConsistentCasingInFileNames", .ofText "outDir" "./dist", .ofText "rootDir" "./src",
    .on "declaration", .on "sourceMap"]

/-- The fields of the options of the compiler. -/
def optionFields (c : Constants) : List Field :=
  [.ofBlock "    " "  " "compilerOptions" (.ofText "target" c.nodeTarget
      :: .ofText "module" c.moduleSystem :: .ofText "moduleResolution" c.moduleResolution
      :: fixedOptions),
    ⟨"include", "[\"src/**/*\"]", .list [.text "src/**/*"]⟩,
    ⟨"exclude", "[\"node_modules\", \"dist\"]", .list [.text "node_modules", .text "dist"]⟩]

lemma toList_json (s : String) :
    (json s).toList = '"' :: (s.toList.flatMap (Json.writtenChar .script) ++ ['"']) := by
  simp [json, Json.writeString]

set_option maxRecDepth 2000 in
lemma compilerOptionsText_eq (b : Blueprint) :
    b.compilerOptionsText = Json.block "  " "" (optionFields b.settings.constants) ++ "\n" := by
  have target : "\x7b
  \"compilerOptions\": \x7b
    \"target\": " = "\x7b\n" ++ Json.lineHead "  " "compilerOptions" ++ "\x7b\n"
      ++ Json.lineHead "    " "target" := by decide +kernel
  have module : ",
    \"module\": " = ",\n" ++ Json.lineHead "    " "module" := by decide +kernel
  have resolution : ",
    \"moduleResolution\": " = ",\n" ++ Json.lineHead "    " "moduleResolution" := by decide +kernel
  have rest : ",
    \"esModuleInterop\": true,
    \"allowSyntheticDefaultImports\": true,
    \"strict\": true,
    \"skipLibCheck\": true,
    \"forceConsistentCasingInFileNames\": true,
    \"outDir\": \"./dist\",
    \"rootDir\": \"./src\",
    \"declaration\": true,
    \"sourceMap\": true
  \x7d,
  \"include\": [\"src/**/*\"],
  \"exclude\": [\"node_modules\", \"dist\"]
\x7d
" = ",\n" ++ ",\n".intercalate (fixedOptions.map (Json.Field.line "    ")) ++ "\n" ++ "  " ++ "\x7d"
      ++ ",\n" ++ Json.lineHead "  " "include" ++ "[\"src/**/*\"]" ++ ",\n"
      ++ Json.lineHead "  " "exclude" ++ "[\"node_modules\", \"dist\"]" ++ "\n" ++ "" ++ "\x7d"
      ++ "\n" := by
    rw [← String.toList_inj]
    simp only [fixedOptions, List.map_cons, List.map_nil, String.intercalate_cons_cons,
      String.intercalate_singleton, Field.line, Json.lineHead, Field.on, Field.ofText,
      String.toList_append, toList_json]
    -- The characters of a literal are those of its list, so that it need not be decoded.
    repeat rw [String.toList_ofList]
    decide
  have fixed (line : String) : ",\n".intercalate (line :: fixedOptions.map (Field.line "    "))
      = line ++ ",\n" ++ ",\n".intercalate (fixedOptions.map (Field.line "    ")) :=
    String.intercalate_cons_cons
  unfold compilerOptionsText
  rewrite [target, module, resolution, rest]
  unfold Json.block optionFields
  simp only [Field.ofBlock, Json.block, Field.ofText, Field.line, List.map_cons, List.map_nil,
    String.intercalate_cons_cons, String.intercalate_singleton, fixed, String.append_assoc]

/-! ### The manifest -/

/-- The field of a package with its version. -/
def versionFields (versions : List (String × String)) : List Field :=
  versions.map fun v => .ofText v.1 v.2

/-- The fields of the manifest. -/
def manifestFields (title : String) (settings : Settings) : List Field :=
  let name := Name.ofPackage title
  [.ofText "name" name, .ofText "version" "1.0.0", .ofText "description" ("MCP server for " ++ title),
    .ofText "type" "module", .ofText "main" "dist/index.js",
    .ofBlock "    " "  " "bin" [.ofText name "dist/index.js"],
    .ofBlock "    " "  " "scripts" [.ofText "build" settings.scripts.build,
      .ofText "start" settings.scripts.start, .ofText "dev" settings.scripts.dev],
    .ofBlock "    " "  " "dependencies" (versionFields settings.packages.versions),
    .ofBlock "    " "  " "devDependencies" (versionFields settings.toolPackages.versions)]

/-- The lines of packages with a line break after them. -/
lemma commaLines_versions {versions : List (String × String)} (h : versions ≠ []) :
    commaLines (versions.map versionLine) =
      ",\n".intercalate ((versionFields versions).map (Field.line "    ")) ++ "\n" := by
  obtain ⟨v, vs, rfl⟩ := List.exists_cons_of_ne_nil h
  simp only [versionFields, List.map_map]
  rfl

lemma manifestText_eq (b : Blueprint) (hp : b.settings.packages.versions ≠ [])
    (ht : b.settings.toolPackages.versions ≠ []) :
    b.manifestText = Json.block "  " "" (manifestFields b.title b.settings) ++ "\n" := by
  have name : "\x7b
  \"name\": " = "\x7b\n" ++ Json.lineHead "  " "name" := by decide +kernel
  have description : ",
  \"version\": \"1.0.0\",
  \"description\": " = ",\n" ++ Json.lineHead "  " "version" ++ json "1.0.0" ++ ",\n"
      ++ Json.lineHead "  " "description" := by decide +kernel
  have bin : ",
  \"type\": \"module\",
  \"main\": \"dist/index.js\",
  \"bin\": \x7b
    " = ",\n" ++ Json.lineHead "  " "type" ++ json "module" ++ ",\n" ++ Json.lineHead "  " "main"
      ++ json "dist/index.js" ++ ",\n" ++ Json.lineHead "  " "bin" ++ "\x7b\n" ++ "    " := by
    decide +kernel
  have build : ": \"dist/index.js\"
  \x7d,
  \"scripts\": \x7b
    \"build\": " = ": " ++ json "dist/index.js" ++ "\n" ++ "  " ++ "\x7d" ++ ",\n"
      ++ Json.lineHead "  " "scripts" ++ "\x7b\n" ++ Json.lineHead "    " "build" := by decide +kernel
  have start : ",
    \"start\": " = ",\n" ++ Json.lineHead "    " "start" := by decide +kernel
  have dev : ",
    \"dev\": " = ",\n" ++ Json.lineHead "    " "dev" := by decide +kernel
  have dependencies : "
  \x7d,
  \"dependencies\": \x7b
" = "\n" ++ "  " ++ "\x7d" ++ ",\n" ++ Json.lineHead "  " "dependencies" ++ "\x7b\n" := by
    decide +kernel
  have devDependencies : "  \x7d,
  \"devDependencies\": \x7b
" = "  " ++ "\x7d" ++ ",\n" ++ Json.lineHead "  " "devDependencies" ++ "\x7b\n" := by
    decide +kernel
  have rest : "  \x7d
\x7d
" = "  " ++ "\x7d" ++ "\n" ++ "" ++ "\x7d" ++ "\n" := by decide +kernel
  have ownName : Json.lineHead "    " (Name.ofPackage b.title)
      = "    " ++ json (Name.ofPackage b.title) ++ ": " := rfl
  unfold manifestText
  rewrite [name, description, bin, build, start, dev, dependencies, devDependencies, rest,
    commaLines_versions hp, commaLines_versions ht]
  unfold Json.block manifestFields
  simp only [Field.ofBlock, Json.block, Field.ofText, Field.line, List.map_cons, List.map_nil,
    String.intercalate_cons_cons, String.intercalate_singleton, String.append_assoc, packageName,
    ownName]

end Blueprint

/-! ### Values of the files -/

/-- The packages of a map from names to versions. -/
def versionsValue (versions : List (String × String)) : Value :=
  .ofFields (versions.map fun v => (v.1, .text v.2))

/-- What the manifest of a package says. -/
def manifestValue (title : String) (settings : Settings) : Value :=
  .ofFields [
    ("name", .text (Name.ofPackage title)),
    ("version", .text "1.0.0"),
    ("description", .text ("MCP server for " ++ title)),
    ("type", .text "module"),
    ("main", .text "dist/index.js"),
    ("bin", .ofFields [(Name.ofPackage title, .text "dist/index.js")]),
    ("scripts", .ofFields [
      ("build", .text settings.scripts.build),
      ("start", .text settings.scripts.start),
      ("dev", .text settings.scripts.dev)]),
    ("dependencies", versionsValue settings.packages.versions),
    ("devDependencies", versionsValue settings.toolPackages.versions)]

/-- What the options of the compiler say. -/
def compilerOptionsValue (c : Constants) : Value :=
  .ofFields [
    ("compilerOptions", .ofFields [
      ("target", .text c.nodeTarget),
      ("module", .text c.moduleSystem),
      ("moduleResolution", .text c.moduleResolution),
      ("esModuleInterop", .bool true),
      ("allowSyntheticDefaultImports", .bool true),
      ("strict", .bool true),
      ("skipLibCheck", .bool true),
      ("forceConsistentCasingInFileNames", .bool true),
      ("outDir", .text "./dist"),
      ("rootDir", .text "./src"),
      ("declaration", .bool true),
      ("sourceMap", .bool true)]),
    ("include", .list [.text "src/**/*"]),
    ("exclude", .list [.text "node_modules", .text "dist"])]

/-! ### Versions of packages -/

lemma nodup_withFurther (further : List (String × Value)) {versions : List (String × String)}
    (h : (versions.map (·.1)).Nodup) : ((withFurther further versions).map (·.1)).Nodup := by
  unfold withFurther
  induction further generalizing versions with
  | nil => exact h
  | cons e further ih => exact ih (nodup_insertName h)

lemma insertName_ne_nil {β : Type} (name : String) (b : β) (es : List (String × β)) :
    insertName name b es ≠ [] := by
  cases es with
  | nil => simp
  | cons e es =>
    unfold insertName
    split
    · simp
    · simp

lemma withFurther_ne_nil (further : List (String × Value)) {versions : List (String × String)}
    (h : versions ≠ []) : withFurther further versions ≠ [] := by
  unfold withFurther
  induction further generalizing versions with
  | nil => exact h
  | cons e further ih => exact ih (insertName_ne_nil _ _ _)

lemma Packages.nodup_versions (p : Packages) : (p.versions.map (·.1)).Nodup :=
  nodup_withFurther _ (by simp)

lemma ToolPackages.nodup_versions (p : ToolPackages) : (p.versions.map (·.1)).Nodup :=
  nodup_withFurther _ (by simp)

/-! ### The files are read -/

namespace Json.Field

/-- The text of a field spells its value. -/
structure IsSpelled (f : Field) : Prop where
  spells : Spells f.text.toList f.value
  writable : f.value.isWritable = true

lemma isSpelled_ofText (name text : String) : (ofText name text).IsSpelled :=
  ⟨.text .script text, rfl⟩

lemma isSpelled_on (name : String) : (on name).IsSpelled :=
  ⟨.word (w := ("true", .bool true)) (by simp [plainWords]), rfl⟩

/-- Maps of spelled fields have a text. -/
lemma isWritable_of_isSpelled {fields : List Field} (h : ∀ f ∈ fields, f.IsSpelled) :
    (Value.ofFields (fields.map fun f => (f.name, f.value))).isWritable = true := by
  rw [Value.isWritable_ofFields_iff, List.forall_mem_map]
  exact fun f hf => (h f hf).writable

lemma isSpelled_ofBlock (name : String) {fields : List Field} (hne : fields ≠ [])
    (hn : (fields.map (·.name)).Nodup) (h : ∀ f ∈ fields, f.IsSpelled) :
    (ofBlock "    " "  " name fields).IsSpelled where
  spells := spells_block (by simp [IsBlank, isSpace]) (by simp [IsBlank, isSpace]) hne hn
    fun f hf => (h f hf).spells
  writable := isWritable_of_isSpelled h

/-- A file with a map is read as the map. -/
lemma read_file {fields : List Field} (hne : fields ≠ []) (hn : (fields.map (·.name)).Nodup)
    (h : ∀ f ∈ fields, f.IsSpelled) :
    read (block "  " "" fields ++ "\n") = .ok (.ofFields (fields.map fun f => (f.name, f.value))) := by
  have spells := spells_block (by simp [IsBlank, isSpace] : IsBlank "  ".toList)
    (by simp [IsBlank] : IsBlank "".toList) hne hn fun f hf => (h f hf).spells
  exact spells.read_eq (isWritable_of_isSpelled h)
    (by simp [IsBlank, isSpace] : IsBlank ['\n']) (by simp)

end Json.Field

namespace Blueprint

open Json.Field

lemma read_compilerOptionsText (b : Blueprint) :
    Json.read b.compilerOptionsText = .ok (compilerOptionsValue b.settings.constants) := by
  have options : ∀ f ∈ [ofText "target" b.settings.constants.nodeTarget,
      ofText "module" b.settings.constants.moduleSystem,
      ofText "moduleResolution" b.settings.constants.moduleResolution] ++ fixedOptions,
      f.IsSpelled := by
    simp only [fixedOptions, List.cons_append, List.nil_append, List.forall_mem_cons,
      isSpelled_ofText, isSpelled_on, true_and, List.not_mem_nil, false_implies, implies_true]
  have names : (([ofText "target" b.settings.constants.nodeTarget,
      ofText "module" b.settings.constants.moduleSystem,
      ofText "moduleResolution" b.settings.constants.moduleResolution] ++ fixedOptions).map
        (·.name)).Nodup := by
    simp [fixedOptions, ofText, on]
  have listed (name : String) (items : List String) :
      (Json.Field.mk name (Json.write .script (.list (items.map .text)))
        (.list (items.map .text))).IsSpelled :=
    ⟨Json.spells_writeAt .script 0 (Json.isPlain_texts items), (Json.isPlain_texts items).isWritable⟩
  have fields : ∀ f ∈ optionFields b.settings.constants, f.IsSpelled := by
    unfold optionFields
    refine List.forall_mem_cons.2 ⟨isSpelled_ofBlock _ (by simp) names options, ?_⟩
    refine List.forall_mem_cons.2 ⟨?_, List.forall_mem_singleton.2 ?_⟩
    · exact listed _ ["src/**/*"]
    · exact listed _ ["node_modules", "dist"]
  rw [compilerOptionsText_eq]
  exact read_file (by simp [optionFields]) (by simp [optionFields, ofBlock]) fields

lemma isSpelled_versionFields (versions : List (String × String)) :
    ∀ f ∈ versionFields versions, f.IsSpelled := by
  intro f hf
  obtain ⟨v, -, rfl⟩ := List.mem_map.1 hf
  exact isSpelled_ofText v.1 v.2

/-- Packages with their versions are a field of the manifest. -/
lemma isSpelled_ofVersions (name : String) {versions : List (String × String)}
    (hne : versions ≠ []) (hn : (versions.map (·.1)).Nodup) :
    (ofBlock "    " "  " name (versionFields versions)).IsSpelled := by
  refine isSpelled_ofBlock name (by simpa [versionFields] using hne) ?_
    (isSpelled_versionFields versions)
  simpa [versionFields, ofText, Function.comp_def] using hn

lemma read_manifestText (b : Blueprint) :
    Json.read b.manifestText = .ok (manifestValue b.title b.settings) := by
  have packages : b.settings.packages.versions ≠ [] := withFurther_ne_nil _ (by simp)
  have toolPackages : b.settings.toolPackages.versions ≠ [] := withFurther_ne_nil _ (by simp)
  have bin : ∀ f ∈ [ofText (Name.ofPackage b.title) "dist/index.js"], f.IsSpelled :=
    List.forall_mem_singleton.2 (isSpelled_ofText _ _)
  have scripts : ∀ f ∈ [ofText "build" b.settings.scripts.build,
      ofText "start" b.settings.scripts.start, ofText "dev" b.settings.scripts.dev],
      f.IsSpelled := by
    simp only [List.forall_mem_cons, isSpelled_ofText, true_and, List.not_mem_nil, false_implies,
      implies_true]
  have fields : ∀ f ∈ manifestFields b.title b.settings, f.IsSpelled := by
    simp only [manifestFields, List.forall_mem_cons, isSpelled_ofText, true_and, List.not_mem_nil,
      false_implies, implies_true, and_true]
    exact ⟨isSpelled_ofBlock _ (by simp) (by simp) bin,
      isSpelled_ofBlock _ (by simp) (by simp [ofText]) scripts,
      isSpelled_ofVersions _ packages b.settings.packages.nodup_versions,
      isSpelled_ofVersions _ toolPackages b.settings.toolPackages.nodup_versions⟩
  rw [manifestText_eq b packages toolPackages,
    read_file (by simp [manifestFields]) (by simp [manifestFields, ofText, ofBlock]) fields]
  simp only [manifestFields, manifestValue, versionsValue, versionFields, ofBlock, ofText,
    List.map_cons, List.map_nil, List.map_map, Function.comp_def]

end Blueprint

namespace Project

variable {α : Type} [Layered α]

/-- The manifest of the package is one of the files of a project. -/
lemma lookup_manifest (p : Project) :
    p.files.lookup (p.directory.child "package.json") = some p.blueprint.writtenManifest := by
  have server : (p.directory.child "package.json" == (p.directory.child "src").child "index.ts")
      = false := by
    simp [Path.child]
  simp only [files, List.lookup_cons, server, beq_self_eq_true]

/-- The manifest of the package has a text when the versions of all packages have. -/
lemma writtenManifest_eq_ok_iff {b : Blueprint} {text : String} : b.writtenManifest = .ok text ↔
    (b.settings.packages.isWritable = true ∧ b.settings.toolPackages.isWritable = true) ∧
      text = b.manifestText := by
  rw [Blueprint.writtenManifest, ← Bool.and_eq_true]
  split
  case isTrue h => simp [h, eq_comm]
  case isFalse h => simp [h]

/-- Both manifests of a project are JSON and say what is meant, for every description and all
settings; only the manifest of the package may be missing, when the version of a further package has
no text. -/
theorem manifests_read (directory : Path) (api : Api α) (settings : Settings) :
    ((∀ s ∈ api.compiledSchemas, s.IsWritableWithin) →
      ∃ p, (ofApi directory api settings).outcome = .ok p) ∧
    ∀ p, (ofApi directory api settings).outcome = .ok p →
      (∃ text, p.files.lookup (directory.child "tsconfig.json") = some (.ok text) ∧
        Json.read text = .ok (compilerOptionsValue settings.constants)) ∧
      ∃ manifest, p.files.lookup (directory.child "package.json") = some manifest ∧
        ((∃ text, manifest = .ok text) ↔
          settings.packages.isWritable = true ∧ settings.toolPackages.isWritable = true) ∧
        ∀ text, manifest = .ok text →
          Json.read text = .ok (manifestValue api.info.title settings) := by
  constructor
  · intro h
    obtain ⟨ds, hds⟩ := Api.declarations_returns settings.types h
    exact ⟨_, by simp only [ofApi, Attempt.outcome_bind, hds]; rfl⟩
  intro p hp
  obtain ⟨rfl, hb⟩ := ofApi_eq_ok hp
  have settings_eq : p.blueprint.settings = settings := by rw [hb]; rfl
  have title_eq : p.blueprint.title = api.info.title := by rw [hb]; rfl
  have server : (p.directory.child "tsconfig.json" == (p.directory.child "src").child "index.ts")
      = false := by
    simp [Path.child]
  have package : (p.directory.child "tsconfig.json" == p.directory.child "package.json") = false := by
    simp [Path.child]
  refine ⟨⟨p.blueprint.compilerOptionsText, ?_, ?_⟩, p.blueprint.writtenManifest, ?_, ?_, ?_⟩
  · simp only [files, List.lookup_cons, server, package, beq_self_eq_true]
  · rw [← settings_eq]
    exact Blueprint.read_compilerOptionsText _
  · exact lookup_manifest p
  · simp only [writtenManifest_eq_ok_iff, settings_eq, exists_and_left, exists_eq, and_true]
  · intro text htext
    obtain ⟨-, rfl⟩ := writtenManifest_eq_ok_iff.1 htext
    rw [← settings_eq, ← title_eq]
    exact Blueprint.read_manifestText _

/-- A description whose title is full of marks. -/
def marked : Api Value where
  info := ⟨"<Pets> & \"Co\"", "1", none⟩
  servers := []
  operations := []
  schemas := []
  openapiVersion := "3.0.0"

/-- Settings with further packages: a new one, and one that is there already. -/
def furtherPackages : Settings :=
  { packages := { further := [("left-pad", .int 1), ("axios", .text "<2")] } }

/-- Its manifest has the title as it is, and both packages. -/
theorem manifests_read_marked : ∃ p text v,
    (ofApi ⟨"", ["out"]⟩ marked furtherPackages).outcome = .ok p ∧
    p.files.lookup ⟨"", ["out", "package.json"]⟩ = some (.ok text) ∧ Json.read text = .ok v ∧
    v.field? "name" = some (.text "-pets-----co--mcp-server") ∧
    v.field? "description" = some (.text "MCP server for <Pets> & \"Co\"") ∧
    v.field? "dependencies" = some (.ofFields [("@modelcontextprotocol/sdk", .text "^1.13.2"),
      ("axios", .text "<2"), ("left-pad", .text "1")]) := by
  obtain ⟨returns, reads⟩ := manifests_read ⟨"", ["out"]⟩ marked furtherPackages
  obtain ⟨p, hp⟩ := returns (by simp [marked, Api.compiledSchemas])
  obtain ⟨-, manifest, found, written, value⟩ := reads p hp
  obtain ⟨text, rfl⟩ := written.2 (by decide +kernel)
  have name : Name.ofPackage marked.info.title = "-pets-----co--mcp-server" := by decide +kernel
  refine ⟨p, text, _, hp, found, value text rfl, ?_, rfl, rfl⟩
  rw [← name]
  rfl

end Project

end ApiBridge
