import ApiBridge.Proofs.Json.Reading
import ApiBridge.Proofs.Project.Manifests
import ApiBridge.Proofs.Validation
import ApiBridge.Settings.Resolve

/-!
# Versions pinned by the working directory

The versions that the manifest of the working directory pins are put in the place of the versions in
the settings. They are in the manifest of a generated project, except that settings may also name a
package by its own name, as if it were a further one, and then say the last word about it.
-/

namespace ApiBridge

/-! ### Packages with their versions -/

lemma lookup_insertName_of_ne {α : Type} {name n : String} (a : α) {es : List (String × α)}
    (h : n ≠ name) : (insertName name a es).lookup n = es.lookup n := by
  induction es with
  | nil => simp [List.lookup_cons, beq_eq_false_iff_ne.2 h]
  | cons e es ih =>
    obtain ⟨k, b⟩ := e
    rw [insertName]
    split
    case isTrue hk =>
      rw [show k = name from hk, List.lookup_cons, List.lookup_cons, beq_eq_false_iff_ne.2 h]
    case isFalse => rw [List.lookup_cons, List.lookup_cons, ih]

/-- A further package counts where there is one, and otherwise the package that was there before. -/
lemma lookup_withFurther {further : List (String × Value)} (h : (further.map (·.1)).Nodup)
    (versions : List (String × String)) (name : String) :
    (withFurther further versions).lookup name =
      ((further.lookup name).map Value.display).or (versions.lookup name) := by
  unfold withFurther
  induction further generalizing versions with
  | nil => rfl
  | cons e further ih =>
    obtain ⟨k, v⟩ := e
    obtain ⟨hk, h⟩ := List.nodup_cons.1 h
    rw [List.foldl_cons, ih h, List.lookup_cons]
    by_cases hn : name = k
    · have none : further.lookup k = none := by
        rw [List.lookup_eq_none_iff]
        intro e he
        simpa using fun heq : k = e.1 => hk (List.mem_map.2 ⟨e, he, heq.symm⟩)
      rw [hn, none, lookup_insertName, beq_self_eq_true]
      rfl
    · rw [lookup_insertName_of_ne _ hn, beq_eq_false_iff_ne.2 hn]

lemma field?_ofFields (fields : List (String × Value)) (name : String) :
    (Value.ofFields fields).field? name = fields.lookup name := by
  induction fields with
  | nil => rfl
  | cons f fields ih =>
    obtain ⟨k, v⟩ := f
    rw [List.lookup_cons, ← ih]
    by_cases hk : name = k
    · simp [Value.ofFields, Value.field?, lookupKey, hk, Scalar.same_self]
    · have differ : (Scalar.text k).same (.text name) = false := by
        rw [Bool.eq_false_iff, ne_eq, Scalar.same_text_iff, Scalar.text.injEq]
        exact Ne.symm hk
      simp [Value.ofFields, Value.field?, lookupKey, differ, beq_eq_false_iff_ne.2 hk]

lemma field?_versionsValue (versions : List (String × String)) (name : String) :
    (versionsValue versions).field? name = (versions.lookup name).map .text := by
  rw [versionsValue, field?_ofFields]
  induction versions with
  | nil => rfl
  | cons v versions ih =>
    obtain ⟨k, version⟩ := v
    rw [List.map_cons, List.lookup_cons, List.lookup_cons, ih]
    cases name == k <;> rfl

/-! ### Further packages of settings -/

lemma exists_of_mem_usedNames {fields : List (List String)} {es : List (Scalar × Value)}
    {name : String} (h : name ∈ usedNames fields es) : ∃ names ∈ fields, name ∈ names := by
  obtain ⟨names, hnames, h⟩ := List.mem_filterMap.1 h
  obtain ⟨found, hfound, rfl⟩ := Option.map_eq_some_iff.1 h
  exact ⟨names, hnames, (findField_eq_some hfound).1⟩

lemma mem_usedNames {fields : List (List String)} {es : List (Scalar × Value)} {name : String}
    (h : [name] ∈ fields) (hl : (lookupKey (.text name) es).isSome) : name ∈ usedNames fields es := by
  refine List.mem_filterMap.2 ⟨[name], h, ?_⟩
  obtain ⟨v, hv⟩ := Option.isSome_iff_exists.1 hl
  rw [findField_singleton, hv]
  rfl

/-- Where further packages are accepted all keys are texts, and those that are not used are taken. -/
lemma of_checkFurther {used : List String} {es : List (Scalar × Value)}
    {further : List (String × Value)} (h : checkFurther used es = .ok further) :
    ∃ named : List (String × Value), es = named.map (fun e => (.text e.1, e.2)) ∧
      further = named.filter fun e => !used.contains e.1 := by
  obtain ⟨named, hnamed, rfl⟩ := Check.map_eq_ok_iff.1 h
  refine ⟨named, ?_, rfl⟩
  rw [Check.all_eq_ok_iff] at hnamed
  clear h
  induction es generalizing named with
  | nil =>
    obtain rfl : named = [] := by simpa using hnamed.symm
    rfl
  | cons e es ih =>
    obtain ⟨k, v⟩ := e
    cases named with
    | nil => simp at hnamed
    | cons n named =>
      rw [List.map_cons, List.map_cons, List.cons.injEq] at hnamed
      obtain ⟨hkey, hnamed⟩ := hnamed
      rw [List.map_cons, ← ih named hnamed]
      cases k with
      | text s =>
        cases hkey
        rfl
      | _ => simp [Check.complain, Check.under] at hkey

lemma lookup_filter_name {p : String → Bool} (es : List (String × Value)) (name : String) :
    (es.filter fun e => p e.1).lookup name = if p name then es.lookup name else none := by
  induction es with
  | nil => simp
  | cons e es ih =>
    obtain ⟨k, v⟩ := e
    by_cases hk : name = k
    · subst hk
      cases hp : p name <;> simp [hp, ih]
    · have hk := beq_eq_false_iff_ne.2 hk
      cases hp : p k <;> simp [List.lookup_cons, hp, hk, ih]

/-- The further packages of settings are the entries of the file whose names are not used. -/
lemma lookup_of_checkFurther {used : List String} {es : List (Scalar × Value)}
    {further : List (String × Value)} (h : checkFurther used es = .ok further)
    (distinct : (es.map (·.1)).Pairwise fun k k' => k.same k' = false) :
    (further.map (·.1)).Nodup ∧ ∀ name, further.lookup name =
      if name ∈ used then none else lookupKey (.text name) es := by
  obtain ⟨named, rfl, rfl⟩ := of_checkFurther h
  constructor
  · refine List.Nodup.sublist (List.Sublist.map _ List.filter_sublist) ?_
    rw [List.map_map, List.pairwise_map] at distinct
    refine List.pairwise_map.2 (distinct.imp fun {e f} hne heq => ?_)
    rw [Function.comp_apply, Function.comp_apply, heq, Scalar.same_self] at hne
    cases hne
  · intro name
    rw [lookup_filter_name (p := fun n => !used.contains n), ← field?_ofFields]
    by_cases hu : name ∈ used
    · simp [hu]
    · simp [hu, Value.field?, Value.ofFields]

lemma areWritable_of_checkFurther {used : List String} {es : List (Scalar × Value)}
    {further : List (String × Value)} (h : checkFurther used es = .ok further)
    (hes : ∀ e ∈ es, e.2.IsJson) : (further.all fun e => e.2.isWritable) = true := by
  obtain ⟨named, rfl, rfl⟩ := of_checkFurther h
  rw [List.all_eq_true]
  intro e he
  have value := hes (.text e.1, e.2) (List.mem_map.2 ⟨e, List.mem_of_mem_filter he, rfl⟩)
  exact value.isWritable

/-! ### Settings from a file -/

/-- Further packages that pass have names that all differ. The package of the protocol is one of
them when it is given by its own name, and axios never is. -/
lemma Packages.further_of_check {v : Value} {p : Packages} (hv : v.IsJson)
    (h : Packages.check v = .ok p) :
    (p.further.map (·.1)).Nodup ∧ p.further.lookup "axios" = none ∧
      p.further.lookup "@modelcontextprotocol/sdk" = v.field? "@modelcontextprotocol/sdk" ∧
      p.isWritable = true := by
  cases hv with
  | scalar => cases h
  | list => cases h
  | @map es distinct named hes =>
    simp only [check, Value.checkRecord, Check.seq_eq_ok_iff, Check.map_eq_ok_iff] at h
    obtain ⟨_, further, ⟨_, axios, ⟨sdk, -, rfl⟩, -, rfl⟩, hfurther, rfl⟩ := h
    obtain ⟨nodup, found⟩ := lookup_of_checkFurther hfurther distinct
    refine ⟨nodup, ?_, ?_, areWritable_of_checkFurther hfurther hes⟩
    · rw [found]
      split
      case isTrue => rfl
      case isFalse hu =>
        by_contra hl
        exact hu (mem_usedNames (by simp) (Option.isSome_iff_ne_none.2 hl))
    · have unused : "@modelcontextprotocol/sdk" ∉ usedNames [["mcpSdk", "mcp_sdk"], ["axios"]] es := by
        intro hu
        obtain ⟨names, hnames, hmem⟩ := exists_of_mem_usedNames hu
        simp only [List.mem_cons, List.not_mem_nil, or_false] at hnames
        rcases hnames with rfl | rfl
        · simp at hmem
        · simp at hmem
      rw [found, if_neg unused]
      rfl

lemma ToolPackages.isWritable_of_check {v : Value} {p : ToolPackages} (hv : v.IsJson)
    (h : ToolPackages.check v = .ok p) : p.isWritable = true := by
  cases hv with
  | scalar => cases h
  | list => cases h
  | @map es distinct named hes =>
    simp only [check, Value.checkRecord, Check.seq_eq_ok_iff, Check.map_eq_ok_iff] at h
    obtain ⟨_, further, ⟨_, _, ⟨_, _, ⟨_, -, rfl⟩, -, rfl⟩, -, rfl⟩, hfurther, rfl⟩ := h
    exact areWritable_of_checkFurther hfurther hes

lemma isJson_of_readJsonFile {bytes : List UInt8} {v : Value} (h : readJsonFile bytes = .ok v) :
    v.IsJson := by
  obtain ⟨text, -, h⟩ := bind_eq_ok_iff.1 h
  exact Json.isJson_of_read (mapError_eq_ok_iff.1 h)

namespace Settings

/-- The packages of settings that pass are what their fields pass as. -/
lemma fields_of_check {es : List (Scalar × Value)} {s : Settings} (h : check (.map es) = .ok s) :
    checkFieldOr ["dependencies"] Packages.check {} es = .ok s.packages ∧
      checkFieldOr ["devDependencies", "dev_dependencies"] ToolPackages.check {} es
        = .ok s.toolPackages := by
  simp only [check, Value.checkRecord, Check.seq_eq_ok_iff, Check.map_eq_ok_iff] at h
  obtain ⟨_, _, ⟨_, _, ⟨_, _, ⟨_, _, ⟨packages, hp, rfl⟩, ht, rfl⟩, -, rfl⟩, -, rfl⟩, -, rfl⟩ := h
  exact ⟨hp, ht⟩

/-- The settings for a run before versions are pinned. -/
def unpinned (h : Host) (chosen : Option String) : Except SettingsError Settings := do
  match ← path? h chosen with
  | none => return {}
  | some path => load h path

/-- The settings for a run are those of its file, with the versions that are pinned. -/
lemma outcome_resolve (h : Host) (chosen : Option String) : (resolve h chosen).outcome = do
    let s ← unpinned h chosen
    return s.pin (← (pinnedVersions h).outcome) := by
  have pinning (s : Settings) : Attempt.outcome (do
      let versions ← pinnedVersions h
      if versions.isEmpty then return s
      let shown := Value.ofFields (versions.map fun e => (e.1, .text e.2))
      Attempt.note (.versionsPinned shown.quoted)
      return s.pin versions) = s.pin <$> (pinnedVersions h).outcome := by
    rw [Attempt.outcome_bind]
    cases (pinnedVersions h).outcome with
    | error e => rfl
    | ok versions =>
      cases versions with
      | nil => rfl
      | cons v vs => rfl
  unfold resolve unpinned
  cases path? h chosen with
  | error e => rfl
  | ok path =>
    cases path with
    | none => exact pinning {}
    | some path =>
      rw [Attempt.ofExcept_ok_bind, Attempt.outcome_bind]
      change Attempt.outcome (Attempt.ofExcept id (load h path) >>= _) = (load h path >>= _)
      cases load h path with
      | ok s => exact pinning s
      | error e => rfl

lemma resolve_eq_ok_iff {h : Host} {chosen : Option String} {s : Settings} :
    (resolve h chosen).outcome = .ok s ↔ ∃ s₀ versions, unpinned h chosen = .ok s₀ ∧
      (pinnedVersions h).outcome = .ok versions ∧ s₀.pin versions = s := by
  rw [outcome_resolve]
  simp only [bind_eq_ok_iff, pure, Except.pure, Except.ok.injEq]
  exact ⟨fun ⟨s₀, hs, versions, hv, hp⟩ => ⟨s₀, versions, hs, hv, hp⟩,
    fun ⟨s₀, versions, hs, hv, hp⟩ => ⟨s₀, hs, versions, hv, hp⟩⟩

/-- What the file of settings for a run says under a package's own name. -/
def ownVersion? (h : Host) (chosen : Option String) (package : String) : Option Value := do
  let path ← (← (path? h chosen).toOption)
  let opened ← (← (h.findFile path).toOption)
  let v ← (readJsonFile (← opened.toOption)).toOption
  (← v.field? "dependencies").field? package

/-- Only the package of the protocol can be a further package, by its own name. -/
lemma further_of_unpinned {h : Host} {chosen : Option String} {s : Settings}
    (hs : unpinned h chosen = .ok s) :
    (s.packages.further.map (·.1)).Nodup ∧ s.packages.further.lookup "axios" = none ∧
      s.packages.further.lookup "@modelcontextprotocol/sdk"
        = ownVersion? h chosen "@modelcontextprotocol/sdk" ∧
      s.packages.isWritable = true ∧ s.toolPackages.isWritable = true := by
  obtain ⟨path, hpath, hs⟩ := bind_eq_ok_iff.1 hs
  unfold ownVersion?
  cases path with
  | none =>
    cases hs
    rw [hpath]
    exact ⟨.nil, rfl, rfl, rfl, rfl⟩
  | some path =>
    rw [hpath]
    obtain ⟨found, hfound, hs⟩ := bind_eq_ok_iff.1 hs
    rw [mapError_eq_ok_iff] at hfound
    cases found with
    | none => cases hs
    | some opened =>
      obtain ⟨bytes, hopened, hs⟩ := bind_eq_ok_iff.1 hs
      obtain ⟨v, hv, hs⟩ := bind_eq_ok_iff.1 hs
      rw [mapError_eq_ok_iff] at hopened hv hs
      rw [Check.toExcept_eq_ok_iff] at hs
      subst hopened
      simp only [Option.bind_eq_bind, Option.bind_some, hfound, hv, Except.toOption]
      have json : v.IsJson := isJson_of_readJsonFile hv
      obtain ⟨es, rfl⟩ : ∃ es, v = .map es := by
        cases json with
        | scalar => cases hs
        | list => cases hs
        | @map es => exact ⟨es, rfl⟩
      obtain ⟨hp, ht⟩ := fields_of_check hs
      have tools : s.toolPackages.isWritable = true := by
        rcases checkFieldOr_eq_ok_iff.1 ht with ⟨-, heq⟩ | ⟨name, t, hfound, ht⟩
        · rw [heq]
          rfl
        · exact ToolPackages.isWritable_of_check (json.field? (findField_eq_some hfound).2) ht
      rw [checkFieldOr_eq_ok_iff, findField_singleton] at hp
      rcases hp with ⟨hn, heq⟩ | ⟨name, packages, hfound, hp⟩
      · have hn : (Value.map es).field? "dependencies" = none := Option.map_eq_none_iff.1 hn
        rw [heq, hn]
        exact ⟨.nil, rfl, rfl, rfl, tools⟩
      · obtain ⟨packages', hl, heq⟩ := Option.map_eq_some_iff.1 hfound
        cases heq
        have hl : (Value.map es).field? "dependencies" = some packages := hl
        rw [hl]
        obtain ⟨nodup, axios, sdk, writable⟩ := Packages.further_of_check (json.field? hl) hp
        exact ⟨nodup, axios, sdk, writable, tools⟩

end Settings

/-! ### Pinned versions -/

/-- The manifest of the working directory pins a version of a package. -/
def Host.Pins (h : Host) (package version : String) : Prop :=
  ∃ bytes manifest packages,
    h.findFile (h.inDirectory Settings.manifestName) = .ok (some (.ok bytes)) ∧
    readJsonFile bytes = .ok manifest ∧ manifest.field? "dependencies" = some packages ∧
    packages.field? package = some (.text version) ∧ version ≠ ""

lemma Host.pins_iff {h : Host} {package version : String} : h.Pins package version ↔ (do
    let opened ← (← (h.findFile (h.inDirectory Settings.manifestName)).toOption)
    let manifest ← (readJsonFile (← opened.toOption)).toOption
    Settings.pinnedVersion? manifest package) = some version := by
  have text (v : Value) : v.text? = some version ↔ v = .text version := by
    unfold Value.text?
    split
    case h_1 s => simp
    case h_2 hv =>
      refine iff_of_false (by simp) ?_
      rintro rfl
      exact hv version rfl
  simp only [Host.Pins, Settings.pinnedVersion?, Option.bind_eq_bind, Option.bind_eq_some_iff,
    Option.filter_eq_some_iff, text, toOption_eq_some_iff, decide_eq_true_eq]
  constructor
  · rintro ⟨bytes, manifest, packages, hbytes, hmanifest, hpackages, hversion, hne⟩
    exact ⟨_, hbytes, _, rfl, bytes, rfl, manifest, hmanifest, ⟨_, ⟨packages, hpackages, hversion⟩,
      rfl⟩, hne⟩
  · rintro ⟨_, hbytes, _, rfl, bytes, rfl, manifest, hmanifest, ⟨_, ⟨packages, hpackages, hversion⟩,
      rfl⟩, hne⟩
    exact ⟨bytes, manifest, packages, hbytes, hmanifest, hpackages, hversion, hne⟩

instance (h : Host) (package version : String) : Decidable (h.Pins package version) :=
  decidable_of_iff _ Host.pins_iff.symm

namespace Settings

variable {h : Host} {package version : String}

/-- A version that is pinned is found under the name of its setting. -/
lemma lookup_pinnedVersions {setting : String} {versions : List (String × String)}
    (hp : (package, setting) ∈ pinnedPackages) (pins : h.Pins package version)
    (hv : (pinnedVersions h).outcome = .ok versions) : versions.lookup setting = some version := by
  obtain ⟨bytes, manifest, packages, hbytes, hmanifest, hpackages, hversion, hne⟩ := pins
  have pinned : pinnedVersion? manifest package = some version := by
    simp [pinnedVersion?, hpackages, hversion, Value.text?, hne]
  have read : readManifest (.ok bytes) = .ok manifest :=
    bind_eq_ok_iff.2 ⟨bytes, rfl, mapError_eq_ok_iff.2 hmanifest⟩
  obtain rfl : versionsIn manifest = versions := by
    simp only [pinnedVersions, hbytes, Attempt.ofExcept_ok_bind, read, Attempt.outcome_pure] at hv
    exact Except.ok.inj hv
  rw [versionsIn]
  simp only [pinnedPackages, List.mem_cons, Prod.mk.injEq, List.not_mem_nil, or_false] at hp
  rcases hp with ⟨rfl, rfl⟩ | ⟨rfl, rfl⟩
  · simp [pinnedPackages, pinned]
  · cases hsdk : pinnedVersion? manifest "@modelcontextprotocol/sdk" with
    | none => simp [pinnedPackages, pinned, hsdk]
    | some v => simp [pinnedPackages, pinned, hsdk, List.lookup_cons]

/-- The version of a pinned package in settings that are found: what the file of settings says under
its own name, for the package of the protocol, and else the version that is pinned. -/
lemma lookup_versions {chosen : Option String} {s : Settings}
    (hs : (resolve h chosen).outcome = .ok s) (hp : package ∈ pinnedPackages.map (·.1))
    (pins : h.Pins package version) :
    s.packages.versions.lookup package = some
      (if package = "axios" then version
        else ((ownVersion? h chosen package).map Value.display).getD version) := by
  obtain ⟨s₀, versions, hs₀, hv, rfl⟩ := resolve_eq_ok_iff.1 hs
  obtain ⟨nodup, axios, sdk, -⟩ := further_of_unpinned hs₀
  have further : (s₀.pin versions).packages.further = s₀.packages.further := rfl
  rw [Packages.versions, further, lookup_withFurther nodup]
  simp only [pinnedPackages, List.map_cons, List.map_nil, List.mem_cons, List.not_mem_nil,
    or_false] at hp
  rcases hp with rfl | rfl
  · have pinned := lookup_pinnedVersions
      (show ("@modelcontextprotocol/sdk", "mcp_sdk") ∈ pinnedPackages by simp [pinnedPackages]) pins hv
    rw [sdk, pin, pinned]
    cases ownVersion? h chosen "@modelcontextprotocol/sdk" with
    | none => simp
    | some v => simp
  · have pinned := lookup_pinnedVersions
      (show ("axios", "axios") ∈ pinnedPackages by simp [pinnedPackages]) pins hv
    rw [axios, pin, pinned]
    simp [List.lookup_cons]

lemma isWritable_of_resolve {chosen : Option String} {s : Settings}
    (hs : (resolve h chosen).outcome = .ok s) :
    s.packages.isWritable = true ∧ s.toolPackages.isWritable = true := by
  obtain ⟨s₀, versions, hs₀, -, rfl⟩ := resolve_eq_ok_iff.1 hs
  exact (further_of_unpinned hs₀).2.2.2

end Settings

namespace Project

variable {α : Type} [Layered α]

/-- A host whose file of settings names the package of the protocol by its own name, in a directory
whose manifest pins another version of it. -/
def pinningHost : Host where
  directory := ⟨"/", ["home"]⟩
  tree := {
    files := [(["home", "lightning-mcp.json"], Text.encode
        "\x7b\"dependencies\": \x7b\"@modelcontextprotocol/sdk\": \"1.0.0\"\x7d\x7d"),
      (["home", "package.json"], Text.encode
        "\x7b\"dependencies\": \x7b\"@modelcontextprotocol/sdk\": \"2.0.0\"\x7d\x7d")]
    directories := [] }
  environment := []
  input := .text ""
  fetch := fun _ => .failed ""
  commands := []
  atTerminal := false

end Project

end ApiBridge
