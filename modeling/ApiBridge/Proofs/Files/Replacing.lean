import ApiBridge.Proofs.Files.Places
import Mathlib.Data.List.Nodup
import Mathlib.Data.List.Perm.Subperm

/-!
# New files

What is written goes to a new file, at a place where nothing is. As long as it is there, everything
else is as before. When it has taken the place of the old file, or has been taken away, nothing of
it is left, wherever it was.
-/

namespace ApiBridge.FileTree

variable {t u : FileTree} {base p q new directory shown : Place} {path : Path}
  {bytes more : List UInt8} {name text : String} {stuck : Bool}

/-! ### Free places -/

lemma isFreeAt_iff : t.isFreeAt p = true ↔ t.fileAt? p = none ∧ t.isDirectoryAt p = false := by
  simp [isFreeAt]

/-- Where something is, a file or a directory of the tree is at or below the place. -/
lemma exists_prefix_of_not_isFreeAt (hp : p ≠ []) (h : ¬t.isFreeAt p = true) :
    ∃ q ∈ t.files.map (·.1) ++ t.directories, p <+: q := by
  by_cases hf : (t.fileAt? p).isSome = true
  · obtain ⟨f, hmem, rfl⟩ := isSome_fileAt?_iff.1 hf
    exact ⟨f.1, List.mem_append_left _ (List.mem_map_of_mem hmem), List.prefix_rfl⟩
  · have hd : t.isDirectoryAt p = true := by
      by_contra hd
      apply h
      rw [isFreeAt_iff]
      exact ⟨by simpa using hf, Bool.eq_false_iff.2 hd⟩
    rcases isDirectoryAt_iff.1 hd with rfl | ⟨f, hmem, hpf, -⟩ | ⟨d, hmem, hpd⟩
    · exact absurd rfl hp
    · exact ⟨f.1, List.mem_append_left _ (List.mem_map_of_mem hmem), hpf⟩
    · exact ⟨d, List.mem_append_right _ hmem, hpd⟩

lemma drawnLetters_injective : Function.Injective drawnLetters := by
  intro m n h
  -- No digit is an underscore, so the digits are what follows the underscores.
  have digits (k : Nat) : (drawnLetters k).toList.dropWhile (· == '_') = Nat.toDigits 10 k := by
    rw [drawnLetters, String.toList_ofList, List.leftpad,
      List.dropWhile_append_of_pos (by simp [List.mem_replicate])]
    cases hd : Nat.toDigits 10 k with
    | nil => rfl
    | cons c cs =>
      have digit : c.isDigit = true :=
        Nat.isDigit_of_mem_toDigits (b := 10) (by decide) (by decide) (n := k) (by simp [hd])
      apply List.dropWhile_cons_of_neg
      intro hc
      rw [beq_iff_eq.1 hc] at digit
      exact absurd digit (by decide)
  calc m
    _ = Nat.ofDigitChars 10 (Nat.toDigits 10 m) 0 := Nat.ofDigitChars_ten_toDigits.symm
    _ = Nat.ofDigitChars 10 (Nat.toDigits 10 n) 0 := by rw [← digits m, h, digits n]
    _ = n := Nat.ofDigitChars_ten_toDigits

lemma temporaryName_injective (name : String) : Function.Injective (temporaryName name) := by
  intro l m h
  simpa [temporaryName, String.append_left_inj, String.append_right_inj] using h

lemma temporaryName_ne_above (name letters : String) : temporaryName name letters ≠ ".." := by
  intro h
  have lengths := congrArg (·.toList.length) h
  simp [temporaryName] at lengths
  omega

/-- One of the draws finds a free place: they lead to more places than there are in the tree. -/
lemma exists_isFreeAt_drawn (t : FileTree) (directory : Place) (name : String) :
    ∃ n < t.files.length + t.directories.length + 1,
      t.isFreeAt (directory ++ [temporaryName name (drawnLetters n)]) = true := by
  by_contra none_free
  push Not at none_free
  let drawn (n : Nat) : Option String := some (temporaryName name (drawnLetters n))
  let numbers := List.range (t.files.length + t.directories.length + 1)
  have distinct : (numbers.map drawn).Nodup := by
    refine List.Nodup.map ?_ List.nodup_range
    intro m n h
    exact drawnLetters_injective (temporaryName_injective name (Option.some.inj h))
  -- A name that is not free stands, at this depth, in a place of the tree.
  have sub : numbers.map drawn ⊆
      (t.files.map (·.1) ++ t.directories).map (·[directory.length]?) := by
    intro s hs
    obtain ⟨n, hn, rfl⟩ := List.mem_map.1 hs
    obtain ⟨q, hq, hprefix⟩ :=
      exists_prefix_of_not_isFreeAt (by simp) (none_free n (List.mem_range.1 hn))
    refine List.mem_map.2 ⟨q, hq, ?_⟩
    simpa [drawn] using List.prefix_iff_getElem?.1 hprefix directory.length (by simp)
  have lengths := (distinct.subperm sub).length_le
  simp only [numbers, List.length_map, List.length_range, List.length_append] at lengths
  omega

/-- A new file can always be made. -/
lemma isFreeAt_freePlace (t : FileTree) (directory : Place) (name : String) :
    t.isFreeAt (t.freePlace directory name) = true := by
  obtain ⟨n, hn, free⟩ := exists_isFreeAt_drawn t directory name
  simp only [freePlace]
  generalize hfound : List.find? _ _ = found
  cases found with
  | none => exact absurd free (List.find?_eq_none.1 hfound n (List.mem_range.2 hn))
  | some m => simpa using List.find?_some hfound

/-- The place of a new file is in its directory. -/
lemma freePlace_eq (t : FileTree) (directory : Place) (name : String) :
    ∃ letters, t.freePlace directory name = directory ++ [temporaryName name letters] :=
  ⟨_, rfl⟩

/-! ### Files that come and go -/

lemma ne_of_fileAt?_eq_none (h : t.fileAt? p = none) : ∀ f ∈ t.files, f.1 ≠ p := by
  intro f hf hp
  have found := isSome_fileAt?_iff.2 ⟨f, hf, hp⟩
  simp [h] at found

lemma exists_of_fileAt?_ne_none (h : t.fileAt? p ≠ none) : ∃ f ∈ t.files, f.1 = p :=
  isSome_fileAt?_iff.1 (Option.isSome_iff_ne_none.2 h)

/-- A file that was not there comes after the others. -/
lemma files_setFile_of_none (h : t.fileAt? p = none) (bytes : List UInt8) :
    (t.setFile p bytes).files = t.files ++ [(p, bytes)] := by
  have absent : t.files.any (·.1 = p) = false := by
    simpa using ne_of_fileAt?_eq_none h
  rw [setFile, absent]
  rfl

/-- A file that was there stays where it is among the others. -/
lemma files_setFile_of_some (h : t.fileAt? p ≠ none) (bytes : List UInt8) :
    (t.setFile p bytes).files = t.files.map fun f => if f.1 = p then (p, bytes) else f := by
  have present : t.files.any (·.1 = p) = true := by
    simpa using exists_of_fileAt?_ne_none h
  rw [setFile, present]
  rfl

lemma ext_files (hf : t.files = u.files) (hd : t.directories = u.directories)
    (hl : t.locked = u.locked) (hc : t.closed = u.closed) : t = u := by
  cases t
  cases u
  simp_all

/-- Of two files at one place the later one counts. -/
lemma setFile_setFile (t : FileTree) (p : Place) (bytes more : List UInt8) :
    (t.setFile p bytes).setFile p more = t.setFile p more := by
  have there : (t.setFile p bytes).fileAt? p ≠ none := by simp [fileAt?_setFile]
  refine ext_files ?_ rfl rfl rfl
  by_cases h : t.fileAt? p = none
  · rw [files_setFile_of_some there, files_setFile_of_none h, files_setFile_of_none h]
    have others : t.files.map (fun f => if f.1 = p then (p, more) else f) = t.files := by
      rw [List.map_congr_left fun f hf => if_neg (ne_of_fileAt?_eq_none h f hf), List.map_id']
    rw [List.map_append, others]
    simp
  · rw [files_setFile_of_some there, files_setFile_of_some h, files_setFile_of_some h, List.map_map]
    apply List.map_congr_left
    intro f _
    by_cases hp : f.1 = p
    · simp [hp]
    · simp [hp]

/-- A file that was not there is taken away without a trace. -/
lemma removeFile_setFile (h : t.fileAt? p = none) (bytes : List UInt8) :
    (t.setFile p bytes).removeFile p = t := by
  refine ext_files ?_ rfl rfl rfl
  rw [removeFile, files_setFile_of_none h, List.filter_append,
    List.filter_eq_self.2 (by simpa using ne_of_fileAt?_eq_none h)]
  simp

/-- A file that was not there leaves what it holds at the other place. -/
lemma moveFile_setFile (h : t.fileAt? p = none) (bytes : List UInt8) (q : Place) :
    (t.setFile p bytes).moveFile p q = t.replaceFile q bytes := by
  rw [moveFile, fileAt?_setFile, if_pos rfl]
  simp only [removeFile_setFile h]

/-! ### Ways beside a new file -/

/-- A new file in a directory makes no directories. -/
lemma isDirectoryAt_setFile_of_isRooted (h : t.IsRooted p) (q : Place) :
    (t.setFile p bytes).isDirectoryAt q = t.isDirectoryAt q := by
  rw [Bool.eq_iff_iff, isDirectoryAt_setFile, or_iff_left_iff_imp]
  rintro ⟨hq, hne⟩
  exact h q hq hne

/-- Where a path leads that cannot be used does not depend on the tree. -/
lemma locate_of_not_sound (h : ¬path.IsSound) : u.locate base path = t.locate base path := by
  rw [locate, locate]
  split
  case isTrue => rfl
  case isFalse hnull =>
    split
    case isTrue => rfl
    case isFalse hlength => exact absurd ⟨Bool.eq_false_iff.2 hnull, Nat.not_le.1 hlength⟩ h

lemma locate_child_of_sound {n : String} (h : (path.child n).IsSound) :
    t.locate base (path.child n) = t.locate base path >>= fun d => t.walk d [n] := by
  have parent_sound : path.IsSound := by simpa using h.parent
  rw [locate_of_sound h, locate_of_sound parent_sound, Path.start_child, Path.child, walk_append]

/-- A directory that is in a tree has the same way to something inside it in a wider one. -/
lemma Wider.locate_child (h : Wider t u) (ht : t.locate base path = .ok directory)
    (hd : t.isDirectoryAt directory = true) (n : String) :
    u.locate base (path.child n) = t.locate base (path.child n) := by
  by_cases sound : (path.child n).IsSound
  · rw [locate_child_of_sound sound, locate_child_of_sound sound, ht, h.locate ht]
    show u.walk directory [n] = t.walk directory [n]
    simp [FileTree.walk, hd, h.directories _ hd, h.closed]
  · exact locate_of_not_sound sound

lemma parent_of_names_eq_nil (h : path.names = []) : path.parent = path := by
  rw [Path.parent, h, List.dropLast_nil, ← h]

/-- A directory that is in a tree has the same way to what has it as its parent in a wider one. -/
lemma Wider.locate_of_parent (h : Wider t u) (ht : t.locate base path.parent = .ok directory)
    (hd : t.isDirectoryAt directory = true) : u.locate base path = t.locate base path := by
  by_cases hn : path.names = []
  · rw [parent_of_names_eq_nil hn] at ht
    rw [ht, h.locate ht]
  · rw [eq_child_parent hn]
    exact h.locate_child ht hd path.name

/-- The new file for a path is in the directory of the path. -/
lemma locate_temporaryPath (h : t.locate base (temporaryPath path) = .ok shown) :
    t.locate base path.parent = .ok shown.dropLast ∧ t.isDirectoryAt shown.dropLast = true := by
  obtain ⟨d, hd, hdir, hshown⟩ := locate_child h
  rw [if_neg (temporaryName_ne_above _ _)] at hshown
  rw [hshown, List.dropLast_concat]
  exact ⟨hd, hdir⟩

/-! ### Writing through a new file -/

/-- A file is set in a directory that is there. -/
def setInside (t : FileTree) (base : Place) (path : Path) (text : String) (stuck : Bool) :
    Written :=
  match t.locate base (temporaryPath path), t.locate base path with
  | .error fault, _ => (t, some (.unreachable fault (temporaryPath path).text))
  | _, .error fault => (t, some (.unreachable fault path.text))
  | .ok _, .ok place =>
    if stuck then (t, some (.notReplaced path.text))
    else if t.isDirectoryAt place then (t, some (.isDirectory path.text))
    else (t.replaceFile place (Text.encode text), none)

/-- A new file in the directory of a path. -/
structure IsNewFor (t : FileTree) (directory : Place) (new : Place) : Prop where
  free : t.isFreeAt new = true
  inside : ∃ n, new = directory ++ [n]

lemma isNewFor_freePlace (t : FileTree) (directory : Place) (name : String) :
    t.IsNewFor directory (t.freePlace directory name) := by
  obtain ⟨letters, h⟩ := freePlace_eq t directory name
  exact ⟨isFreeAt_freePlace t directory name, _, h⟩

/-- Whatever free place the new file has, it leaves nothing but the file that is written, and
nothing at all where that file cannot be written. -/
lemma writeThrough_eq_setInside (h : t.locate base (temporaryPath path) = .ok shown)
    (hnew : t.IsNewFor shown.dropLast new) :
    t.writeThrough base path new text stuck = t.setInside base path text stuck := by
  obtain ⟨hd, hdir⟩ := locate_temporaryPath h
  obtain ⟨absent, -⟩ := isFreeAt_iff.1 hnew.free
  have rooted : t.IsRooted new := by
    obtain ⟨n, rfl⟩ := hnew.inside
    intro q hq hne
    rcases List.prefix_concat_iff.1 hq with rfl | hq
    · exact absurd rfl hne
    · exact isDirectoryAt_of_above hdir hq
  have directories (q : Place) :
      (t.setFile new (Text.encode text)).isDirectoryAt q = t.isDirectoryAt q :=
    isDirectoryAt_setFile_of_isRooted rooted q
  have way : (t.setFile new (Text.encode text)).locate base path = t.locate base path :=
    (Wider.setFile t new _).locate_of_parent hd hdir
  rw [writeThrough, setFile_setFile, replace, setInside, h, way]
  cases t.locate base path with
  | error fault => simp only [removeFile_setFile absent]
  | ok place =>
    simp only [directories]
    cases stuck with
    | true => simp only [if_true, removeFile_setFile absent]
    | false =>
      cases t.isDirectoryAt place with
      | true => simp [removeFile_setFile absent]
      | false => simp [moveFile_setFile absent]

end ApiBridge.FileTree
