import ApiBridge.Files.Tree
import Mathlib.Data.List.Infix
import Mathlib.Tactic.Lemma

/-!
# Places in trees

Where a path leads depends on the directories of a tree and on which of them can be entered. Three
relations of trees are told from that: in a wider tree no way is lost, a later tree still has what an
earlier one had, and trees of the same shape have directories and files at the same places.
-/

namespace ApiBridge

namespace Path

/-- The path can be used at all: it is not too long and has no character with the code zero. -/
def IsSound (p : Path) : Prop :=
  p.text.toList.contains '\x00' = false ∧ p.text.utf8ByteSize < pathLimit

/-- Where the names of the path start. -/
def start (base : Place) (p : Path) : Place :=
  if p.top = "" then base else []

@[simp] lemma start_parent (base : Place) (p : Path) : p.parent.start base = p.start base := rfl

@[simp] lemma start_child (base : Place) (p : Path) (n : String) :
    (p.child n).start base = p.start base := rfl

@[simp] lemma parent_child (p : Path) (n : String) : (p.child n).parent = p := by
  simp [child, parent]

lemma exists_intercalate_concat (ns : List String) (n : String) :
    ∃ rest, "/".intercalate (ns ++ [n]) = "/".intercalate ns ++ rest := by
  by_cases hns : ns = []
  · exact ⟨n, by simp [hns]⟩
  · refine ⟨"/" ++ n, ?_⟩
    rw [String.intercalate_append_of_ne_nil hns (by simp), String.append_assoc]
    simp

/-- The directory of a path that can be used can be used. -/
lemma IsSound.parent {p : Path} (h : p.IsSound) : p.parent.IsSound := by
  by_cases hp : p.top = "" ∧ p.parent.names = []
  · have dot : p.parent.text = "." := if_pos hp
    rw [IsSound, dot]
    decide +kernel
  · have shown : p.parent.text = p.top ++ "/".intercalate p.parent.names := if_neg hp
    have longer : ∃ rest, p.text = p.parent.text ++ rest := by
      rcases List.eq_nil_or_concat p.names with hn | ⟨ns, n, hn⟩
      · exact ⟨"", by rw [String.append_empty, Path.parent, hn, List.dropLast_nil, ← hn]⟩
      · obtain ⟨rest, hrest⟩ := exists_intercalate_concat ns n
        refine ⟨rest, ?_⟩
        rw [shown, text, if_neg (by simp [hn]), Path.parent, hn]
        simp [hrest, String.append_assoc]
    obtain ⟨rest, hrest⟩ := longer
    obtain ⟨hnull, hlength⟩ := h
    rw [hrest] at hnull hlength
    rw [String.utf8ByteSize_append] at hlength
    refine ⟨?_, by omega⟩
    rw [Bool.eq_false_iff] at hnull ⊢
    intro hc
    refine hnull ?_
    simp only [List.contains_iff_mem, String.toList_append, List.mem_append] at hc ⊢
    exact .inl hc

end Path

namespace FileTree

variable {t u v : FileTree} {base p q : Place} {path : Path} {bytes : List UInt8}

/-! ### Directories and files -/

lemma isDirectoryAt_iff : t.isDirectoryAt p = true ↔
    p = [] ∨ (∃ f ∈ t.files, p <+: f.1 ∧ p ≠ f.1) ∨ ∃ d ∈ t.directories, p <+: d := by
  simp [isDirectoryAt, or_assoc]

lemma isDirectoryAt_of_above (h : t.isDirectoryAt q = true) (hp : p <+: q) :
    t.isDirectoryAt p = true := by
  rw [isDirectoryAt_iff] at h ⊢
  rcases h with rfl | ⟨f, hf, hq, hne⟩ | ⟨d, hd, hq⟩
  · exact .inl (List.prefix_nil.1 hp)
  · refine .inr (.inl ⟨f, hf, hp.trans hq, ?_⟩)
    rintro rfl
    exact hne (hq.eq_of_length_le hp.length_le)
  · exact .inr (.inr ⟨d, hd, hp.trans hq⟩)

lemma isSome_fileAt?_iff : (t.fileAt? p).isSome = true ↔ ∃ f ∈ t.files, f.1 = p := by
  rw [fileAt?, ← Option.ne_none_iff_isSome, ne_eq, List.lookup_eq_none_iff]
  simp only [bne_iff_ne, ne_eq, not_forall, Decidable.not_not, exists_prop]
  exact exists_congr fun f => and_congr_right fun _ => eq_comm

lemma places_setFile : (t.setFile p bytes).files.map (·.1) =
    if (t.fileAt? p).isSome then t.files.map (·.1) else t.files.map (·.1) ++ [p] := by
  have found : (t.files.any (·.1 = p)) = (t.fileAt? p).isSome := by
    rw [Bool.eq_iff_iff, isSome_fileAt?_iff]
    simp
  rw [setFile, found]
  split
  · rw [List.map_map]
    refine List.map_congr_left fun f _ => ?_
    simp only [Function.comp_apply]
    split
    case isTrue h => exact h.symm
    case isFalse => rfl
  · simp

lemma lookup_replaced (fs : List (Place × List UInt8)) (hp : ∃ f ∈ fs, f.1 = p) :
    (fs.map fun f => if f.1 = p then (p, bytes) else f).lookup q =
      if q = p then some bytes else fs.lookup q := by
  induction fs with
  | nil => simp at hp
  | cons f fs ih =>
    obtain ⟨r, old⟩ := f
    by_cases hr : r = p
    · subst hr
      by_cases hq : q = r
      · simp [hq]
      · have rest : (fs.map fun f => if f.1 = r then (r, bytes) else f).lookup q = fs.lookup q := by
          by_cases hfs : ∃ f ∈ fs, f.1 = r
          · rw [ih hfs, if_neg hq]
          · rw [List.map_congr_left (g := id) (by grind), List.map_id]
        simp only [List.map_cons, if_true, List.lookup_cons, beq_eq_false_iff_ne.2 hq, if_neg hq,
          rest]
    · have hfs : ∃ f ∈ fs, f.1 = p := by simpa [hr] using hp
      by_cases hq : q = r
      · simp [hq, hr]
      · simp only [List.map_cons, hr, if_false, List.lookup_cons, beq_eq_false_iff_ne.2 hq, ih hfs]

/-- What is in the files after one of them is replaced. -/
lemma fileAt?_setFile (t : FileTree) (p q : Place) (bytes : List UInt8) :
    (t.setFile p bytes).fileAt? q = if q = p then some bytes else t.fileAt? q := by
  unfold fileAt? setFile
  split
  case isTrue h => exact lookup_replaced t.files (by simpa using h)
  case isFalse h =>
    have none_at : t.files.lookup p = none := by
      rw [List.lookup_eq_none_iff]
      intro f hf
      simp only [List.any_eq_true, decide_eq_true_eq, not_exists, not_and] at h
      simpa using Ne.symm (h f hf)
    rw [List.lookup_append]
    by_cases hq : q = p
    · simp [hq, none_at]
    · simp [hq, List.lookup_cons, beq_eq_false_iff_ne.2 hq]

lemma isDirectoryAt_setFile : (t.setFile p bytes).isDirectoryAt q = true ↔
    t.isDirectoryAt q = true ∨ q <+: p ∧ q ≠ p := by
  have files (s : FileTree) : (∃ f ∈ s.files, q <+: f.1 ∧ q ≠ f.1) ↔
      ∃ r ∈ s.files.map (·.1), q <+: r ∧ q ≠ r := by simp
  have directories : (t.setFile p bytes).directories = t.directories := rfl
  rw [isDirectoryAt_iff, isDirectoryAt_iff, files, places_setFile, directories, files]
  split
  case isTrue h =>
    obtain ⟨f, hf, rfl⟩ := isSome_fileAt?_iff.1 h
    have : f.1 ∈ t.files.map (·.1) := List.mem_map_of_mem hf
    grind
  case isFalse => simp only [List.mem_append, List.mem_singleton]; grind

lemma fileAt?_replaceFile (t : FileTree) (p q : Place) (bytes : List UInt8) :
    (t.replaceFile p bytes).fileAt? q = if q = p then some bytes else t.fileAt? q :=
  fileAt?_setFile t p q bytes

lemma isDirectoryAt_replaceFile : (t.replaceFile p bytes).isDirectoryAt q = true ↔
    t.isDirectoryAt q = true ∨ q <+: p ∧ q ≠ p :=
  isDirectoryAt_setFile

/-! ### Ways -/

lemma walk_append (ns ms : List String) :
    t.walk p (ns ++ ms) = t.walk p ns >>= fun q => t.walk q ms := by
  induction ns generalizing p with
  | nil => rfl
  | cons n ns ih =>
    simp only [List.cons_append, walk]
    split
    · split
      · rfl
      · split
        · rfl
        · exact ih
    · rfl

lemma walk_cons_eq_ok_iff {n : String} {ns : List String} : t.walk p (n :: ns) = .ok q ↔
    t.isDirectoryAt p = true ∧ p ∉ t.closed ∧ n.utf8ByteSize ≤ nameLimit ∧
      t.walk (if n = ".." then p.dropLast else p ++ [n]) ns = .ok q := by
  simp only [walk, List.contains_iff_mem]
  split
  case isTrue hd =>
    split
    case isTrue hc => simp [hd, hc]
    case isFalse hc =>
      split
      case isTrue hn => simp [hd, hc, Nat.not_le.2 hn]
      case isFalse hn => simp [hd, hc, Nat.not_lt.1 hn]
  case isFalse hd => simp [hd]

/-- All above a place are directories. -/
def IsRooted (t : FileTree) (p : Place) : Prop :=
  ∀ q, q <+: p → q ≠ p → t.isDirectoryAt q = true

lemma IsRooted.of_isDirectoryAt (h : t.isDirectoryAt p = true) : t.IsRooted p := by
  intro q hq _
  exact isDirectoryAt_of_above h hq

lemma IsRooted.walk {ns : List String} (hp : t.IsRooted p) (h : t.walk p ns = .ok q) :
    t.IsRooted q := by
  induction ns generalizing p with
  | nil =>
    cases h
    exact hp
  | cons n ns ih =>
    obtain ⟨hd, -, -, h⟩ := walk_cons_eq_ok_iff.1 h
    refine ih ?_ h
    split
    · have above := List.dropLast_prefix p
      exact .of_isDirectoryAt (isDirectoryAt_of_above hd above)
    · intro r hr hne
      rcases List.prefix_concat_iff.1 hr with rfl | hr
      · exact absurd rfl hne
      · exact isDirectoryAt_of_above hd hr

/-- The directories of a tree are there in another, and the same ones can be entered. -/
structure Wider (t u : FileTree) : Prop where
  directories : ∀ p, t.isDirectoryAt p = true → u.isDirectoryAt p = true
  closed : u.closed = t.closed

lemma Wider.walk (h : Wider t u) {ns : List String} (hw : t.walk p ns = .ok q) :
    u.walk p ns = .ok q := by
  induction ns generalizing p with
  | nil => exact hw
  | cons n ns ih =>
    obtain ⟨hd, hc, hn, hw⟩ := walk_cons_eq_ok_iff.1 hw
    rw [← h.closed] at hc
    exact walk_cons_eq_ok_iff.2 ⟨h.directories p hd, hc, hn, ih hw⟩

lemma locate_of_sound (h : path.IsSound) :
    t.locate base path = t.walk (path.start base) path.names := by
  rw [locate, h.1, if_neg Bool.false_ne_true, if_neg (Nat.not_le.2 h.2), Path.start]

lemma locate_eq_ok_iff : t.locate base path = .ok p ↔
    path.IsSound ∧ t.walk (path.start base) path.names = .ok p := by
  constructor
  · intro h
    have sound : path.IsSound := by
      rw [locate] at h
      split at h
      case isTrue => cases h
      case isFalse hnull =>
        split at h
        case isTrue => cases h
        case isFalse hlength => exact ⟨Bool.eq_false_iff.2 hnull, Nat.not_le.1 hlength⟩
    rw [locate_of_sound sound] at h
    exact ⟨sound, h⟩
  · rintro ⟨sound, h⟩
    rw [locate_of_sound sound, h]

lemma Wider.locate (h : Wider t u) (hl : t.locate base path = .ok p) :
    u.locate base path = .ok p := by
  rw [locate_eq_ok_iff] at hl ⊢
  exact ⟨hl.1, h.walk hl.2⟩

lemma Wider.setFile (t : FileTree) (p : Place) (bytes : List UInt8) :
    Wider t (t.setFile p bytes) where
  directories := fun _ h => isDirectoryAt_setFile.2 (.inl h)
  closed := rfl

lemma Wider.replaceFile (t : FileTree) (p : Place) (bytes : List UInt8) :
    Wider t (t.replaceFile p bytes) where
  directories := (Wider.setFile t p bytes).directories
  closed := rfl

/-- Whether something is at the end of a path cannot be told. -/
inductive IsHidden (t : FileTree) (base : Place) (path : Path) : Prop
  /-- The path, or a name in it, is longer than the file system takes. -/
  | tooLong (hl : t.locate base path = .error .nameTooLong)
  /-- A directory on the way cannot be entered. -/
  | denied (hl : t.locate base path = .error .denied)

/-- Looking for a file is impossible exactly where it is hidden. -/
lemma find_fails_iff : (∃ e, t.find base path = .error e) ↔ t.IsHidden base path := by
  constructor
  · rintro ⟨e, h⟩
    unfold find at h
    cases hl : t.locate base path with
    | ok p => simp [hl] at h
    | error fault =>
      cases fault with
      | denied => exact .denied hl
      | nameTooLong => exact .tooLong hl
      | missing | notDirectory | nullCharacter => simp [hl, PathFault.isObstacle] at h
  · rintro (hl | hl)
    · exact ⟨_, by rw [find, hl]; rfl⟩
    · exact ⟨_, by rw [find, hl]; rfl⟩

/-- The way to something in a directory goes through that directory. -/
lemma locate_child {n : String} (h : t.locate base (path.child n) = .ok p) :
    ∃ d, t.locate base path = .ok d ∧ t.isDirectoryAt d = true ∧
      p = if n = ".." then d.dropLast else d ++ [n] := by
  obtain ⟨sound, hw⟩ := locate_eq_ok_iff.1 h
  rw [Path.start_child, Path.child, walk_append] at hw
  obtain ⟨d, hd, hw⟩ : ∃ d, t.walk (path.start base) path.names = .ok d ∧ t.walk d [n] = .ok p := by
    revert hw
    cases hd : t.walk (path.start base) path.names with
    | ok d => exact fun hw => ⟨d, rfl, hw⟩
    | error e => exact fun hw => nomatch hw
  obtain ⟨hdir, -, -, hp⟩ := walk_cons_eq_ok_iff.1 hw
  have parent_sound : path.IsSound := by
    simpa using sound.parent
  refine ⟨d, locate_eq_ok_iff.2 ⟨parent_sound, hd⟩, hdir, ?_⟩
  cases hp
  rfl

lemma eq_child_parent (h : path.names ≠ []) : path = path.parent.child path.name := by
  obtain ⟨top, names⟩ := path
  rcases List.eq_nil_or_concat names with rfl | ⟨ns, n, rfl⟩
  · exact absurd rfl h
  · simp [Path.parent, Path.child, Path.name]

/-- The way to what has a name above it goes through the directory of that name. -/
lemma locate_parent (hn : path.names ≠ []) (h : t.locate base path = .ok p) :
    ∃ d, t.locate base path.parent = .ok d ∧ t.isDirectoryAt d = true := by
  rw [eq_child_parent hn] at h
  obtain ⟨d, hd, hdir, -⟩ := locate_child h
  exact ⟨d, hd, hdir⟩

lemma isDirectoryAt_start_of_child {n : String} (h : t.locate base (path.child n) = .ok p) :
    t.isDirectoryAt (path.start base) = true := by
  obtain ⟨-, hw⟩ := locate_eq_ok_iff.1 h
  rw [Path.start_child] at hw
  cases hns : (path.child n).names with
  | nil => simp [Path.child] at hns
  | cons m ms =>
    rw [hns] at hw
    exact (walk_cons_eq_ok_iff.1 hw).1

/-! ### Later trees -/

/-- What a tree has is still there in another: directories, files, files that are no directories,
and files that can be opened. -/
structure Later (t u : FileTree) : Prop extends Wider t u where
  files : ∀ p, (t.fileAt? p).isSome = true → (u.fileAt? p).isSome = true
  solid : ∀ p, (t.fileAt? p).isSome = true → t.isDirectoryAt p = false → u.isDirectoryAt p = false
  opened : ∀ p, p ∉ t.locked → p ∉ u.locked

lemma Later.refl (t : FileTree) : Later t t where
  directories := fun _ h => h
  closed := rfl
  files := fun _ h => h
  solid := fun _ _ h => h
  opened := fun _ h => h

lemma Later.trans (htu : Later t u) (huv : Later u v) : Later t v where
  directories := fun p h => huv.directories p (htu.directories p h)
  closed := huv.closed.trans htu.closed
  files := fun p h => huv.files p (htu.files p h)
  solid := fun p hf h => huv.solid p (htu.files p hf) (htu.solid p hf h)
  opened := fun p h => huv.opened p (htu.opened p h)

lemma Later.setFile (hp : t.IsRooted p) : Later t (t.setFile p bytes) where
  toWider := .setFile t p bytes
  files := by
    intro q h
    rw [fileAt?_setFile]
    split
    · rfl
    · exact h
  solid := by
    intro q _ h
    rw [Bool.eq_false_iff] at h ⊢
    intro hd
    rcases isDirectoryAt_setFile.1 hd with hd | ⟨hq, hne⟩
    · exact h hd
    · exact h (hp q hq hne)
  opened := fun _ h => h

lemma Later.replaceFile (hp : t.IsRooted p) : Later t (t.replaceFile p bytes) where
  toWider := .replaceFile t p bytes
  files := (Later.setFile hp : Later t (t.setFile p bytes)).files
  solid := (Later.setFile hp : Later t (t.setFile p bytes)).solid
  opened := fun _ h hq => h (List.mem_of_mem_filter hq)

/-! ### Trees of the same shape -/

/-- Two trees have directories and files at the same places, and the same of them are closed and
locked. -/
structure SameShape (t u : FileTree) : Prop where
  directories : ∀ p, t.isDirectoryAt p = u.isDirectoryAt p
  files : ∀ p, (t.fileAt? p).isSome = (u.fileAt? p).isSome
  closed : t.closed = u.closed
  locked : t.locked = u.locked

lemma SameShape.refl (t : FileTree) : SameShape t t :=
  ⟨fun _ => rfl, fun _ => rfl, rfl, rfl⟩

lemma SameShape.symm (h : SameShape t u) : SameShape u t :=
  ⟨fun p => (h.directories p).symm, fun p => (h.files p).symm, h.closed.symm, h.locked.symm⟩

lemma SameShape.trans (htu : SameShape t u) (huv : SameShape u v) : SameShape t v :=
  ⟨fun p => (htu.directories p).trans (huv.directories p),
    fun p => (htu.files p).trans (huv.files p), htu.closed.trans huv.closed,
    htu.locked.trans huv.locked⟩

lemma SameShape.later (h : SameShape t u) : Later t u where
  directories := by
    intro p hd
    rw [← h.directories, hd]
  closed := h.closed.symm
  files := by
    intro p hf
    rw [← h.files, hf]
  solid := by
    intro p _ hd
    rw [← h.directories, hd]
  opened := by
    intro p hp
    rwa [← h.locked]

lemma SameShape.walk (h : SameShape t u) (p : Place) (ns : List String) :
    t.walk p ns = u.walk p ns := by
  induction ns generalizing p with
  | nil => rfl
  | cons n ns ih => simp only [FileTree.walk, h.directories, h.files, h.closed, ih]

lemma SameShape.locate (h : SameShape t u) (base : Place) (path : Path) :
    t.locate base path = u.locate base path := by
  simp only [FileTree.locate, h.walk]

/-- A file that is there and can be opened is replaced without a change of the shape. -/
lemma SameShape.replaceFile (hf : (t.fileAt? p).isSome = true) (ho : p ∉ t.locked) :
    SameShape t (t.replaceFile p bytes) where
  directories := by
    intro q
    rw [Bool.eq_iff_iff, isDirectoryAt_replaceFile, iff_self_or]
    rintro ⟨hq, hne⟩
    obtain ⟨f, hmem, rfl⟩ := isSome_fileAt?_iff.1 hf
    exact isDirectoryAt_iff.2 (.inr (.inl ⟨f, hmem, hq, hne⟩))
  files := by
    intro q
    rw [fileAt?_replaceFile]
    split
    case isTrue h => rw [h, hf, Option.isSome_some]
    case isFalse => rfl
  closed := rfl
  locked := by
    refine (List.filter_eq_self.2 fun q hq => decide_eq_true ?_).symm
    rintro rfl
    exact ho hq

/-- Setting a file at one place in trees of the same shape gives trees of the same shape. -/
lemma SameShape.setFile_both (h : SameShape t u) {more : List UInt8} :
    SameShape (t.setFile p bytes) (u.setFile p more) where
  directories := by
    intro q
    rw [Bool.eq_iff_iff, isDirectoryAt_setFile, isDirectoryAt_setFile, h.directories]
  files := by
    intro q
    rw [fileAt?_setFile, fileAt?_setFile]
    split
    · rfl
    · exact h.files q
  closed := h.closed
  locked := h.locked

/-- So does replacing a file. -/
lemma SameShape.replaceFile_both (h : SameShape t u) {more : List UInt8} :
    SameShape (t.replaceFile p bytes) (u.replaceFile p more) where
  directories :=
    (h.setFile_both : SameShape (t.setFile p bytes) (u.setFile p more)).directories
  files := (h.setFile_both : SameShape (t.setFile p bytes) (u.setFile p more)).files
  closed := h.closed
  locked := by simp only [FileTree.replaceFile, h.locked]

end FileTree

end ApiBridge
