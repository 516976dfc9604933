import ApiBridge.Proofs.Files.Replacing

/-!
# Writing files

A file that is written is found at its place, with its directory above it, and everything else is as
before. How writing goes depends on the path and on the shape of the tree: not on what is written,
and not on what is in the files. So a file that has been written once can be written again, and what
has failed fails again.
-/

namespace ApiBridge.FileTree

variable {t u v : FileTree} {base p q : Place} {path : Path}

/-! ### One directory -/

/-- A tree with one more directory. -/
def withDirectory (t : FileTree) (p : Place) : FileTree :=
  { t with directories := t.directories ++ [p] }

lemma isDirectoryAt_withDirectory :
    (t.withDirectory p).isDirectoryAt q = true ↔ t.isDirectoryAt q = true ∨ q <+: p := by
  simp only [isDirectoryAt_iff, withDirectory, List.mem_append, List.mem_singleton]
  grind

lemma Wider.withDirectory (t : FileTree) (p : Place) : Wider t (t.withDirectory p) where
  directories := fun _ h => isDirectoryAt_withDirectory.2 (.inl h)
  closed := rfl

lemma Later.withDirectory (hp : t.IsRooted p) (hf : (t.fileAt? p).isSome = false) :
    Later t (t.withDirectory p) where
  toWider := .withDirectory t p
  files := fun q h => h
  solid := by
    intro q hq h
    rw [Bool.eq_false_iff] at h ⊢
    intro hd
    rcases isDirectoryAt_withDirectory.1 hd with hd | hd
    · exact h hd
    · by_cases hqp : q = p
      · rw [hqp, hf] at hq
        cases hq
      · exact h (hp q hd hqp)
  opened := fun _ h => h

lemma SameShape.withDirectory (h : SameShape t u) (p : Place) :
    SameShape (t.withDirectory p) (u.withDirectory p) where
  directories := by
    intro q
    rw [Bool.eq_iff_iff, isDirectoryAt_withDirectory, isDirectoryAt_withDirectory, h.directories]
  files := h.files
  closed := h.closed
  locked := h.locked

/-- A directory is ensured at the path, with the one above it as it is. -/
def ensureOne (t : FileTree) (base : Place) (path : Path) : Written :=
  t.ensured base path (t.makeOne base path)

/-- How one directory is ensured: it is made, it is there, or neither. -/
inductive EnsuresOne (t : FileTree) (base : Place) (path : Path) : Written → Prop
  | made {p : Place} (hl : t.locate base path = .ok p) (hf : (t.fileAt? p).isSome = false)
    (hd : t.isDirectoryAt p = false) : EnsuresOne t base path (t.withDirectory p, none)
  | there {p : Place} (hl : t.locate base path = .ok p) (hd : t.isDirectoryAt p = true) :
    EnsuresOne t base path (t, none)
  | failed (e : FileError) (h : ∀ p, t.locate base path = .ok p → t.isDirectoryAt p = false) :
    EnsuresOne t base path (t, some e)

lemma ensuresOne {w : Written} (h : t.ensureOne base path = w) : EnsuresOne t base path w := by
  subst h
  unfold ensureOne makeOne
  cases hl : t.locate base path with
  | error fault =>
    simp only [ensured, hl]
    exact .failed _ (by simp [hl])
  | ok p =>
    cases hd : t.isDirectoryAt p with
    | true =>
      simp only [hd, Bool.or_true, if_true, ensured, hl]
      exact .there hl hd
    | false =>
      cases hf : (t.fileAt? p).isSome with
      | true =>
        simp only [hf, hd, Bool.or_false, if_true, ensured, hl, Bool.false_eq_true, if_false]
        exact .failed _ (by simp [hl, hd])
      | false =>
        simp only [hf, hd, Bool.or_false, Bool.false_eq_true, if_false, ensured]
        exact .made hl hf hd

lemma SameShape.ensureOne (h : SameShape t u) (base : Place) (path : Path) :
    (t.ensureOne base path).2 = (u.ensureOne base path).2 ∧
      SameShape (t.ensureOne base path).1 (u.ensureOne base path).1 := by
  unfold FileTree.ensureOne makeOne
  rw [h.locate]
  cases hl : u.locate base path with
  | error fault => simpa only [ensured, h.locate, hl, true_and] using h
  | ok p =>
    simp only [h.files, h.directories]
    split
    case isTrue => simpa only [ensured, h.locate, hl, h.directories, true_and] using h
    case isFalse => exact ⟨rfl, h.withDirectory p⟩

lemma fileAt?_ensureOne (t : FileTree) (base : Place) (path : Path) (p : Place) :
    (t.ensureOne base path).1.fileAt? p = t.fileAt? p := by
  generalize hw : t.ensureOne base path = w
  cases ensuresOne hw with
  | made _ _ _ => rfl
  | there _ _ => rfl
  | failed _ _ => rfl

lemma isDirectoryAt_ensureOne (h : t.ensureOne base path = (u, none)) :
    ∃ p, u.locate base path = .ok p ∧ u.isDirectoryAt p = true := by
  cases ensuresOne h with
  | @made p hl _ _ =>
    exact ⟨p, (Wider.withDirectory t p).locate hl, isDirectoryAt_withDirectory.2 (.inr List.prefix_rfl)⟩
  | @there p hl hd => exact ⟨p, hl, hd⟩

lemma ensureOne_of_isDirectoryAt (hl : t.locate base path = .ok p)
    (hd : t.isDirectoryAt p = true) : t.ensureOne base path = (t, none) := by
  generalize hw : t.ensureOne base path = w
  cases ensuresOne hw with
  | made hl' _ hd' =>
    cases hl.symm.trans hl'
    rw [hd] at hd'
    cases hd'
  | there _ _ => rfl
  | failed e none_there =>
    rw [none_there p hl] at hd
    cases hd

lemma Later.ensureOne (hs : t.isDirectoryAt (path.start base) = true) :
    Later t (t.ensureOne base path).1 := by
  generalize hw : t.ensureOne base path = w
  cases ensuresOne hw with
  | made hl hf _ =>
    refine .withDirectory ?_ hf
    exact (IsRooted.of_isDirectoryAt hs).walk (locate_eq_ok_iff.1 hl).2
  | there _ _ => exact .refl t
  | failed _ _ => exact .refl t

/-! ### Directories and those above them -/

/-- Something holds of all paths if it holds of each path once it holds of the directory of it. -/
lemma parent_induction {motive : Path → Prop}
    (step : ∀ path, (path.names ≠ [] → motive path.parent) → motive path) (path : Path) :
    motive path := by
  induction hn : path.names.length generalizing path with
  | zero => exact step path fun h => absurd (List.length_eq_zero_iff.1 hn) h
  | succ n ih =>
    refine step path fun _ => ih path.parent ?_
    rw [Path.parent, List.length_dropLast, hn, Nat.add_sub_cancel]

lemma names_ne_nil_of_missing (h : t.locate base path = .error .missing) : path.names ≠ [] := by
  intro hn
  rw [locate, hn] at h
  split at h
  · cases h
  · split at h
    · cases h
    · cases h

/-- Where a directory is missing on the way, it is made first. -/
lemma makeDirectory_of_missing (h : t.locate base path = .error .missing) :
    t.makeDirectory base path =
      match t.makeDirectory base path.parent with
      | (s, some e) => (s, some e)
      | (s, none) => s.ensureOne base path := by
  rw [makeDirectory, makeOne, h]
  simp only [names_ne_nil_of_missing h, dite_false]
  rfl

lemma makeDirectory_of_not_missing (h : t.locate base path ≠ .error .missing) :
    t.makeDirectory base path = t.ensureOne base path := by
  rw [makeDirectory, ensureOne, makeOne]
  cases hl : t.locate base path with
  | error fault =>
    cases fault with
    | missing => exact absurd hl h
    | notDirectory => rfl
    | denied => rfl
    | nameTooLong => rfl
    | nullCharacter => rfl
  | ok p =>
    simp only
    split
    · rename_i heq
      split at heq
      · cases heq
      · cases heq
    · rfl

/-- How a directory is made: in one step, or after the one above it. -/
inductive MakesDirectory (t : FileTree) (base : Place) : Path → Written → Prop
  | one {path : Path} (hl : t.locate base path ≠ .error .missing) :
    MakesDirectory t base path (t.ensureOne base path)
  | after {path : Path} {s : FileTree} (hl : t.locate base path = .error .missing)
    (above : MakesDirectory t base path.parent (s, none)) :
    MakesDirectory t base path (s.ensureOne base path)
  | stopped {path : Path} {s : FileTree} {e : FileError}
    (hl : t.locate base path = .error .missing)
    (above : MakesDirectory t base path.parent (s, some e)) :
    MakesDirectory t base path (s, some e)

lemma makesDirectory_iff {w : Written} :
    MakesDirectory t base path w ↔ t.makeDirectory base path = w := by
  constructor
  · intro made
    induction made with
    | one hl => rw [makeDirectory_of_not_missing hl]
    | after hl _ ih => rw [makeDirectory_of_missing hl, ih]
    | stopped hl _ ih => rw [makeDirectory_of_missing hl, ih]
  · rintro rfl
    induction path using parent_induction with
    | step path ih =>
      by_cases hl : t.locate base path = .error .missing
      · have above := ih (names_ne_nil_of_missing hl)
        rw [makeDirectory_of_missing hl]
        split
        case h_1 s e hm => exact .stopped hl (hm ▸ above)
        case h_2 s hm => exact .after hl (hm ▸ above)
      · rw [makeDirectory_of_not_missing hl]
        exact .one hl

namespace MakesDirectory

variable {w : Written}

/-- Making a directory leaves all files as they are. -/
lemma fileAt? (h : MakesDirectory t base path w) (p : Place) : w.1.fileAt? p = t.fileAt? p := by
  induction h with
  | one _ => exact fileAt?_ensureOne t base _ p
  | after _ _ ih => rw [fileAt?_ensureOne, ih]
  | stopped _ _ ih => exact ih

/-- A directory that is made is there. -/
lemma isDirectoryAt (h : MakesDirectory t base path (u, none)) :
    ∃ p, u.locate base path = .ok p ∧ u.isDirectoryAt p = true := by
  generalize hw : (u, none) = w at h
  cases h with
  | one _ => exact isDirectoryAt_ensureOne hw.symm
  | after _ _ => exact isDirectoryAt_ensureOne hw.symm
  | stopped _ _ => cases hw

/-- A directory that is there need not be made. -/
lemma of_isDirectoryAt (hl : t.locate base path = .ok p) (hd : t.isDirectoryAt p = true) :
    MakesDirectory t base path (t, none) := by
  rw [← ensureOne_of_isDirectoryAt hl hd]
  exact .one (by simp [hl])

/-- A tree is later after a directory is made, if the way to it starts at a directory. -/
lemma later (h : MakesDirectory t base path w) (hs : t.isDirectoryAt (path.start base) = true) :
    Later t w.1 := by
  induction h with
  | one _ => exact .ensureOne hs
  | after _ _ ih => exact (ih hs).trans (.ensureOne ((ih hs).directories _ hs))
  | stopped _ _ ih => exact ih hs

/-- A directory that cannot be made cannot be made in what is left then. -/
lemma fails_again {e : FileError} (h : MakesDirectory t base path (u, some e)) :
    ∃ e s, MakesDirectory u base path (s, some e) := by
  generalize hw : (u, some e) = w at h
  induction h generalizing e with
  | @one path hl =>
    cases ensuresOne hw.symm
    exact ⟨e, t, hw ▸ .one hl⟩
  | @after path s hl above _ =>
    cases ensuresOne hw.symm
    refine ⟨e, u, ?_⟩
    rw [hw]
    by_cases hl' : u.locate base path = .error .missing
    · obtain ⟨d, hd, hdir⟩ := above.isDirectoryAt
      exact .after hl' (of_isDirectoryAt hd hdir)
    · exact .one hl'
  | @stopped path s e' hl _ ih =>
    cases hw
    obtain ⟨e₁, s₁, above⟩ := ih rfl
    by_cases hl' : u.locate base path = .error .missing
    · exact ⟨e₁, s₁, .stopped hl' above⟩
    · -- What is not missing has its directory above it, which then would not fail.
      have none_located (p : Place) : u.locate base path ≠ .ok p := by
        intro hp
        obtain ⟨d, hd, hdir⟩ := locate_parent (names_ne_nil_of_missing hl) hp
        have made := makesDirectory_iff.1 (of_isDirectoryAt hd hdir)
        cases made.symm.trans (makesDirectory_iff.1 above)
      have one := MakesDirectory.one hl'
      generalize hu : u.ensureOne base path = w at one
      cases ensuresOne hu with
      | made hp _ _ => exact absurd hp (none_located _)
      | there hp _ => exact absurd hp (none_located _)
      | failed e _ => exact ⟨e, u, one⟩

end MakesDirectory

/-- In trees of one shape a directory is made in the same way. -/
lemma SameShape.makeDirectory (h : SameShape t u) (base : Place) (path : Path) :
    (t.makeDirectory base path).2 = (u.makeDirectory base path).2 ∧
      SameShape (t.makeDirectory base path).1 (u.makeDirectory base path).1 := by
  induction path using parent_induction with
  | step path ih =>
    by_cases hl : t.locate base path = .error .missing
    · have hl' : u.locate base path = .error .missing := by rw [← h.locate, hl]
      rw [makeDirectory_of_missing hl, makeDirectory_of_missing hl']
      obtain ⟨same, shape⟩ := ih (names_ne_nil_of_missing hl)
      revert same shape
      generalize t.makeDirectory base path.parent = w
      generalize u.makeDirectory base path.parent = w'
      obtain ⟨s, r⟩ := w
      obtain ⟨s', r'⟩ := w'
      rintro rfl shape
      cases r with
      | none => exact shape.ensureOne base path
      | some e => exact ⟨rfl, shape⟩
    · have hl' : u.locate base path ≠ .error .missing := by rwa [← h.locate]
      rw [makeDirectory_of_not_missing hl, makeDirectory_of_not_missing hl']
      exact h.ensureOne base path

/-! ### Files -/

/-- Writing a file makes its directory and sets the file there. -/
lemma write_eq (t : FileTree) (base : Place) (path : Path) (text : String) (stuck : Bool) :
    t.write base path text stuck =
      match t.makeDirectory base path.parent with
      | (s, some e) => (s, some e)
      | (s, none) => s.setInside base path text stuck := by
  rw [write]
  rcases t.makeDirectory base path.parent with ⟨s, e | _⟩
  · cases h : s.locate base (temporaryPath path) with
    | error fault => simp only [setInside, h]
    | ok shown =>
      simp only [h]
      exact writeThrough_eq_setInside h (isNewFor_freePlace s shown.dropLast path.name)
  · rfl

/-- How a file is set in a directory that is there. -/
inductive SetsInside (t : FileTree) (base : Place) (path : Path) (text : String) : Written → Prop
  | failed (e : FileError) : SetsInside t base path text (t, some e)
  | set {temporary p : Place} (ht : t.locate base (temporaryPath path) = .ok temporary)
    (hl : t.locate base path = .ok p) (hd : t.isDirectoryAt p = false) :
    SetsInside t base path text (t.replaceFile p (Text.encode text), none)

lemma setsInside {text : String} {stuck : Bool} {w : Written}
    (h : t.setInside base path text stuck = w) : SetsInside t base path text w := by
  subst h
  unfold setInside
  split
  case h_1 => exact .failed _
  case h_2 => exact .failed _
  case h_3 temporary p ht hl =>
    split
    case isTrue => exact .failed _
    case isFalse =>
      split
      case isTrue => exact .failed _
      case isFalse hd => exact .set ht hl (Bool.eq_false_iff.2 hd)

lemma SameShape.setInside (h : SameShape t u) (base : Place) (path : Path) (text more : String)
    (stuck : Bool) :
    (t.setInside base path text stuck).2 = (u.setInside base path more stuck).2 ∧
      SameShape (t.setInside base path text stuck).1 (u.setInside base path more stuck).1 := by
  unfold FileTree.setInside
  rw [h.locate, h.locate]
  split
  case h_1 => exact ⟨rfl, h⟩
  case h_2 => exact ⟨rfl, h⟩
  case h_3 temporary p _ _ =>
    rw [h.directories]
    split
    case isTrue => exact ⟨rfl, h⟩
    case isFalse =>
      split
      case isTrue => exact ⟨rfl, h⟩
      case isFalse => exact ⟨rfl, h.replaceFile_both⟩

/-- How a file is written: its directory cannot be made, or it is made and the file is set. -/
inductive Writes (t : FileTree) (base : Place) (path : Path) (text : String) (stuck : Bool) :
    Written → Prop
  | noDirectory {s : FileTree} {e : FileError}
    (made : MakesDirectory t base path.parent (s, some e)) :
    Writes t base path text stuck (s, some e)
  | inside {s : FileTree} (made : MakesDirectory t base path.parent (s, none)) :
    Writes t base path text stuck (s.setInside base path text stuck)

lemma writes_iff {text : String} {stuck : Bool} {w : Written} :
    Writes t base path text stuck w ↔ t.write base path text stuck = w := by
  constructor
  · intro written
    cases written with
    | noDirectory made => rw [write_eq, makesDirectory_iff.1 made]
    | inside made => rw [write_eq, makesDirectory_iff.1 made]
  · rintro rfl
    rw [write_eq]
    split
    case h_1 made => exact .noDirectory (makesDirectory_iff.2 made)
    case h_2 made => exact .inside (makesDirectory_iff.2 made)

/-- A file that can be read and written again: it is there, and so is the directory that it is in. -/
structure Settled (t : FileTree) (base : Place) (path : Path) (p : Place) : Prop where
  directory : ∃ d, t.locate base path.parent = .ok d ∧ t.isDirectoryAt d = true
  temporary : ∃ q, t.locate base (temporaryPath path) = .ok q
  located : t.locate base path = .ok p
  file : (t.fileAt? p).isSome = true
  solid : t.isDirectoryAt p = false
  opened : p ∉ t.locked

namespace Settled

lemma start (h : t.Settled base path p) : t.isDirectoryAt (path.start base) = true := by
  obtain ⟨q, hq⟩ := h.temporary
  rw [← Path.start_parent]
  exact isDirectoryAt_start_of_child hq

lemma later (h : t.Settled base path p) (hu : Later t u) : u.Settled base path p := by
  obtain ⟨d, hd, hdir⟩ := h.directory
  obtain ⟨q, hq⟩ := h.temporary
  exact {
    directory := ⟨d, hu.locate hd, hu.directories d hdir⟩
    temporary := ⟨q, hu.locate hq⟩
    located := hu.locate h.located
    file := hu.files p h.file
    solid := hu.solid p h.file h.solid
    opened := hu.opened p h.opened }

/-- It is found and opened. -/
lemma find (h : t.Settled base path p) :
    t.find base path = .ok ((t.fileAt? p).map .ok) := by
  simp [FileTree.find, h.located, h.opened]

/-- Writing it again replaces the file and does nothing else. -/
lemma write (h : t.Settled base path p) (text : String) :
    t.write base path text false = (t.replaceFile p (Text.encode text), none) := by
  obtain ⟨d, hd, hdir⟩ := h.directory
  obtain ⟨q, hq⟩ := h.temporary
  rw [write_eq, makesDirectory_iff.1 (.of_isDirectoryAt hd hdir)]
  simp only [setInside, hq, h.located, h.solid, Bool.false_eq_true, if_false]

end Settled

variable {text : String} {stuck : Bool}

/-- A file that is written is settled with its text, and no other file has changed. -/
lemma settled_of_write (h : t.write base path text stuck = (u, none)) :
    ∃ p, u.Settled base path p ∧
      ∀ q, u.fileAt? q = if q = p then some (Text.encode text) else t.fileAt? q := by
  rw [← writes_iff] at h
  generalize hw : (u, none) = w at h
  cases h with
  | noDirectory _ => cases hw
  | @inside s made =>
    cases setsInside hw.symm with
    | @set temporary p ht hl hd =>
      obtain ⟨d, hparent, hdir⟩ := made.isDirectoryAt
      have wider := Wider.replaceFile s p (Text.encode text)
      refine ⟨p, ⟨⟨d, wider.locate hparent, wider.directories d hdir⟩, ⟨_, wider.locate ht⟩,
        wider.locate hl, ?_, ?_, by simp [replaceFile]⟩, fun q => ?_⟩
      · rw [fileAt?_replaceFile, if_pos rfl, Option.isSome_some]
      · rw [Bool.eq_false_iff] at hd ⊢
        intro hp
        rcases isDirectoryAt_replaceFile.1 hp with hp | ⟨-, hne⟩
        · exact hd hp
        · exact hne rfl
      · rw [fileAt?_replaceFile, made.fileAt?]

/-- A file that is written is read back. -/
lemma find_of_write (h : t.write base path text stuck = (u, none)) :
    u.find base path = .ok (some (.ok (Text.encode text))) := by
  obtain ⟨p, settled, contents⟩ := settled_of_write h
  rw [settled.find, contents, if_pos rfl, Option.map_some]

/-- Where a file cannot be written, no file has changed. -/
lemma fileAt?_of_write_error {e : FileError} (h : t.write base path text stuck = (u, some e))
    (q : Place) : u.fileAt? q = t.fileAt? q := by
  rw [← writes_iff] at h
  generalize hw : (u, some e) = w at h
  cases h with
  | noDirectory made =>
    cases hw
    exact made.fileAt? q
  | inside made =>
    cases setsInside hw.symm
    exact made.fileAt? q

/-- A tree is later after a file is written, if the way to it starts at a directory. -/
lemma Later.write (hs : t.isDirectoryAt (path.start base) = true) :
    Later t (t.write base path text stuck).1 := by
  generalize hw : t.write base path text stuck = w
  cases writes_iff.2 hw with
  | noDirectory made => exact made.later hs
  | @inside s made =>
    have directory : Later t s := made.later hs
    refine directory.trans ?_
    generalize hset : s.setInside base path text stuck = w
    cases setsInside hset with
    | failed e => exact .refl s
    | set _ hl _ =>
      refine .replaceFile (IsRooted.walk ?_ (locate_eq_ok_iff.1 hl).2)
      exact .of_isDirectoryAt (directory.directories _ hs)

/-- In trees of one shape any two texts are written in the same way. -/
lemma SameShape.write (h : SameShape t u) (base : Place) (path : Path) (text more : String)
    (stuck : Bool) :
    (t.write base path text stuck).2 = (u.write base path more stuck).2 ∧
      SameShape (t.write base path text stuck).1 (u.write base path more stuck).1 := by
  obtain ⟨same, shape⟩ := h.makeDirectory base path.parent
  rw [write_eq, write_eq]
  revert same shape
  generalize t.makeDirectory base path.parent = w
  generalize u.makeDirectory base path.parent = w'
  obtain ⟨s, r⟩ := w
  obtain ⟨s', r'⟩ := w'
  rintro rfl shape
  cases r with
  | none => exact shape.setInside base path text more stuck
  | some e => exact ⟨rfl, shape⟩

/-- A file that cannot be written cannot be written to what is left then. -/
lemma write_fails_again {e : FileError} (h : t.write base path text stuck = (u, some e)) :
    ∃ e, (u.write base path text stuck).2 = some e := by
  rw [← writes_iff] at h
  generalize hw : (u, some e) = w at h
  cases h with
  | noDirectory made =>
    cases hw
    obtain ⟨e', s, again⟩ := made.fails_again
    exact ⟨e', by rw [writes_iff.1 (.noDirectory again)]⟩
  | @inside s made =>
    obtain ⟨d, hd, hdir⟩ := made.isDirectoryAt
    obtain rfl : u = s := by
      cases setsInside hw.symm
      rfl
    exact ⟨e, by rw [writes_iff.1 (.inside (.of_isDirectoryAt hd hdir)), ← hw]⟩

end ApiBridge.FileTree
