import ApiBridge.Proofs.Files.Writing

/-!
# Files are written as a whole

Each call of writing does all or nothing: if it succeeds, the files are those of before with the
file of the call, and if it fails they are exactly those of before. So after any run of calls the
files are what the successful ones alone make of them. A call that fails may leave directories
behind, and these are in the way of no call that succeeds.
-/

namespace ApiBridge

/-- A call of writing a text to a path; `stuck` says that the new file cannot take its place. -/
structure WriteCall where
  path : Path
  text : String
  stuck : Bool

/-- The place that a path spells, seen from the directory `base`. -/
def Path.placeFrom (base : Place) (p : Path) : Place :=
  p.names.foldl (fun place n => if n = ".." then place.dropLast else place ++ [n]) (p.start base)

namespace FileTree

variable {t u v : FileTree} {base p q : Place} {path : Path} {c : WriteCall}

/-! ### Runs of calls -/

def perform (t : FileTree) (base : Place) (c : WriteCall) : Written :=
  t.write base c.path c.text c.stuck

/-- The tree that a run of calls leaves. -/
def afterCalls (t : FileTree) (base : Place) : List WriteCall → FileTree
  | [] => t
  | c :: cs => (t.perform base c).1.afterCalls base cs

/-- The calls of a run that succeed. -/
def successes (t : FileTree) (base : Place) : List WriteCall → List WriteCall
  | [] => []
  | c :: cs =>
    match t.perform base c with
    | (u, none) => c :: u.successes base cs
    | (u, some _) => u.successes base cs

/-- The file of a call holds its text. -/
def withFile (t : FileTree) (base : Place) (c : WriteCall) : FileTree :=
  t.setFile (c.path.placeFrom base) (Text.encode c.text)

/-! ### Places that paths spell -/

lemma walk_eq_foldl {ns : List String} (h : t.walk p ns = .ok q) :
    q = ns.foldl (fun place n => if n = ".." then place.dropLast else place ++ [n]) p := by
  induction ns generalizing p with
  | nil =>
    cases h
    rfl
  | cons n ns ih =>
    obtain ⟨-, -, -, h⟩ := walk_cons_eq_ok_iff.1 h
    exact ih h

/-- Where a path leads is told by its names, in any tree in which it leads somewhere. -/
lemma eq_placeFrom (h : t.locate base path = .ok p) : p = path.placeFrom base :=
  walk_eq_foldl (locate_eq_ok_iff.1 h).2

/-! ### One call -/

/-- What is written depends on the files and not on the directories. -/
lemma files_setFile_congr (h : t.files = u.files) (p : Place) (bytes : List UInt8) :
    (t.setFile p bytes).files = (u.setFile p bytes).files := by
  simp only [setFile, h]

lemma fileAt?_congr (h : t.files = u.files) (p : Place) : t.fileAt? p = u.fileAt? p := by
  rw [fileAt?, h, fileAt?]

lemma files_ensureOne (t : FileTree) (base : Place) (path : Path) :
    (t.ensureOne base path).1.files = t.files := by
  generalize hw : t.ensureOne base path = w
  cases ensuresOne hw with
  | made _ _ _ => rfl
  | there _ _ => rfl
  | failed _ _ => rfl

/-- Making a directory changes no file. -/
lemma MakesDirectory.files {w : Written} (h : MakesDirectory t base path w) :
    w.1.files = t.files := by
  induction h with
  | one _ => exact files_ensureOne t base _
  | after _ _ ih => rw [files_ensureOne, ih]
  | stopped _ _ ih => exact ih

/-- How a call succeeds: its directory is made, and the file is set there. -/
structure Succeeds (t : FileTree) (base : Place) (c : WriteCall) (s u : FileTree) : Prop where
  made : MakesDirectory t base c.path.parent (s, none)
  temporary : ∃ q, s.locate base (temporaryPath c.path) = .ok q
  located : s.locate base c.path = .ok (c.path.placeFrom base)
  solid : s.isDirectoryAt (c.path.placeFrom base) = false
  unstuck : c.stuck = false
  result : u = s.replaceFile (c.path.placeFrom base) (Text.encode c.text)

lemma succeeds_iff : (∃ s, Succeeds t base c s u) ↔ t.perform base c = (u, none) := by
  constructor
  · rintro ⟨s, h⟩
    obtain ⟨q, hq⟩ := h.temporary
    rw [perform, write_eq, makesDirectory_iff.1 h.made, h.result]
    simp [setInside, hq, h.located, h.solid, h.unstuck]
  · intro h
    rw [perform, write_eq] at h
    split at h
    case h_1 => cases h
    case h_2 s hs =>
      rw [setInside] at h
      split at h
      case h_1 => cases h
      case h_2 => cases h
      case h_3 q p hq hp =>
        have hplace := eq_placeFrom hp
        subst hplace
        split at h
        case isTrue => cases h
        case isFalse hstuck =>
          split at h
          case isTrue => cases h
          case isFalse hd =>
            refine ⟨s, makesDirectory_iff.2 hs, ⟨q, hq⟩, hp, ?_, ?_, ?_⟩
            · exact Bool.eq_false_iff.2 hd
            · exact Bool.eq_false_iff.2 hstuck
            · exact (congrArg Prod.fst h).symm

/-- A call that succeeds sets its file and changes no other. -/
lemma files_of_succeeds (h : t.perform base c = (u, none)) :
    u.files = (t.withFile base c).files ∧ u.locate base c.path = .ok (c.path.placeFrom base) := by
  obtain ⟨s, hs⟩ := succeeds_iff.2 h
  rw [hs.result]
  exact ⟨files_setFile_congr hs.made.files _ _, (Wider.replaceFile s _ _).locate hs.located⟩

/-- A call that fails changes no file. -/
lemma files_of_fails {e : FileError} (h : t.perform base c = (u, some e)) : u.files = t.files := by
  rw [perform, ← writes_iff] at h
  generalize hw : (u, some e) = w at h
  cases h with
  | noDirectory made =>
    cases hw
    exact made.files
  | inside made =>
    cases setsInside hw.symm
    exact made.files

lemma locate_of_ensureOne (h : t.ensureOne base path = (u, none)) :
    ∃ p, t.locate base path = .ok p := by
  cases ensuresOne h with
  | made hl _ _ => exact ⟨_, hl⟩
  | there hl _ => exact ⟨_, hl⟩

/-- Where nothing is missing on the way, a directory is made in one step. -/
lemma MakesDirectory.ensureOne {w : Written} (h : MakesDirectory t base path w)
    (hl : t.locate base path ≠ .error .missing) : t.ensureOne base path = w := by
  rw [← makeDirectory_of_not_missing hl]
  exact makesDirectory_iff.1 h

/-! ### What stops a call -/

/-- Something is in the way of a call: its new file cannot take its place, a file is above the file
that it writes, or a directory is in its place. -/
inductive IsBlocked (t : FileTree) (base : Place) (c : WriteCall) : Prop
  | stuck (h : c.stuck = true)
  | belowFile (hl : t.locate base c.path.parent = .error .notDirectory)
  | inFile {p : Place} (hl : t.locate base c.path.parent = .ok p)
    (hf : (t.fileAt? p).isSome = true) (hd : t.isDirectoryAt p = false)
  | isDirectory {p : Place} (hl : t.locate base c.path = .ok p) (hd : t.isDirectoryAt p = true)

lemma exists_parent_of_isDirectoryAt (hl : t.locate base path = .ok p)
    (hd : t.isDirectoryAt p = true) :
    ∃ d, t.locate base path.parent = .ok d ∧ t.isDirectoryAt d = true := by
  by_cases hn : path.names = []
  · rw [parent_of_names_eq_nil hn]
    exact ⟨p, hl, hd⟩
  · exact locate_parent hn hl

/-- A call with something in its way fails. -/
lemma IsBlocked.fails (h : t.IsBlocked base c) : (t.perform base c).2 ≠ none := by
  intro hnone
  have hp : t.perform base c = ((t.perform base c).1, none) := by rw [← hnone]
  obtain ⟨s, hs⟩ := succeeds_iff.2 hp
  cases h with
  | stuck h =>
    rw [hs.unstuck] at h
    cases h
  | belowFile hl =>
    obtain ⟨p, hp⟩ := locate_of_ensureOne (hs.made.ensureOne (by simp [hl]))
    rw [hl] at hp
    cases hp
  | inFile hl hf hd =>
    cases ensuresOne (hs.made.ensureOne (by simp [hl])) with
    | made hl' hf' _ =>
      obtain rfl := Except.ok.inj (hl.symm.trans hl')
      rw [hf] at hf'
      cases hf'
    | there hl' hd' =>
      obtain rfl := Except.ok.inj (hl.symm.trans hl')
      rw [hd] at hd'
      cases hd'
  | isDirectory hl hd =>
    -- The directory above is there too, so that nothing is made before the file is looked for.
    obtain ⟨d, hparent, hdir⟩ := exists_parent_of_isDirectoryAt hl hd
    have made := makesDirectory_iff.1 (.of_isDirectoryAt hparent hdir)
    obtain ⟨rfl, -⟩ := Prod.mk.inj (made.symm.trans (makesDirectory_iff.1 hs.made))
    rw [eq_placeFrom hl, hs.solid] at hd
    cases hd

/-- A call with nothing in its way succeeds, if the directory of its file is there. -/
lemma succeeds_of_not_isBlocked (h : ¬t.IsBlocked base c)
    (hq : t.locate base (temporaryPath c.path) = .ok q) (hp : t.locate base c.path = .ok p) :
    (t.perform base c).2 = none := by
  obtain ⟨hd, hdir⟩ := locate_temporaryPath hq
  obtain rfl := eq_placeFrom hp
  have success : Succeeds t base c t (t.replaceFile (c.path.placeFrom base) (Text.encode c.text)) := {
    made := .of_isDirectoryAt hd hdir
    temporary := ⟨q, hq⟩
    located := hp
    solid := by
      rw [Bool.eq_false_iff]
      exact fun hdir => h (.isDirectory hp hdir)
    unstuck := by
      rw [Bool.eq_false_iff]
      exact fun hstuck => h (.stuck hstuck)
    result := rfl }
  rw [succeeds_iff.1 ⟨t, success⟩]

/-- Whatever free place is drawn for the new file of a call, the call leaves the same. -/
lemma perform_of_isNewFor {s : FileTree} {shown new : Place}
    (made : t.makeDirectory base c.path.parent = (s, none))
    (hq : s.locate base (temporaryPath c.path) = .ok shown) (hnew : s.IsNewFor shown.dropLast new) :
    t.perform base c = s.writeThrough base c.path new c.text c.stuck := by
  rw [perform, write_eq, made, writeThrough_eq_setInside hq hnew]

/-- What a call does to the files: all of it, or nothing. -/
structure IsWhole (t : FileTree) (base : Place) (c : WriteCall) : Prop where
  succeeded : (t.perform base c).2 = none →
    (t.perform base c).1.find base c.path = .ok (some (.ok (Text.encode c.text))) ∧
    (t.perform base c).1.files = (t.withFile base c).files ∧
    ∀ p, (t.perform base c).1.fileAt? p =
      if p = c.path.placeFrom base then some (Text.encode c.text) else t.fileAt? p
  failed : (t.perform base c).2 ≠ none → (t.perform base c).1.files = t.files
  blocked : t.IsBlocked base c → (t.perform base c).2 ≠ none
  unblocked : ¬t.IsBlocked base c → ∀ p q, t.locate base c.path = .ok p →
    t.locate base (temporaryPath c.path) = .ok q → (t.perform base c).2 = none
  drawn : ∀ s shown new, t.makeDirectory base c.path.parent = (s, none) →
    s.locate base (temporaryPath c.path) = .ok shown → s.IsNewFor shown.dropLast new →
    t.perform base c = s.writeThrough base c.path new c.text c.stuck

lemma isWhole (t : FileTree) (base : Place) (c : WriteCall) : t.IsWhole base c := by
  refine ⟨?_, ?_, IsBlocked.fails, fun h p q hp hq => succeeds_of_not_isBlocked h hq hp,
    fun s shown new => perform_of_isNewFor⟩
  · intro h
    have hp : t.perform base c = ((t.perform base c).1, none) := by rw [← h]
    obtain ⟨files, -⟩ := files_of_succeeds hp
    have contents (p : Place) : (t.perform base c).1.fileAt? p =
        if p = c.path.placeFrom base then some (Text.encode c.text) else t.fileAt? p := by
      rw [fileAt?_congr files, withFile, fileAt?_setFile]
    exact ⟨find_of_write hp, files, contents⟩
  · intro h
    obtain ⟨e, he⟩ := Option.ne_none_iff_exists'.1 h
    have hp : t.perform base c = ((t.perform base c).1, some e) := by rw [← he]
    exact files_of_fails hp

/-! ### Trees with fewer directories -/

/-- A tree has the files of another and no directories that the other has not. -/
structure Barer (t u : FileTree) : Prop where
  files : t.files = u.files
  later : Later t u

lemma Barer.refl (t : FileTree) : Barer t t :=
  ⟨rfl, .refl t⟩

/-- A call that fails leaves at most directories behind. -/
lemma Barer.after_failure (h : Barer t u) (hs : u.isDirectoryAt (c.path.start base) = true)
    (hc : (u.perform base c).2 ≠ none) : Barer t (u.perform base c).1 where
  files := by rw [h.files, (isWhole u base c).failed hc]
  later := h.later.trans (.write hs)

/-- A way that ends at a file, before a name that is too long or at a directory that cannot be
entered ends there among more directories too. -/
lemma Barer.walk_error {fault : PathFault} {ns : List String} (h : Barer t u)
    (hw : t.walk p ns = .error fault) (hf : fault ≠ .missing) : u.walk p ns = .error fault := by
  induction ns generalizing p with
  | nil => cases hw
  | cons n ns ih =>
    simp only [walk] at hw ⊢
    by_cases hd : t.isDirectoryAt p = true
    · rw [if_pos hd] at hw
      rw [if_pos (h.later.directories p hd)]
      rw [h.later.closed]
      split at hw
      case isTrue hc => rw [if_pos hc, hw]
      case isFalse hc =>
        rw [if_neg hc]
        split at hw
        case isTrue hn => rw [if_pos hn, hw]
        case isFalse hn =>
          rw [if_neg hn]
          exact ih hw
    · rw [if_neg hd] at hw
      by_cases hp : (t.fileAt? p).isSome = true
      · have solid := h.later.solid p hp (Bool.eq_false_iff.2 hd)
        rw [if_neg (by simp [solid]), ← fileAt?_congr h.files, hw]
      · rw [if_neg hp] at hw
        cases hw
        exact absurd rfl hf

lemma Barer.locate_error {fault : PathFault} (h : Barer t u)
    (hl : t.locate base path = .error fault) (hf : fault ≠ .missing) :
    u.locate base path = .error fault := by
  by_cases sound : path.IsSound
  · rw [locate_of_sound sound] at hl ⊢
    exact h.walk_error hl hf
  · rw [locate_of_not_sound sound, hl]

lemma Barer.withDirectory (h : Barer t u) (hfiles : v.files = u.files)
    (hclosed : v.closed = u.closed) (hlocked : v.locked = u.locked)
    (hv : ∀ q, v.isDirectoryAt q = true ↔ u.isDirectoryAt q = true ∨ q <+: p) :
    Barer (t.withDirectory p) v where
  files := h.files.trans hfiles.symm
  later := {
    directories := by
      intro q hq
      rw [hv]
      exact (isDirectoryAt_withDirectory.1 hq).imp_left (h.later.directories q)
    closed := hclosed.trans h.later.closed
    files := by
      intro q hq
      rw [← fileAt?_congr (h.files.trans hfiles.symm)]
      exact hq
    solid := by
      intro q hq hd
      rw [Bool.eq_false_iff] at hd ⊢
      intro hvq
      rw [ne_eq, isDirectoryAt_withDirectory, not_or] at hd
      rcases (hv q).1 hvq with hu | hprefix
      · rw [h.later.solid q hq (Bool.eq_false_iff.2 hd.1)] at hu
        cases hu
      · exact hd.2 hprefix
    opened := by
      rw [hlocked]
      exact h.later.opened }

lemma Barer.replaceFile (h : Barer t u) (hd : u.isDirectoryAt p = false) (bytes : List UInt8) :
    Barer (t.replaceFile p bytes) (u.replaceFile p bytes) where
  files := files_setFile_congr h.files p bytes
  later := {
    directories := by
      intro q hq
      rw [isDirectoryAt_replaceFile] at hq ⊢
      exact hq.imp_left (h.later.directories q)
    closed := h.later.closed
    files := by
      intro q hq
      rw [fileAt?_replaceFile, ← fileAt?_congr h.files, ← fileAt?_replaceFile]
      exact hq
    solid := by
      intro q hq hnot
      rw [Bool.eq_false_iff, ne_eq, isDirectoryAt_replaceFile, not_or] at hnot ⊢
      refine ⟨?_, hnot.2⟩
      rw [fileAt?_replaceFile] at hq
      split at hq
      case isTrue hqp => simp [hqp, hd]
      case isFalse =>
        have solid := h.later.solid q hq (Bool.eq_false_iff.2 hnot.1)
        simp [solid]
    opened := by
      intro q hq
      by_cases hqp : q = p
      · simp [FileTree.replaceFile, hqp]
      · simp only [FileTree.replaceFile, List.mem_filter, hqp, ne_eq, not_false_eq_true,
          decide_true, and_true] at hq ⊢
        exact h.later.opened q hq }

lemma ensureOne_of_free (hl : t.locate base path = .ok p) (hf : (t.fileAt? p).isSome = false)
    (hd : t.isDirectoryAt p = false) : t.ensureOne base path = (t.withDirectory p, none) := by
  simp [FileTree.ensureOne, makeOne, hl, hf, hd, ensured, withDirectory]

/-- A directory that is ensured among more directories is ensured. -/
lemma Barer.ensureOne (h : Barer t u) (ht : t.locate base path = .ok p)
    (hu : u.ensureOne base path = (v, none)) :
    ∃ s, t.ensureOne base path = (s, none) ∧ Barer s v := by
  have hup := h.later.locate ht
  cases ensuresOne hu with
  | made hl hf hd =>
    obtain rfl := Except.ok.inj (hup.symm.trans hl)
    rw [← fileAt?_congr h.files] at hf
    have hdt : t.isDirectoryAt p = false := by
      rw [Bool.eq_false_iff] at hd ⊢
      exact fun hdt => hd (h.later.directories p hdt)
    exact ⟨_, ensureOne_of_free ht hf hdt,
      h.withDirectory rfl rfl rfl fun q => isDirectoryAt_withDirectory⟩
  | there hl hd =>
    obtain rfl := Except.ok.inj (hup.symm.trans hl)
    by_cases hdt : t.isDirectoryAt p = true
    · exact ⟨t, ensureOne_of_isDirectoryAt ht hdt, h⟩
    · have hf : (t.fileAt? p).isSome = false := by
        rw [Bool.eq_false_iff]
        intro hf
        rw [h.later.solid p hf (Bool.eq_false_iff.2 hdt)] at hd
        cases hd
      refine ⟨_, ensureOne_of_free ht hf (Bool.eq_false_iff.2 hdt), h.withDirectory rfl rfl rfl ?_⟩
      intro q
      exact (or_iff_left_of_imp (isDirectoryAt_of_above hd)).symm

/-- A directory with a name is made inside the one above it. -/
lemma MakesDirectory.above (h : MakesDirectory t base path (u, none)) (hn : path.names ≠ []) :
    ∃ s, MakesDirectory t base path.parent (s, none) ∧ s.ensureOne base path = (u, none) := by
  generalize hw : (u, none) = w at h
  cases h with
  | one _ =>
    obtain ⟨p, hp⟩ := locate_of_ensureOne hw.symm
    obtain ⟨d, hd, hdir⟩ := locate_parent hn hp
    exact ⟨t, .of_isDirectoryAt hd hdir, rfl⟩
  | after _ above => exact ⟨_, above, rfl⟩
  | stopped _ _ => cases hw

/-- A directory that is made among more directories is made. -/
lemma Barer.makeDirectory (h : Barer t u) (hu : MakesDirectory u base path (v, none)) :
    ∃ s, MakesDirectory t base path (s, none) ∧ Barer s v := by
  -- The induction is on the directories above. What is missing in the tree with fewer directories is
  -- made there from the top, while the other tree may have it already.
  induction path using parent_induction generalizing v with
  | step path ih =>
    by_cases hmissing : t.locate base path = .error .missing
    · have hn := names_ne_nil_of_missing hmissing
      obtain ⟨w, above, last⟩ := hu.above hn
      obtain ⟨s, made, barer⟩ := ih hn above
      obtain ⟨d, hd, hdir⟩ := made.isDirectoryAt
      obtain ⟨p, hp⟩ := locate_of_ensureOne last
      have same := barer.later.locate_of_parent hd hdir
      obtain ⟨s', ensured, barer'⟩ := barer.ensureOne (same.symm.trans hp) last
      exact ⟨s', ensured ▸ .after hmissing made, barer'⟩
    · cases hl : t.locate base path with
      | ok p =>
        have located := h.later.locate hl
        obtain ⟨s, ensured, barer⟩ := h.ensureOne hl (hu.ensureOne (by simp [located]))
        exact ⟨s, ensured ▸ .one hmissing, barer⟩
      | error fault =>
        have hfault : fault ≠ .missing := fun hf => hmissing (hf ▸ hl)
        have stopped := h.locate_error hl hfault
        obtain ⟨p, hp⟩ := locate_of_ensureOne (hu.ensureOne (by simp [stopped, hfault]))
        rw [stopped] at hp
        cases hp

/-- A call that succeeds among more directories succeeds. -/
lemma Barer.perform (h : Barer t u) (hu : u.perform base c = (v, none)) :
    ∃ s, t.perform base c = (s, none) ∧ Barer s v := by
  obtain ⟨w, hw⟩ := succeeds_iff.2 hu
  obtain ⟨s, made, barer⟩ := h.makeDirectory hw.made
  obtain ⟨d, hd, hdir⟩ := made.isDirectoryAt
  have temporary : ∃ q, s.locate base (temporaryPath c.path) = .ok q := by
    obtain ⟨q, hq⟩ := hw.temporary
    exact ⟨q, (barer.later.locate_child hd hdir _).symm.trans hq⟩
  have located : s.locate base c.path = .ok (c.path.placeFrom base) :=
    (barer.later.locate_of_parent hd hdir).symm.trans hw.located
  have solid : s.isDirectoryAt (c.path.placeFrom base) = false := by
    rw [Bool.eq_false_iff]
    intro hs
    have there := barer.later.directories _ hs
    rw [hw.solid] at there
    cases there
  have success := Succeeds.mk made temporary located solid hw.unstuck rfl
  refine ⟨_, succeeds_iff.1 ⟨s, success⟩, ?_⟩
  rw [hw.result]
  exact barer.replaceFile hw.solid _

/-! ### Runs -/

lemma isDirectoryAt_start (h : t.isDirectoryAt base = true) (path : Path) :
    t.isDirectoryAt (path.start base) = true := by
  rw [Path.start]
  split
  case isTrue => exact h
  case isFalse => exact isDirectoryAt_iff.2 (.inl rfl)

lemma isDirectoryAt_perform (h : t.isDirectoryAt base = true) (c : WriteCall) :
    (t.perform base c).1.isDirectoryAt base = true :=
  (Later.write (isDirectoryAt_start h c.path)).directories base h

/-- The calls of a run that succeed are a run in which all succeed, with the same files in the
end. -/
lemma Barer.afterCalls (h : Barer t u) (hu : u.isDirectoryAt base = true) (calls : List WriteCall) :
    t.successes base (u.successes base calls) = u.successes base calls ∧
      Barer (t.afterCalls base (u.successes base calls)) (u.afterCalls base calls) := by
  -- Both trees take a call that succeeds, and the barer one is spared a call that fails.
  induction calls generalizing t u with
  | nil => exact ⟨rfl, h⟩
  | cons c cs ih =>
    have there := isDirectoryAt_perform hu c
    cases hc : u.perform base c with
    | mk v failed =>
      rw [hc] at there
      cases failed with
      | none =>
        obtain ⟨s, hs, barer⟩ := h.perform hc
        obtain ⟨again, last⟩ := ih barer there
        simp only [successes, FileTree.afterCalls, hc, hs]
        exact ⟨by rw [again], last⟩
      | some e =>
        have barer : Barer t v := by
          have := h.after_failure (isDirectoryAt_start hu c.path) (by rw [hc]; simp)
          rwa [hc] at this
        simp only [successes, FileTree.afterCalls, hc]
        exact ih barer there

/-- After a run the files are those of before, with the files of the calls that succeeded. -/
lemma files_afterCalls (h : t.files = u.files) (calls : List WriteCall) :
    (t.afterCalls base calls).files =
      ((t.successes base calls).foldl (fun u c => u.withFile base c) u).files := by
  induction calls generalizing t u with
  | nil => exact h
  | cons c cs ih =>
    cases hc : t.perform base c with
    | mk v failed =>
      cases failed with
      | none =>
        have hv : v.files = (u.withFile base c).files := by
          rw [(files_of_succeeds hc).1]
          exact files_setFile_congr h _ _
        simp only [FileTree.afterCalls, successes, hc, List.foldl_cons]
        exact ih hv
      | some e =>
        simp only [FileTree.afterCalls, successes, hc]
        exact ih ((files_of_fails hc).trans h)

lemma afterCalls_concat (t : FileTree) (base : Place) (calls : List WriteCall) (c : WriteCall) :
    t.afterCalls base (calls ++ [c]) = ((t.afterCalls base calls).perform base c).1 := by
  induction calls generalizing t with
  | nil => rfl
  | cons d ds ih => exact ih (t.perform base d).1

/-- Each call of a run does all or nothing to the files. So the run leaves the files of before with
those of the successful calls set in order; and these calls alone, as a run of their own from a
directory that is there, all succeed and leave the same files. -/
theorem calls_atomic (t : FileTree) (base : Place) (calls : List WriteCall) :
    (∀ before c after, calls = before ++ c :: after →
      (t.afterCalls base before).IsWhole base c ∧
        t.afterCalls base (before ++ [c]) = ((t.afterCalls base before).perform base c).1) ∧
    (t.afterCalls base calls).files =
      ((t.successes base calls).foldl (fun u c => u.withFile base c) t).files ∧
    (t.isDirectoryAt base = true →
      t.successes base (t.successes base calls) = t.successes base calls ∧
      (t.afterCalls base (t.successes base calls)).files = (t.afterCalls base calls).files) := by
  refine ⟨?_, files_afterCalls rfl calls, ?_⟩
  · intro before c after _
    exact ⟨isWhole _ base c, afterCalls_concat t base before c⟩
  · intro there
    obtain ⟨again, last⟩ := (Barer.refl t).afterCalls there calls
    exact ⟨again, last.files⟩

/-- A home with one note. -/
def home : FileTree where
  files := [(["home", "note"], Text.encode "old")]
  directories := []

/-- Two of these calls succeed, the second and the last. The first one is stuck, the third is to
write below a file, and the fourth in the place of a directory. -/
def homeCalls : List WriteCall :=
  [⟨⟨"", ["note"]⟩, "lost", true⟩, ⟨⟨"", ["new", "list"]⟩, "kept", false⟩,
    ⟨⟨"", ["note", "part"]⟩, "lost", false⟩, ⟨⟨"", ["new"]⟩, "lost", false⟩,
    ⟨⟨"", ["note"]⟩, "kept", false⟩]

/-- The last call, and what the run leaves. -/
theorem calls_atomic_home :
    home.isDirectoryAt ["home"] = true ∧
    (home.afterCalls ["home"] (homeCalls.take 4)).IsWhole ["home"] ⟨⟨"", ["note"]⟩, "kept", false⟩ ∧
    (home.successes ["home"] homeCalls).map (·.text) = ["kept", "kept"] ∧
    (home.afterCalls ["home"] (home.successes ["home"] homeCalls)).files =
      [(["home", "note"], Text.encode "kept"), (["home", "new", "list"], Text.encode "kept")] := by
  obtain ⟨each, -, alone⟩ := calls_atomic home ["home"] homeCalls
  have there : home.isDirectoryAt ["home"] = true := by decide
  obtain ⟨-, files⟩ := alone there
  obtain ⟨last, -⟩ := each (homeCalls.take 4) _ [] rfl
  exact ⟨there, last, by decide +kernel, files.trans (by decide +kernel)⟩

end FileTree

end ApiBridge
