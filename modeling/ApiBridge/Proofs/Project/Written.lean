import ApiBridge.Project.Generate
import ApiBridge.Proofs.Files.Writing

/-!
# Written projects

The files of a project go to different places, so once all are written each of them holds its text.
Writing a project where another one has been written before, to the same directory, leaves what it
leaves without that other one: what the first project wrote is written again.
-/

namespace ApiBridge

/-! ### Paths that lead apart -/

/-- Two paths lead to no common place. -/
def Path.Apart (p q : Path) : Prop :=
  ∀ (t : FileTree) (base a : Place), t.locate base p = .ok a → t.locate base q ≠ .ok a

namespace Path

variable {p : Path} {l m n : String}

lemma apart_child (hm : m ≠ "..") (hn : n ≠ "..") (h : m ≠ n) :
    (p.child m).Apart (p.child n) := by
  intro t base a ha hb
  obtain ⟨d, hd, -, rfl⟩ := FileTree.locate_child ha
  obtain ⟨d', hd', -, heq⟩ := FileTree.locate_child hb
  obtain rfl : d = d' := Except.ok.inj (hd.symm.trans hd')
  rw [if_neg hm, if_neg hn] at heq
  simp [h] at heq

lemma apart_child_child (hl : l ≠ "..") (hm : m ≠ "..") (hn : n ≠ "..") :
    ((p.child l).child m).Apart (p.child n) ∧ (p.child n).Apart ((p.child l).child m) := by
  have differ (t : FileTree) (base a : Place)
      (ha : t.locate base ((p.child l).child m) = .ok a) (hb : t.locate base (p.child n) = .ok a) :
      False := by
    obtain ⟨d, hd, -, rfl⟩ := FileTree.locate_child ha
    obtain ⟨d₁, hd₁, -, rfl⟩ := FileTree.locate_child hd
    obtain ⟨d₂, hd₂, -, heq⟩ := FileTree.locate_child hb
    obtain rfl : d₁ = d₂ := Except.ok.inj (hd₁.symm.trans hd₂)
    rw [if_neg hl, if_neg hm, if_neg hn] at heq
    simp at heq
  exact ⟨fun t base a ha hb => differ t base a ha hb, fun t base a ha hb => differ t base a hb ha⟩

end Path

namespace Project

variable {base start : Place} {s t u : FileTree}

/-- No two files of a project go to one place. -/
lemma files_apart (p : Project) : (p.files.map (·.1)).Pairwise Path.Apart := by
  have inner {m n : String} (hm : m ≠ "..") (hn : n ≠ "..") :
      ((p.directory.child "src").child m).Apart (p.directory.child n) ∧
        (p.directory.child n).Apart ((p.directory.child "src").child m) :=
    Path.apart_child_child (by decide) hm hn
  have outer {m n : String} (hm : m ≠ "..") (hn : n ≠ "..") (h : m ≠ n) :
      (p.directory.child m).Apart (p.directory.child n) := Path.apart_child hm hn h
  have sources : ((p.directory.child "src").child "index.ts").Apart
      ((p.directory.child "src").child "types.ts") :=
    Path.apart_child (by decide) (by decide) (by decide)
  simp only [files, List.map_cons, List.map_nil, List.pairwise_cons, List.forall_mem_cons,
    List.not_mem_nil, false_imp_iff, implies_true, and_true, List.Pairwise.nil]
  refine ⟨⟨(inner ?_ ?_).1, (inner ?_ ?_).1, (inner ?_ ?_).1, sources⟩,
    ⟨outer ?_ ?_ ?_, outer ?_ ?_ ?_, (inner ?_ ?_).2⟩, ⟨outer ?_ ?_ ?_, (inner ?_ ?_).2⟩,
    (inner ?_ ?_).2⟩ <;> decide

/-! ### Files one after another -/

section

variable {files first second : List (Path × Except TextError String)}

lemma later_writeAll (hs : t.isDirectoryAt start = true)
    (starts : ∀ f ∈ files, f.1.start base = start) : t.Later (writeAll base t files).1 := by
  induction files generalizing t with
  | nil => exact .refl t
  | cons f files ih =>
    obtain ⟨path, text⟩ := f
    have there : t.isDirectoryAt (path.start base) = true := by
      rwa [starts (path, text) (by simp)]
    cases text with
    | error e => exact .refl t
    | ok text =>
      have one : t.Later (t.write base path text false).1 := .write there
      rw [writeAll]
      split
      case h_1 hw =>
        rw [hw] at one
        exact one
      case h_2 hw =>
        rw [hw] at one
        exact one.trans (ih (one.directories _ hs) fun f hf => starts f (by simp [hf]))

/-- A settled file keeps its text while files are written to other places. -/
lemma fileAt?_writeAll {path : Path} {p : Place} (hp : t.Settled base path p)
    (starts : ∀ f ∈ files, f.1.start base = path.start base)
    (apart : ∀ f ∈ files, path.Apart f.1) :
    (writeAll base t files).1.fileAt? p = t.fileAt? p := by
  induction files generalizing t with
  | nil => rfl
  | cons f files ih =>
    obtain ⟨other, text⟩ := f
    cases text with
    | error e => rfl
    | ok text =>
      rw [writeAll]
      split
      case h_1 e hw => exact FileTree.fileAt?_of_write_error hw p
      case h_2 s hw =>
        have later : t.Later s := by
          have one : t.Later (t.write base other text false).1 := by
            refine .write ?_
            rw [starts (other, .ok text) (by simp)]
            exact hp.start
          rwa [hw] at one
        obtain ⟨q, hq, contents⟩ := FileTree.settled_of_write hw
        have hp' := hp.later later
        have differ : p ≠ q := by
          rintro rfl
          exact apart (other, .ok text) (by simp) s base p hp'.located hq.located
        rw [ih hp' (fun f hf => starts f (by simp [hf])) (fun f hf => apart f (by simp [hf])),
          contents, if_neg differ]

/-- When all files are written, each is at its place with its text. -/
lemma settled_of_writeAll (h : writeAll base t files = (u, none))
    (starts : ∀ f ∈ files, f.1.start base = start)
    (apart : (files.map (·.1)).Pairwise Path.Apart) : ∀ f ∈ files, ∃ text p,
      f.2 = .ok text ∧ u.Settled base f.1 p ∧ u.fileAt? p = some (Text.encode text) := by
  induction files generalizing t with
  | nil => simp
  | cons f files ih =>
    obtain ⟨path, text⟩ := f
    rw [List.map_cons, List.pairwise_cons] at apart
    cases text with
    | error e => cases h
    | ok text =>
      rw [writeAll] at h
      split at h
      case h_1 => cases h
      case h_2 s hw =>
        obtain ⟨p, hp, contents⟩ := FileTree.settled_of_write hw
        have same_start : ∀ f ∈ files, f.1.start base = path.start base := by
          intro f hf
          rw [starts f (by simp [hf]), starts (path, .ok text) (by simp)]
        have later : s.Later u := by
          have rest := later_writeAll hp.start same_start
          rwa [h] at rest
        have kept : u.fileAt? p = s.fileAt? p := by
          have rest := fileAt?_writeAll hp same_start fun f hf =>
            apart.1 f.1 (List.mem_map_of_mem hf)
          rwa [h] at rest
        intro f hf
        rcases List.mem_cons.1 hf with rfl | hf
        · refine ⟨text, p, rfl, hp.later later, ?_⟩
          rw [kept, contents, if_pos rfl]
        · exact ih h (fun f hf => starts f (by simp [hf])) apart.2 f hf

/-! ### Files written again -/

/-- In trees that look alike the same files leave the same contents. -/
lemma writeAll_congr (shape : s.SameShape t) (contents : ∀ p, s.fileAt? p = t.fileAt? p)
    (p : Place) : (writeAll base s files).1.fileAt? p = (writeAll base t files).1.fileAt? p := by
  induction files generalizing s t with
  | nil => exact contents p
  | cons f files ih =>
    obtain ⟨path, text⟩ := f
    cases text with
    | error e => exact contents p
    | ok text =>
      obtain ⟨same, shape'⟩ := shape.write base path text text false
      rw [writeAll, writeAll]
      cases hs : s.write base path text false with
      | mk s' r =>
        cases ht : t.write base path text false with
        | mk t' r' =>
          rw [hs, ht] at same shape'
          obtain rfl : r = r' := same
          cases r with
          | some e =>
            simp only
            rw [FileTree.fileAt?_of_write_error hs, FileTree.fileAt?_of_write_error ht, contents]
          | none =>
            obtain ⟨q, hq, contents_s⟩ := FileTree.settled_of_write hs
            obtain ⟨q', hq', contents_t⟩ := FileTree.settled_of_write ht
            obtain rfl : q = q' := by
              have := hq.located
              rw [shape'.locate, hq'.located] at this
              exact (Except.ok.inj this).symm
            refine ih shape' fun p => ?_
            rw [contents_s, contents_t, contents]

/-- Files are written in `t`, and in `u`, which is what is left when other files have been written
to the same paths. What `u` has differs from `t` only where those other files have changed
something. Then the same contents are left in the end. -/
lemma writeAll_again (paths : first.map (·.1) = second.map (·.1))
    (starts : ∀ f ∈ first, f.1.start base = start)
    (texts : ∀ e, (writeAll base t second).2 ≠ some (.noText e)) (shape : s.SameShape t)
    (left : (writeAll base s first).1.SameShape u)
    (contents : ∀ p, (writeAll base s first).1.fileAt? p = s.fileAt? p → u.fileAt? p = t.fileAt? p)
    (p : Place) : (writeAll base u second).1.fileAt? p = (writeAll base t second).1.fileAt? p := by
  induction first generalizing second s t u with
  | nil =>
    obtain rfl : second = [] := by simpa using paths.symm
    exact contents p rfl
  | cons f first ih =>
    obtain ⟨path, text⟩ := f
    obtain ⟨g, second, rfl⟩ : ∃ g rest, second = g :: rest := by
      cases second with
      | nil => simp at paths
      | cons g second => exact ⟨g, second, rfl⟩
    obtain ⟨other, more⟩ := g
    simp only [List.map_cons, List.cons.injEq] at paths
    obtain ⟨rfl, paths⟩ := paths
    cases more with
    | error e => exact absurd rfl (texts e)
    | ok more =>
      cases text with
      | error e =>
        -- The other files end here, so that nothing has changed from here on.
        have alike : u.SameShape t := left.symm.trans shape
        exact writeAll_congr alike (fun p => contents p rfl) p
      | ok text =>
        obtain ⟨same, shape'⟩ := shape.write base path text more false
        rw [writeAll] at left contents
        rw [writeAll] at texts
        rw [writeAll, writeAll]
        cases hs : s.write base path text false with
        | mk s' r =>
          cases ht : t.write base path more false with
          | mk t' r' =>
            rw [hs, ht] at same shape'
            obtain rfl : r = r' := same
            simp only [hs] at left contents
            simp only [ht] at texts
            cases r with
            | some e =>
              obtain ⟨e', failed⟩ := FileTree.write_fails_again hs
              obtain ⟨again, -⟩ := left.write base path text more false
              rw [failed] at again
              cases hu : u.write base path more false with
              | mk u' r =>
                rw [hu] at again
                obtain rfl : some e' = r := again
                simp only
                rw [FileTree.fileAt?_of_write_error hu, FileTree.fileAt?_of_write_error ht]
                exact contents p (FileTree.fileAt?_of_write_error hs p)
            | none =>
              obtain ⟨q, hq, contents_s⟩ := FileTree.settled_of_write hs
              obtain ⟨q', hq', contents_t⟩ := FileTree.settled_of_write ht
              obtain rfl : q = q' := by
                have := hq.located
                rw [shape'.locate, hq'.located] at this
                exact (Except.ok.inj this).symm
              have same_start : ∀ f ∈ first, f.1.start base = path.start base := by
                intro f hf
                rw [starts f (by simp [hf]), starts (path, .ok text) (by simp)]
              have settled : u.Settled base path q :=
                (hq.later (later_writeAll hq.start same_start)).later left.later
              rw [settled.write]
              refine ih paths (fun f hf => starts f (by simp [hf])) texts shape'
                (left.trans (.replaceFile settled.file settled.opened)) fun p hp => ?_
              rw [FileTree.fileAt?_replaceFile, contents_t]
              split
              case isTrue => rfl
              case isFalse hne =>
                refine contents p ?_
                rw [hp, contents_s, if_neg hne]

end

/-! ### Projects -/

lemma start_of_mem_files (p : Project) (base : Place) :
    ∀ f ∈ p.files, f.1.start base = p.directory.start base := by
  simp [files]

/-- When a project is written, each of its files holds its text. -/
lemma find_of_write {p : Project} {h : Host} (hw : p.write h = (u, none)) :
    ∀ f ∈ p.files, ∃ text, f.2 = .ok text ∧
      u.find h.directory.names f.1 = .ok (some (.ok (Text.encode text))) := by
  unfold write at hw
  split at hw
  case h_1 => cases hw
  case h_2 =>
    intro f hf
    obtain ⟨text, place, htext, settled, contents⟩ :=
      settled_of_writeAll hw (p.start_of_mem_files _) p.files_apart f hf
    exact ⟨text, htext, by rw [settled.find, contents, Option.map_some]⟩

/-- A project that is written after another one in the same directory leaves the contents that it
leaves alone. -/
lemma write_again {p q : Project} {h : Host} (hd : p.directory = q.directory)
    (texts : ∀ e, (q.write h).2 ≠ some (.noText e)) (place : Place) :
    (q.write { h with tree := (p.write h).1 }).1.fileAt? place = (q.write h).1.fileAt? place := by
  unfold write at texts ⊢
  cases hq : q.blueprint.writtenManifest with
  | error e =>
    simp only [hq] at texts
    exact absurd rfl (texts e)
  | ok manifest =>
    cases p.blueprint.writtenManifest with
    | error e => rfl
    | ok _ =>
      simp only [hq] at texts ⊢
      have paths : p.files.map (·.1) = q.files.map (·.1) := by simp [files, hd]
      exact writeAll_again paths (p.start_of_mem_files _) texts (.refl _) (.refl _)
        (fun _ unchanged => unchanged) place

end Project

end ApiBridge
