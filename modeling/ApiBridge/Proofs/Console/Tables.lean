import ApiBridge.CommandLine.View
import ApiBridge.Proofs.Console.Streams
import ApiBridge.Proofs.Outcome

/-!
# Tables as lines

Without JSON a table is printed as lines of cells with tabs between them. Such a text is read by
cutting it into lines at the line feeds, and each line into cells at the tabs. Since cells are
printed as they are, and no cell that is read holds a tab or a line feed, a table is read back
exactly if none of its cells does.
-/

namespace ApiBridge

/-! ### Texts that are joined -/

/-- Values are joined exactly if they are texts. -/
lemma Value.allTexts_eq_ok_iff {place : Nat} {vs : List Value} {texts : List String} :
    allTexts place vs = .ok texts ↔ vs = texts.map .text := by
  induction vs generalizing place texts with
  | nil => cases texts <;> simp [allTexts]
  | cons v vs ih =>
    by_cases kind : ∃ s, v = .text s
    · obtain ⟨s, rfl⟩ := kind
      rw [allTexts, map_eq_ok_iff]
      simp only [ih]
      cases texts with
      | nil => simp
      | cons t ts => grind
    · rw [allTexts]
      · cases texts with
        | nil => simp
        | cons t ts => simpa using fun h => absurd ⟨t, h⟩ kind
      · exact fun s h => kind ⟨s, h⟩

namespace Table

/-! ### Printing -/

/-- The cells of a table line by line, the headers first. -/
def lines (t : Table) : List (List String) :=
  t.headers :: t.rows

/-- A table has a cell under each header in each row. -/
def IsRectangular (t : Table) : Prop :=
  ∀ row ∈ t.rows, row.length = t.headers.length

lemma tabbed_texts (row : List String) :
    Console.tabbed (.list (row.map .text)) = .ok ("\t".intercalate row) := by
  have joined : Value.allTexts 0 (row.map .text) = .ok row := Value.allTexts_eq_ok_iff.2 rfl
  simp only [Console.tabbed, Value.elements?, joined]
  rfl

lemma printRows_texts (rows : List (List String)) :
    Console.printRows (rows.map fun row => .list (row.map .text)) =
      (rows.map fun row => Console.line ("\t".intercalate row), none) := by
  induction rows with
  | nil => rfl
  | cons row rows ih => simp only [List.map_cons, Console.printRows, tabbed_texts, ih]

/-- Without JSON a table is printed as lines, and nothing stops the printing. -/
lemma print_lines {c : Console} (hc : c.format ≠ .json) (t : Table) :
    t.print c = (t.lines.map fun row => Console.line ("\t".intercalate row), none) := by
  unfold print Console.printTable
  split
  case h_1 h => exact absurd h hc
  case h_2 =>
    simp only [tabbed_texts, Console.partsOf, Value.elements?, printRows_texts]
    rfl

/-! ### Reading -/

/-- The cells of a text, line by line: line feeds end lines, and tabs stand between cells. -/
def readLines (text : String) : List (List String) :=
  (text.toList.splitOn '\n').dropLast.map fun line => (line.splitOn '\t').map String.ofList

/-- A text can be a cell: it holds no tab and no line feed. -/
def IsCell (s : String) : Prop :=
  '\t' ∉ s.toList ∧ '\n' ∉ s.toList

instance (s : String) : Decidable (IsCell s) :=
  inferInstanceAs (Decidable (_ ∧ _))

lemma isCell_append {s t : String} : IsCell (s ++ t) ↔ IsCell s ∧ IsCell t := by
  simp only [IsCell, String.toList_append, List.mem_append, not_or]
  tauto

/-- Texts that are joined by a text that can be a cell can be one if each of them can. -/
lemma isCell_intercalate {sep : String} (hs : IsCell sep) {texts : List String} :
    IsCell (sep.intercalate texts) ↔ ∀ s ∈ texts, IsCell s := by
  induction texts with
  | nil => simp [IsCell]
  | cons s texts ih =>
    cases texts with
    | nil => simp
    | cons t texts =>
      rw [String.intercalate_cons_cons, isCell_append, isCell_append, ih,
        List.forall_mem_cons (l := t :: texts)]
      simp only [hs, and_true]

/-- A piece of a text that is cut at a character holds other characters of the text only. -/
lemma of_mem_splitOn {a : Char} {cs piece : List Char} (h : piece ∈ cs.splitOn a) :
    a ∉ piece ∧ piece ⊆ cs := by
  induction cs generalizing piece with
  | nil =>
    rw [List.splitOn_nil] at h
    obtain rfl := List.mem_singleton.1 h
    simp
  | cons c cs ih =>
    rw [List.splitOn_cons_eq_if_modifyHead] at h
    split at h
    case isTrue =>
      rcases List.mem_cons.1 h with rfl | h
      · simp
      · exact ⟨(ih h).1, List.subset_cons_of_subset c (ih h).2⟩
    case isFalse other =>
      obtain ⟨first, rest, pieces⟩ := List.exists_cons_of_ne_nil (List.splitOn_ne_nil a cs)
      rw [pieces, List.modifyHead_cons] at h
      rcases List.mem_cons.1 h with rfl | h
      · obtain ⟨free, sub⟩ := ih (pieces ▸ List.mem_cons_self)
        refine ⟨?_, List.cons_subset_cons c sub⟩
        rw [List.mem_cons, not_or]
        exact ⟨fun heq => other (by simp [heq]), free⟩
      · obtain ⟨free, sub⟩ := ih (pieces ▸ List.mem_cons_of_mem first h)
        exact ⟨free, List.subset_cons_of_subset c sub⟩

/-- Whatever text is read, what is read of it are cells. -/
lemma isCell_of_mem_readLines {text cell : String} {row : List String} (hr : row ∈ readLines text)
    (hc : cell ∈ row) : IsCell cell := by
  obtain ⟨line, hline, rfl⟩ := List.mem_map.1 hr
  obtain ⟨chars, hchars, rfl⟩ := List.mem_map.1 hc
  obtain ⟨tab, sub⟩ := of_mem_splitOn hchars
  have feed := (of_mem_splitOn (List.dropLast_subset _ hline)).1
  rw [IsCell, String.toList_ofList]
  exact ⟨tab, fun h => feed (sub h)⟩

/-- A text of lines is cut into the pieces of its lines and an empty piece at the end. -/
lemma splitOn_flatMap_lines (lines : List (List Char)) :
    (lines.flatMap fun line => line ++ ['\n']).splitOn '\n' =
      (lines.flatMap fun line => line.splitOn '\n') ++ [[]] := by
  induction lines with
  | nil => rfl
  | cons line lines ih =>
    rw [List.flatMap_cons, List.append_assoc, List.singleton_append, List.splitOn_append_cons_self,
      ih, List.flatMap_cons, List.append_assoc]

/-- The characters of a line of cells. -/
def lineChars (row : List String) : List Char :=
  ['\t'].intercalate (row.map String.toList)

lemma toList_dataText_lines (rows : List (List String)) :
    (Printed.dataText (rows.map fun row => Console.line ("\t".intercalate row))).toList =
      (rows.map lineChars).flatMap fun line => line ++ ['\n'] := by
  induction rows with
  | nil => rfl
  | cons row rows ih =>
    rw [List.map_cons, Console.line, Printed.dataText_cons_data, String.toList_append,
      String.toList_append, String.toList_intercalate, ih]
    rfl

/-- A line of cells is one line. -/
lemma splitOn_lineChars {row : List String} (h : ∀ cell ∈ row, IsCell cell) :
    (lineChars row).splitOn '\n' = [lineChars row] := by
  refine List.splitOn_eq_singleton (not_mem_intercalate (by decide) ?_)
  simp only [List.forall_mem_map]
  exact fun cell hc => (h cell hc).2

/-- The cells of a line are found between its tabs. -/
lemma cells_lineChars {row : List String} (hne : row ≠ []) (h : ∀ cell ∈ row, IsCell cell) :
    ((lineChars row).splitOn '\t').map String.ofList = row := by
  have apart : ∀ chars ∈ row.map String.toList, '\t' ∉ chars := by
    simp only [List.forall_mem_map]
    exact fun cell hc => (h cell hc).1
  rw [lineChars, List.splitOn_intercalate '\t' apart (by simpa using hne), List.map_map]
  simp [Function.comp_def]

/-- Printed lines are read back exactly if they are made of cells. -/
lemma readLines_eq_iff {rows : List (List String)} (hne : ∀ row ∈ rows, row ≠ []) :
    readLines (Printed.dataText (rows.map fun row => Console.line ("\t".intercalate row))) = rows ↔
      ∀ row ∈ rows, ∀ cell ∈ row, IsCell cell := by
  constructor
  · intro h row hr cell hc
    exact isCell_of_mem_readLines (h.symm ▸ hr) hc
  · intro h
    have lines : (rows.map lineChars).flatMap (fun line => line.splitOn '\n') =
        rows.map lineChars := by
      rw [List.flatMap_map, List.flatMap_congr fun row hr => splitOn_lineChars (h row hr),
        ← List.map_eq_flatMap]
    have cells : rows.map ((fun line => (line.splitOn '\t').map String.ofList) ∘ lineChars) =
        rows.map id :=
      List.map_congr_left fun row hr => cells_lineChars (hne row hr) (h row hr)
    rw [readLines, toList_dataText_lines, splitOn_flatMap_lines, List.dropLast_concat, lines,
      List.map_map, cells, List.map_id]

/-- A table whose columns have names is read back from what is printed of it exactly if all that
stands in it can be a cell. -/
theorem readLines_print_iff {c : Console} (hc : c.format ≠ .json) {t : Table}
    (hh : t.headers ≠ []) (hr : t.IsRectangular) :
    readLines (Printed.dataText (t.print c).1) = t.lines ↔
      ∀ row ∈ t.lines, ∀ cell ∈ row, IsCell cell := by
  rw [print_lines hc]
  refine readLines_eq_iff (List.forall_mem_cons.2 ⟨hh, fun row hrow => ?_⟩)
  have length := hr row hrow
  rintro rfl
  exact hh (List.length_eq_zero_iff.1 length.symm)

end Table

end ApiBridge
