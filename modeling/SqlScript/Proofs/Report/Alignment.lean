/-
SqlScript/Proofs/Report/Alignment.lean

Printed tables are aligned.

A column is exactly as wide as its widest text, its name included (`columnWidth_le_iff`), so
every name and every cell that is printed fits into its column, and filling it up gives it the
width of the column (`length_pad`).  A line of such cells has a length that depends on the widths
alone (`length_line`), and so has every part of the line in front of a bar.

Hence the bars of the header stand above those of every row, and the rule below the header is
as long as all of them (`printTable_aligned`).
-/
import Mathlib
import SqlScript.Report.Table

namespace SqlScript.Report

/-! ### Widths of columns -/

/-- A column is as wide as its name and its widest cell, and no wider. -/
theorem columnWidth_le_iff (rows : List Row) (column : String) (bound : Nat) :
    columnWidth rows column ≤ bound ↔
      column.length ≤ bound ∧ ∀ row ∈ rows, (rowCell row column).length ≤ bound := by
  have widest : ∀ width : Nat,
      rows.foldl (fun w row => max w (rowCell row column).length) width ≤ bound ↔
        width ≤ bound ∧ ∀ row ∈ rows, (rowCell row column).length ≤ bound := by
    induction rows with
    | nil => simp
    | cons row rows ih =>
      intro width
      rw [List.foldl_cons, ih, Nat.max_le, List.forall_mem_cons, and_assoc]
  exact widest column.length

/-- Names fit into their columns. -/
theorem names_fit (names : List String) (rows : List Row) :
    List.Forall₂ (fun w s => s.length ≤ w) (names.map (columnWidth rows)) names := by
  rw [List.forall₂_map_left_iff, List.forall₂_same]
  intro column _
  exact ((columnWidth_le_iff rows column _).mp (Nat.le_refl _)).1

/-- The cells of a row fit into their columns. -/
theorem cells_fit (names : List String) {rows : List Row} {row : Row} (h : row ∈ rows) :
    List.Forall₂ (fun w s => s.length ≤ w) (names.map (columnWidth rows))
      (names.map (rowCell row)) := by
  rw [List.forall₂_map_left_iff, List.forall₂_map_right_iff, List.forall₂_same]
  intro column _
  exact ((columnWidth_le_iff rows column _).mp (Nat.le_refl _)).2 row h

/-! ### Lines -/

theorem length_pad {width : Nat} {s : String} (h : s.length ≤ width) :
    (pad width s).length = width := by
  rw [pad, String.length_append, String.length_ofList, List.length_replicate]
  omega

/-- The length of a line of columns, with three characters for each bar. -/
def lineWidth (widths : List Nat) : Nat := widths.sum + 3 * (widths.length - 1)

/-- A line of cells that fit is as long as its columns tell. -/
theorem length_line {widths : List Nat} {cells : List String}
    (fit : List.Forall₂ (fun w s => s.length ≤ w) widths cells) :
    (line widths cells).length = lineWidth widths := by
  induction fit with
  | nil => rfl
  | @cons width cell widths cells first rest ih =>
    cases rest with
    | nil => simp [line, lineWidth, length_pad first]
    | @cons width' cell' widths cells second rest =>
      have bar : " | ".length = 3 := rfl
      rw [line, List.zipWith_cons_cons, List.zipWith_cons_cons, String.intercalate_cons_cons,
        ← List.zipWith_cons_cons (f := pad), ← line, String.length_append, String.length_append,
        length_pad first, ih, bar]
      simp only [lineWidth, List.sum_cons, List.length_cons]
      omega

/-- A bar stands between the line of the columns in front of it and the line of the others. -/
theorem line_split {widths : List Nat} {cells : List String} (same : widths.length = cells.length)
    {k : Nat} (h : k + 1 < widths.length) :
    line widths cells =
      line (widths.take (k + 1)) (cells.take (k + 1)) ++ " | " ++
        line (widths.drop (k + 1)) (cells.drop (k + 1)) := by
  have front : List.zipWith pad (widths.take (k + 1)) (cells.take (k + 1)) ≠ [] := by
    rw [← List.length_pos_iff, List.length_zipWith, List.length_take, List.length_take]
    omega
  have back : List.zipWith pad (widths.drop (k + 1)) (cells.drop (k + 1)) ≠ [] := by
    rw [← List.length_pos_iff, List.length_zipWith, List.length_drop, List.length_drop]
    omega
  have parts : List.zipWith pad widths cells =
      List.zipWith pad (widths.take (k + 1)) (cells.take (k + 1)) ++
        List.zipWith pad (widths.drop (k + 1)) (cells.drop (k + 1)) := by
    rw [← List.take_zipWith, ← List.drop_zipWith, List.take_append_drop]
  rw [line, parts, String.intercalate_append_of_ne_nil front back]
  rfl

/-! ### Tables -/

/-- A line is *aligned* to columns if it is as long as they tell, and the bar behind each column
but the last stands where the columns up to that one end. -/
structure Aligned (widths : List Nat) (cells : List String) (l : String) : Prop where
  length : l.length = lineWidth widths
  bars : ∀ k, k + 1 < widths.length → ∃ front back, l = front ++ " | " ++ back ∧
    front.length = lineWidth (widths.take (k + 1)) ∧
    front = line (widths.take (k + 1)) (cells.take (k + 1)) ∧
    back = line (widths.drop (k + 1)) (cells.drop (k + 1))

/-- A line of cells that fit is aligned. -/
theorem line_aligned {widths : List Nat} {cells : List String}
    (fit : List.Forall₂ (fun w s => s.length ≤ w) widths cells) :
    Aligned widths cells (line widths cells) where
  length := length_line fit
  bars := fun k h =>
    ⟨_, _, line_split fit.length_eq h, length_line (List.forall₂_take (k + 1) fit), rfl, rfl⟩

/-- **Printed tables are aligned.**  A table with rows is printed as a whole or, if a number in it
is too long to be written, not at all.  Its lines are the header, the rule and one line for each
row.  They are equally long, and the bars of the header and of all rows stand at the same
places. -/
theorem printTable_aligned (columns : List String) {rows : List Row} (h : rows ≠ []) :
    (printTable columns rows).fault ≠ none ∧ (printTable columns rows).text = "" ∨
    (printTable columns rows).fault = none ∧
    ∃ names widths header rule body,
      names = (if columns = [] then (rows.head h).names else columns) ∧
      widths = names.map (columnWidth rows) ∧
      (printTable columns rows).text =
        unlines (header :: rule :: body) ++ "\n(" ++ rowCount rows.length ++ ")\n" ∧
      rule = String.ofList (List.replicate header.length '-') ∧
      (∀ l ∈ header :: rule :: body, l.length = lineWidth widths) ∧
      Aligned widths names header ∧
      List.Forall₂ (fun row l => Aligned widths (names.map (rowCell row)) l) rows body := by
  by_cases overlong : tableOverlong columns rows = true
  · left
    simp [printTable, overlong]
  right
  have printed : printTable columns rows = { text := table columns rows } := by
    rw [printTable, if_neg overlong]
  have some : rows.isEmpty = false := by simpa using h
  set names := tableColumns columns rows with hnames
  set widths := names.map (columnWidth rows) with hwidths
  have first : names = if columns = [] then (rows.head h).names else columns := by
    obtain ⟨row, rest, rfl⟩ := List.exists_cons_of_ne_nil h
    cases columns <;> rfl
  have head : Aligned widths names (header names rows) := line_aligned (names_fit names rows)
  have lines : ∀ row ∈ rows, Aligned widths (names.map (rowCell row)) (rowLine names rows row) :=
    fun row hrow => line_aligned (cells_fit names hrow)
  rw [printed]
  refine ⟨rfl, names, widths, header names rows, _, rows.map (rowLine names rows), first, hwidths,
    ?_, rfl, ?_, head, ?_⟩
  · simp only [table, some, Bool.false_eq_true, if_false, tableLines, ← hnames]
  · intro l hl
    rw [List.mem_cons, List.mem_cons, List.mem_map] at hl
    rcases hl with rfl | rfl | ⟨row, hrow, rfl⟩
    · exact head.length
    · rw [String.length_ofList, List.length_replicate, head.length]
    · exact (lines row hrow).length
  · rw [List.forall₂_map_right_iff, List.forall₂_same]
    exact lines

/-- Rows with a bar in a cell, a missing cell and a cell in no column. -/
def offerRows : List Row :=
  [[("id", .int 7), ("name", .text "a | b")], [("name", .text "soap"), ("price", .int 3)]]

/-- A table with a repeated column. -/
theorem offers_aligned :
    offerRows ≠ [] ∧
      tableLines ["id", "name", "id"] offerRows =
        ["id   | name  | id  ", "-------------------", "7    | a | b | 7   ",
          "NULL | soap  | NULL"] ∧
      (printTable ["id", "name", "id"] offerRows).fault = none ∧
      ∃ header rule body,
        (printTable ["id", "name", "id"] offerRows).text =
          unlines (header :: rule :: body) ++ "\n(2 rows)\n" ∧
        (∀ l ∈ header :: rule :: body, l.length = 19) ∧
        Aligned [4, 5, 4] ["id", "name", "id"] header ∧
        List.Forall₂ (fun row l => Aligned [4, 5, 4] (["id", "name", "id"].map (rowCell row)) l)
          offerRows body := by
  have some : offerRows ≠ [] := List.cons_ne_nil _ _
  have fault : (printTable ["id", "name", "id"] offerRows).fault = none := by decide +kernel
  have widths : ["id", "name", "id"].map (columnWidth offerRows) = [4, 5, 4] := by decide +kernel
  have count : rowCount offerRows.length = "2 rows" := by decide +kernel
  refine ⟨some, by decide +kernel, fault, ?_⟩
  rcases printTable_aligned ["id", "name", "id"] some with ⟨unprinted, -⟩ | ⟨-, printed⟩
  · exact absurd fault unprinted
  obtain ⟨_, _, header, rule, body, rfl, rfl, text, -, lengths, head, lines⟩ := printed
  rw [if_neg (List.cons_ne_nil _ _), widths] at lengths head lines
  refine ⟨header, rule, body, ?_, lengths, head, lines⟩
  rw [text, count, String.append_assoc, String.append_assoc]
  rfl

end SqlScript.Report
