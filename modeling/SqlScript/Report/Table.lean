/-
SqlScript/Report/Table.lean

Results as tables of text.

A column is as wide as its name and its widest cell; names and cells are filled up
with spaces to that width and separated by bars.  A cell shows at most forty
characters of a value; a longer one is cut and ends in three points.

An integer that is too long to be written ends the printing.  What was printed before it
stays.
-/
import SqlScript.Resultset

namespace SqlScript.Report

/-! ### Cells -/

/-- The greatest width of a cell. -/
def cellWidth : Int := 40

/-- The first `n` characters; for a negative `n`, all but the last `-n`. -/
def takeFront (n : Int) (cs : List Char) : List Char :=
  match n with
  | .ofNat k => cs.take k
  | .negSucc k => cs.take (cs.length - (k + 1))

/-- Cuts a text that is longer than `width`. -/
def shorten (width : Int) (cs : List Char) : List Char :=
  if width < cs.length then takeFront (width - 3) cs ++ ['.', '.', '.'] else cs

/-- A value as a cell of at most `width` characters. -/
def cell (width : Int) : Value → String
  | .null => "NULL"
  | .bool b => if b then "true" else "false"
  | .float x => x.generalText
  | .bytes bs => "<" ++ Text.natText bs.length ++ " bytes>"
  | v => String.ofList (shorten width v.plain.toList)

/-- The cell of a row in a column; a missing one is shown like an absent value. -/
def rowCell (row : Row) (column : String) : String :=
  cell cellWidth ((row.get? column).getD .null)

/-! ### Tables -/

/-- Fills a text up with spaces. -/
def pad (width : Nat) (s : String) : String :=
  s ++ String.ofList (List.replicate (width - s.length) ' ')

/-- The width of a column. -/
def columnWidth (rows : List Row) (column : String) : Nat :=
  rows.foldl (fun w row => max w (rowCell row column).length) column.length

/-- A line of cells. -/
def line (widths : List Nat) (cells : List String) : String :=
  " | ".intercalate (List.zipWith pad widths cells)

/-- A number of rows. -/
def rowCount (n : Int) : String := Text.intText n ++ " row" ++ (if n = 1 then "" else "s")

/-- The columns of a table: the given ones, or those of the first row. -/
def tableColumns (columns : List String) (rows : List Row) : List String :=
  if columns.isEmpty then (rows.head?.map Bindings.names).getD [] else columns

/-- The lines of a table that hold cells, the header first. -/
def header (columns : List String) (rows : List Row) : String :=
  line (columns.map (columnWidth rows)) columns

/-- The line of a row. -/
def rowLine (columns : List String) (rows : List Row) (row : Row) : String :=
  line (columns.map (columnWidth rows)) (columns.map (rowCell row))

/-- The lines of a table: header, rule and rows. -/
def tableLines (columns : List String) (rows : List Row) : List String :=
  let columns := tableColumns columns rows
  let head := header columns rows
  head :: String.ofList (List.replicate head.length '-') :: rows.map (rowLine columns rows)

/-- A text of lines, each with its line end. -/
def unlines (lines : List String) : String := String.join (lines.map (· ++ "\n"))

/-- A table and the number of its rows. -/
def table (columns : List String) (rows : List Row) : String :=
  if rows.isEmpty then "(no results)\n"
  else
    unlines (tableLines columns rows) ++ "\n(" ++ rowCount rows.length ++ ")\n"

/-! ### Printing -/

/-- What is printed, and the fault that ends printing after it, if there is one. -/
structure Printed where
  text : String := ""
  fault : Option NumberFault := none
  deriving Repr

/-- One thing printed after another.  After a fault nothing is printed. -/
def Printed.andThen (p q : Printed) : Printed :=
  match p.fault with
  | some _ => p
  | none => { q with text := p.text ++ q.text }

/-- Whether a cell of a table has an integer in it that is too long to be written. -/
def tableOverlong (columns : List String) (rows : List Row) : Bool :=
  rows.any fun row =>
    (tableColumns columns rows).any fun column => ((row.get? column).getD .null).overlong

/-- Prints a table.  The widths of its columns are found first, so that either all of it is
printed or nothing. -/
def printTable (columns : List String) (rows : List Row) : Printed :=
  if tableOverlong columns rows then { fault := some .longInteger }
  else { text := table columns rows }

/-- Prints a result: its rows, or the number of rows affected if that is known. -/
def printResult : Option Resultset → Printed
  | none => {}
  | some r =>
    if !r.columns.isEmpty then printTable r.columns r.rows
    else if r.rowcount < 0 then {}
    else if (Value.int r.rowcount).overlong then { fault := some .longInteger }
    else { text := "(" ++ rowCount r.rowcount ++ " affected)\n" }

/-- Prints captured results, numbered from `index`. -/
def printCaptures (index : Nat) : Captures → Printed
  | [] => {}
  | rows :: rest =>
    let heading : Printed := { text := "\n-- capture " ++ Text.natText index ++ "\n" }
    heading.andThen ((printTable [] rows).andThen (printCaptures (index + 1) rest))

end SqlScript.Report
