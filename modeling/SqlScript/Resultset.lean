/-
SqlScript/Resultset.lean

Results of statements, and the store of captured ones.

The store only grows, until it is emptied as a whole.  A captured result is
addressed by the number of captures before it, and an address without a capture has
no rows.
-/
import SqlScript.Bindings

namespace SqlScript

/-- A row: its cells by column name. -/
abbrev Row := Bindings

/-- What a statement returned. -/
structure Resultset where
  columns : List String := []
  rows : List Row := []
  /-- The number of rows returned or affected; negative if it is not known. -/
  rowcount : Int := -1
  deriving Repr, Inhabited

namespace Resultset

/-- The first row. -/
def first? (r : Resultset) : Option Row := r.rows.head?

/-- The last row. -/
def last? (r : Resultset) : Option Row := r.rows.getLast?

/-- The result of rows of cells under column names.  Of columns with one name, the
first fixes the place and the last the value. -/
def ofCells (columns : List String) (cells : List (List Value)) : Resultset where
  columns := columns
  rows := cells.map fun row => Bindings.ofList (columns.zip row)
  rowcount := cells.length

end Resultset

/-- The rows of captured results, oldest first. -/
abbrev Captures := List (List Row)

namespace Captures

/-- Adds the rows of a result. -/
def push (captures : Captures) (rows : List Row) : Captures := captures ++ [rows]

/-- The rows of a captured result; none if the address has no capture. -/
def get (captures : Captures) (index : Int) : List Row :=
  match index with
  | .ofNat i => (captures[i]?).getD []
  | .negSucc _ => []

@[simp] theorem get_push_last (captures : Captures) (rows : List Row) :
    (captures.push rows).get captures.length = rows := by
  simp [get, push]

end Captures

end SqlScript
