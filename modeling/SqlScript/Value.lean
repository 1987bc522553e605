/-
SqlScript/Value.lean

Values: what parameters and the cells of rows hold.

A value is shown in two ways.  `Value.display` is its unambiguous form, in which a
text is quoted and a decimal is marked as one; messages and logs use it.
`Value.text?` is its plain text, in which a text stands for itself.  Numbers look
alike in both.  An integer of more than `integerLimit` digits has no plain text.
-/
import SqlScript.Number.Decimal
import SqlScript.Number.Fault
import SqlScript.Text.Quoted

namespace SqlScript

/-- A value of a parameter or a cell. -/
inductive Value where
  | null
  | bool (b : Bool)
  | int (n : Int)
  | float (x : Binary64)
  | text (s : String)
  | bytes (bs : List UInt8)
  | decimal (d : Decimal)
  | list (vs : List Value)
  deriving Repr, Inhabited

namespace Value

/-! ### Texts of values -/

mutual

/-- The unambiguous form of a value. -/
def display : Value → String
  | .null => "None"
  | .bool b => if b then "True" else "False"
  | .int n => Text.intText n
  | .float x => x.shortestText
  | .text s => Text.quoted s
  | .bytes bs => Text.quotedBytes bs
  | .decimal d => "Decimal('" ++ d.text ++ "')"
  | .list vs => "[" ++ ", ".intercalate (displayAll vs) ++ "]"

/-- The unambiguous forms of several values. -/
def displayAll : List Value → List String
  | [] => []
  | v :: vs => display v :: displayAll vs

end

mutual

/-- Whether an integer in the value is too long to be written. -/
def overlong : Value → Bool
  | .int n => integerLimit < Text.digitCount n.natAbs
  | .list vs => anyOverlong vs
  | _ => false

/-- Whether an integer in one of the values is too long to be written. -/
def anyOverlong : List Value → Bool
  | [] => false
  | v :: vs => overlong v || anyOverlong vs

end

/-- The form of a value in which a text and a decimal stand for themselves. -/
def plain : Value → String
  | .text s => s
  | .decimal d => d.text
  | v => v.display

/-- The plain text of a value, unless an integer in it is too long. -/
def text? (v : Value) : Except NumberFault String :=
  if v.overlong then .error .longInteger else .ok v.plain

/-- The forms of several values as one list. -/
def displayList (vs : List Value) : String := "[" ++ ", ".intercalate (displayAll vs) ++ "]"

end Value

end SqlScript
