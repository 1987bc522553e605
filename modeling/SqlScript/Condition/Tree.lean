/-
SqlScript/Condition/Tree.lean

Conditions as trees: literals, prefix operators and infix operators.

Comparison exists twice, on numbers (`==`, `<`, ...) and on texts (`eq`, `lt`, ...).
The trees that reading a condition produces use the named operators only; a tree
built by a caller may also have an infix operator of any other name, or a bare value
where a node should be, and evaluating these is an error.
-/
import SqlScript.Value

namespace SqlScript.Condition

/-- The six comparisons. -/
inductive Relation where
  | eq
  | ne
  | lt
  | le
  | gt
  | ge
  deriving DecidableEq, Repr, Inhabited

/-- Whether a comparison holds between things in a given order. -/
def Relation.holds : Relation → Ordering → Bool
  | .eq, o => o == .eq
  | .ne, o => o != .eq
  | .lt, o => o == .lt
  | .le, o => o != .gt
  | .gt, o => o == .gt
  | .ge, o => o != .lt

/-- The symbol of a comparison of numbers. -/
def Relation.symbol : Relation → String
  | .eq => "=="
  | .ne => "!="
  | .lt => "<"
  | .le => "<="
  | .gt => ">"
  | .ge => ">="

/-- The word of a comparison of texts. -/
def Relation.word : Relation → String
  | .eq => "eq"
  | .ne => "ne"
  | .lt => "lt"
  | .le => "le"
  | .gt => "gt"
  | .ge => "ge"

/-- Every comparison. -/
def Relation.all : List Relation := [.eq, .ne, .lt, .le, .gt, .ge]

/-- The operations of arithmetic. -/
inductive Arith where
  | add
  | sub
  | mul
  | div
  | mod
  deriving DecidableEq, Repr, Inhabited

/-- The symbol of an operation. -/
def Arith.symbol : Arith → String
  | .add => "+"
  | .sub => "-"
  | .mul => "*"
  | .div => "/"
  | .mod => "%"

/-- Every operation. -/
def Arith.all : List Arith := [.add, .sub, .mul, .div, .mod]

/-- An infix operator. -/
inductive BinaryOp where
  | or
  | and
  /-- Comparison of numbers. -/
  | number (r : Relation)
  /-- Comparison of texts. -/
  | text (r : Relation)
  | arith (a : Arith)
  /-- Concatenation of texts. -/
  | concat
  /-- An operator that is not known. -/
  | other (name : String)
  deriving DecidableEq, Repr, Inhabited

/-- The name of an infix operator. -/
def BinaryOp.name : BinaryOp → String
  | .or => "or"
  | .and => "and"
  | .number r => r.symbol
  | .text r => r.word
  | .arith a => a.symbol
  | .concat => "."
  | .other name => name

/-- The operators that are known. -/
def BinaryOp.known : List BinaryOp :=
  [.or, .and, .concat] ++ Relation.all.map .number ++ Relation.all.map .text
    ++ Arith.all.map .arith

/-- The infix operator of a name. -/
def BinaryOp.ofName (name : String) : BinaryOp :=
  (BinaryOp.known.find? fun op => op.name = name).getD (.other name)

/-- A prefix operator. -/
inductive UnaryOp where
  | not
  | neg
  deriving DecidableEq, Repr, Inhabited

/-- The name of a prefix operator. -/
def UnaryOp.name : UnaryOp → String
  | .not => "not"
  | .neg => "neg"

/-- The prefix operator of a name; every name other than `not` negates. -/
def UnaryOp.ofName (name : String) : UnaryOp := if name = "not" then .not else .neg

/-- A condition. -/
inductive Tree where
  | literal (v : Value)
  | unary (op : UnaryOp) (operand : Tree)
  | binary (op : BinaryOp) (left right : Tree)
  /-- A bare value where a node should be. -/
  | stray (v : Value)
  deriving Repr, Inhabited

end SqlScript.Condition
