/-
SqlScript/Command.lean

The vocabulary of scripts: commands, the gate that some of them open and close, and
the policies for absent values in conditions.

Commands fall into overlapping groups.  *Queries* send their statement to the
database; of these, *select-only* commands accept nothing but selects.  *Guards*
decide the gate, and are carried out even while it is closed.  A *passive* command
is stepped over by a run and carried out only when another instruction addresses it.
-/
namespace SqlScript

/-- What an instruction asks for. -/
inductive Command where
  | execute
  | capture
  | replace
  | declare
  | proceed
  | ifvalid
  | validif
  | forward
  | process
  | storage
  | include
  | setting
  | examine
  deriving DecidableEq, Repr, Inhabited

namespace Command

/-- Every command. -/
def all : List Command :=
  [.execute, .capture, .replace, .declare, .proceed, .ifvalid, .validif, .forward,
   .process, .storage, .include, .setting, .examine]

/-- The keyword of a command. -/
def keyword : Command → String
  | .execute => "execute"
  | .capture => "capture"
  | .replace => "replace"
  | .declare => "declare"
  | .proceed => "proceed"
  | .ifvalid => "ifvalid"
  | .validif => "validif"
  | .forward => "forward"
  | .process => "process"
  | .storage => "storage"
  | .include => "include"
  | .setting => "setting"
  | .examine => "examine"

/-- The command with a given keyword. -/
def ofKeyword? (keyword : String) : Option Command :=
  all.find? fun c => c.keyword = keyword

/-- Whether the statement must be a select. -/
def requiresSelect : Command → Bool
  | .capture | .replace | .declare => true
  | _ => false

/-- Whether the command decides the gate, and so runs even while it is closed. -/
def isGuard : Command → Bool
  | .proceed | .ifvalid | .validif => true
  | _ => false

/-- Whether a run steps over the command. -/
def isPassive : Command → Bool
  | .storage => true
  | _ => false

/-- Whether the command sends its statement to the database. -/
def isQuery : Command → Bool
  | .execute | .capture | .replace | .declare | .storage => true
  | _ => false

theorem ofKeyword?_keyword (c : Command) : ofKeyword? c.keyword = some c := by
  cases c <;> decide

end Command

/-! ### Gate and blank policy -/

/-- Whether instructions are being carried out or skipped. -/
inductive Gate where
  | run
  | skip
  deriving DecidableEq, Repr, Inhabited

/-- What stands in a condition for a value that is absent. -/
inductive Blank where
  | empty
  | null
  | zero
  deriving DecidableEq, Repr, Inhabited

/-- The name of a policy. -/
def Blank.name : Blank → String
  | .empty => "empty"
  | .null => "null"
  | .zero => "zero"

/-- The literal that a policy puts into a condition. -/
def Blank.literal : Blank → String
  | .empty => "''"
  | .null => "NULL"
  | .zero => "0"

end SqlScript
