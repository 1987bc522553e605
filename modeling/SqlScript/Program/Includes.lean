/-
SqlScript/Program/Includes.lean

The scripts that a program may include.

The name of an included script is the first word of the instruction's statement with
bind markers in the places of its placeholders.  No value of a parameter enters it,
so the names are known before a run, and with them every script that a run can reach.
-/
import SqlScript.Program
import SqlScript.Template
import SqlScript.Text.Blank

namespace SqlScript

/-- The name of the script that an instruction includes, if it includes one. -/
def Instruction.includeName? (bindMarker : String) (i : Instruction) : Option String :=
  if i.command = .include then
    (Text.firstWord? ((Template.parse i.statement.toList).bound bindMarker.toList)).map
      String.ofList
  else none

/-- The names of the scripts that a program includes, in order. -/
def Program.includeNames (bindMarker : String) (p : Program) : List String :=
  p.instructions.filterMap (Instruction.includeName? bindMarker)

end SqlScript
