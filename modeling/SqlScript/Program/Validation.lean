/-
SqlScript/Program/Validation.lean

The rule that programs have to keep: the statement of a select-only command is a
select, which is told by its first word.  The first instruction that breaks the rule
rejects the program.
-/
import SqlScript.Error
import SqlScript.Program
import SqlScript.Text.Blank
import SqlScript.Text.Caseless

namespace SqlScript

/-- Whether a statement starts with `select`, in any case, after white space. -/
def isSelect (statement : List Char) : Bool :=
  (Text.afterCaseless? "select".toList (statement.dropWhile Text.isBlank)).isSome

/-- Whether an instruction keeps the rule. -/
def Instruction.isValid (i : Instruction) : Bool :=
  !i.command.requiresSelect || isSelect i.statement.toList

/-- The error of an instruction that breaks the rule. -/
def Instruction.selectError (i : Instruction) (index : Nat) (source : String) :
    ProcedureError where
  cause := .selectRequired i.command
  context :=
    { source := some source
      index := some index
      line := i.line
      command := some i.command.keyword
      statement := some i.statement }

/-- The error of an instruction, if it breaks the rule. -/
def Instruction.error? (i : Instruction) (index : Nat) (source : String) :
    Option ProcedureError :=
  if i.isValid then none else some (i.selectError index source)

namespace Program

/-- The error of the first instruction that breaks the rule, counting from `index`. -/
def firstError? (source : String) : Nat → List Instruction → Option ProcedureError
  | _, [] => none
  | index, i :: rest =>
    match i.error? index source with
    | some e => some e
    | none => firstError? source (index + 1) rest

/-- The error of a program, if it breaks the rule. -/
def error? (p : Program) : Option ProcedureError := firstError? p.source 0 p.instructions

/-- Whether every instruction keeps the rule. -/
def IsValid (p : Program) : Prop := ∀ i ∈ p.instructions, i.isValid = true

theorem firstError?_eq_none_iff (source : String) (index : Nat) (is : List Instruction) :
    firstError? source index is = none ↔ ∀ i ∈ is, i.isValid = true := by
  induction is generalizing index with
  | nil => simp [firstError?]
  | cons i rest ih =>
    by_cases h : i.isValid
    · simp [firstError?, Instruction.error?, h, ih]
    · simp [firstError?, Instruction.error?, h]

/-- A program has no error exactly if every instruction keeps the rule. -/
theorem error?_eq_none_iff (p : Program) : p.error? = none ↔ p.IsValid :=
  firstError?_eq_none_iff p.source 0 p.instructions

end Program

end SqlScript
