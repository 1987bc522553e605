/-
SqlScript/Program.lean

Programs: the instructions of one script in order.  The position of an instruction
is its address.
-/
import SqlScript.Command

namespace SqlScript

/-- A command and its statement. -/
structure Instruction where
  command : Command
  statement : String
  /-- The line it was read from, counted from one; used in messages only. -/
  line : Option Int := none
  deriving DecidableEq, Repr, Inhabited

/-- The instructions of one script. -/
structure Program where
  /-- The name of the script. -/
  source : String
  instructions : List Instruction := []
  deriving DecidableEq, Repr, Inhabited

namespace Program

/-- The number of instructions. -/
def size (p : Program) : Nat := p.instructions.length

/-- The instruction at an address, if there is one. -/
def get? (p : Program) (index : Int) : Option Instruction :=
  match index with
  | .ofNat i => p.instructions[i]?
  | .negSucc _ => none

/-- Adds an instruction at the end. -/
def push (p : Program) (i : Instruction) : Program :=
  { p with instructions := p.instructions ++ [i] }

@[simp] theorem size_push (p : Program) (i : Instruction) : (p.push i).size = p.size + 1 := by
  simp [size, push]

end Program

end SqlScript
