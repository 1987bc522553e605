/-
SqlScript/Engine/Event.lean

Events: what a run does that can be seen from outside, in order.

The trace of a run records the statements sent to the database, the scripts asked
for, the instructions carried out or skipped, and the jumps.  The log is a view of
the trace: each event that is logged has one line.
-/
import SqlScript.Program
import SqlScript.Template

namespace SqlScript

/-- An instruction about to be carried out, and where that happens. -/
structure Dispatch where
  /-- The script of the instruction. -/
  source : String
  /-- How many includes enclose it. -/
  includeDepth : Nat
  /-- How many calls enclose it in its script. -/
  processDepth : Nat
  /-- Its address. -/
  index : Nat
  instruction : Instruction
  /-- Its statement with the placeholders resolved. -/
  resolved : Resolved
  deriving Repr

/-- Something that a run does. -/
inductive Event where
  /-- A script is asked for. -/
  | requested (name : String)
  /-- A line of a script is dropped because its keyword is no command. -/
  | dropped (keyword : String) (line : Option Int)
  /-- A script is loaded, with so many instructions. -/
  | loaded (source : String) (size : Nat)
  /-- The gate is closed for an instruction. -/
  | skipped (index : Nat) (command : Command)
  /-- An instruction is carried out. -/
  | dispatched (d : Dispatch)
  /-- A run goes on at another address. -/
  | jumped (origin target : Nat)
  /-- A call finds no instruction at its address. -/
  | noTarget (target : Int)
  /-- A script is included. -/
  | including (name : String) (depth : Nat)
  /-- A statement is sent to the database. -/
  | queried (statement : String) (args : List Value)
  deriving Repr

/-- The line that an event has in the log, if it is logged.  Statements are logged
by the client, if that does so at all. -/
def Event.logLine? (logsQueries : Bool) : Event → Option String
  | .requested _ => none
  | .dropped keyword line =>
    some ("DEBUG sqlproc.parsing.script_parser: Dropping unknown command "
      ++ Text.quoted keyword ++ " on line " ++ (line.elim "None" Text.intText))
  | .loaded source size =>
    some ("INFO sqlproc.interpreter: Loaded " ++ source ++ " (" ++ Text.natText size
      ++ " instruction" ++ (if size = 1 then "" else "s") ++ ")")
  | .skipped index command =>
    some ("DEBUG sqlproc.interpreter: Skipping #" ++ Text.natText index
      ++ " [" ++ command.keyword ++ "]")
  | .dispatched d =>
    some ("DEBUG sqlproc.interpreter: Dispatching #" ++ Text.natText d.index
      ++ " [" ++ d.instruction.command.keyword ++ "] " ++ d.resolved.text)
  | .jumped origin target =>
    some ("DEBUG sqlproc.interpreter: Jumping from #" ++ Text.natText origin
      ++ " to #" ++ Text.natText target)
  | .noTarget target =>
    some ("DEBUG sqlproc.interpreter: process: no instruction at #" ++ Text.intText target)
  | .including name depth =>
    some ("INFO sqlproc.interpreter: Including " ++ name ++ " (depth "
      ++ Text.natText depth ++ ")")
  | .queried statement args =>
    if logsQueries then
      some ("DEBUG sqlproc.client: query: " ++ statement ++ " " ++ Value.displayList args)
    else none

/-- The statement of an event that sends one, with the values it binds. -/
def Event.query? : Event → Option (String × List Value)
  | .queried statement args => some (statement, args)
  | _ => none

end SqlScript
