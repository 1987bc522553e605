/-
SqlScript/Error.lean

Errors of loading and running scripts.

An error has a *cause*, which fixes its kind and the wording of its detail, and a
*context*: the script, instruction, parameters and call site it is reported
against.  Context is attached while the error leaves nested instructions.  Attaching
fills only what is still missing, so the instruction that failed first is the one
reported.

Not every failure is such an error.  A *fault* is anything else that ends an
evaluation: a number beyond its limits, a database connection that breaks down, and,
where conditions are evaluated on their own, their syntax and evaluation errors.
-/
import SqlScript.Value
import SqlScript.Command

namespace SqlScript

/-! ### Causes -/

/-- The kinds of errors. -/
inductive ErrorKind where
  | procedure
  | sourceLoad
  | validation
  | execution
  /-- A script stopped itself to show a statement; this is a kind of execution error. -/
  | diagnosticAbort
  deriving DecidableEq, Repr, Inhabited

/-- Why a script could not be loaded or run. -/
inductive Cause where
  /-- The source has no script of this name. -/
  | noSuchScript (name : String)
  /-- There is no file at this path. -/
  | cannotOpen (path : String)
  /-- The file at this path has no readable text. -/
  | cannotRead (path reason : String)
  /-- An included script could not be loaded. -/
  | cannotInclude (name detail : String)
  /-- The statement of a select-only command is not a select. -/
  | selectRequired (command : Command)
  /-- A keyword is no command. -/
  | unknownCommand (keyword : String)
  /-- There is nothing to run. -/
  | noCommands
  /-- The database rejected a statement. -/
  | rejected (message : String)
  /-- A jump or call has no operand. -/
  | missingIndex
  /-- The operand of a jump or call is no integer. -/
  | invalidIndex (value : Value)
  /-- A jump goes before the start. -/
  | negativeTarget (target : Int)
  /-- Calls are nested too deeply. -/
  | processTooDeep (limit : Nat)
  /-- An include has no operand. -/
  | missingScriptName
  /-- Includes are nested too deeply. -/
  | includeTooDeep (limit : Int)
  /-- A setting is not known. -/
  | unknownSetting (text : String)
  /-- A condition has no value. -/
  | invalidCondition (condition reason : String)
  /-- A script asked to see a statement. -/
  | examined (rendered : String)
  /-- An error that a caller words itself. -/
  | stated (kind : ErrorKind) (detail : String)
  deriving Repr, Inhabited

/-- The kind of an error with a given cause. -/
def Cause.kind : Cause → ErrorKind
  | .noSuchScript _ | .cannotOpen _ | .cannotRead .. | .cannotInclude .. => .sourceLoad
  | .selectRequired _ | .unknownCommand _ => .validation
  | .examined _ => .diagnosticAbort
  | .stated kind _ => kind
  | _ => .execution

/-- The wording of a cause. -/
def Cause.detail : Cause → String
  | .noSuchScript name => "No script named " ++ name
  | .cannotOpen path => "Couldn't open " ++ path ++ " sql file"
  | .cannotRead path reason => "Couldn't read " ++ path ++ " sql file: " ++ reason
  | .cannotInclude name detail => "cannot include " ++ name ++ ": " ++ detail
  | .selectRequired command =>
    "the " ++ command.keyword ++ " command can only be used with an SQL select statement"
  | .unknownCommand keyword => "unknown command " ++ Text.quoted keyword
  | .noCommands => "File has no commands to process"
  | .rejected message => message
  | .missingIndex => "an instruction index is required"
  | .invalidIndex value => "invalid instruction index " ++ value.display
  | .negativeTarget target => "cannot forward to negative index " ++ Text.intText target
  | .processTooDeep limit =>
    "process nesting deeper than " ++ Text.natText limit ++ " levels"
  | .missingScriptName => "include needs a script name"
  | .includeTooDeep limit => "include nesting deeper than " ++ Text.intText limit ++ " levels"
  | .unknownSetting text => "unknown setting: " ++ text
  | .invalidCondition condition reason =>
    "invalid condition (" ++ condition ++ "): " ++ reason
  | .examined rendered => rendered
  | .stated _ detail => detail

/-! ### Context -/

/-- A place in the code of a caller. -/
structure CallSite where
  file : String
  line : Int
  deriving DecidableEq, Repr, Inhabited

/-- What an error is reported against. -/
structure Context where
  source : Option String := none
  index : Option Int := none
  line : Option Int := none
  command : Option String := none
  statement : Option String := none
  parameters : List Value := []
  origin : Option CallSite := none
  deriving Repr, Inhabited

/-- Fills in what is missing from another context. -/
def Context.attach (c other : Context) : Context where
  source := c.source <|> other.source
  index := c.index <|> other.index
  line := c.line <|> other.line
  command := c.command <|> other.command
  statement := c.statement <|> other.statement
  parameters := if c.parameters.isEmpty then other.parameters else c.parameters
  origin := c.origin <|> other.origin

/-- How many characters of a statement a message shows. -/
def previewLength : Nat := 20

/-- The first characters of a statement. -/
def preview (statement : Option String) : String :=
  String.ofList ((statement.getD "").toList.take previewLength)

/-- The parts of a context that a message names, in their order. -/
def Context.parts (c : Context) : List String :=
  let statement := c.statement.filter (· ≠ "")
  [c.source.map (· ++ ":"),
   c.index.map fun i => "command #" ++ Text.intText i,
   c.line.map fun n => "(line " ++ Text.intText n ++ ")",
   c.command.map fun k => "[" ++ k ++ "]",
   statement.map fun s => "statement (" ++ preview (some s) ++ "...)",
   if c.parameters.isEmpty then none
   else some ("using " ++ ", ".intercalate (Value.displayAll c.parameters)),
   c.origin.map fun o => "at " ++ o.file ++ " line " ++ Text.intText o.line].filterMap id

/-! ### Errors -/

/-- An error of loading or running a script. -/
structure ProcedureError where
  cause : Cause
  context : Context := {}
  deriving Repr, Inhabited

namespace ProcedureError

/-- The kind of an error. -/
def kind (e : ProcedureError) : ErrorKind := e.cause.kind

/-- What went wrong, without the context. -/
def detail (e : ProcedureError) : String := e.cause.detail

/-- Fills in context that is still missing. -/
def attach (e : ProcedureError) (c : Context) : ProcedureError :=
  { e with context := e.context.attach c }

/-- The whole message. -/
def message (e : ProcedureError) : String :=
  match e.context.parts with
  | [] => e.detail
  | parts => " ".intercalate parts ++ ": " ++ e.detail

end ProcedureError

end SqlScript
