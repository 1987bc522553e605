/-
SqlScript/Engine/Machine.lean

The machine that carries out a script: its program, its captures and the state of
its run.

An activity of the machine changes the machine and the world around it, which is the
state of the database and the trace of events.  It ends in one of three ways: it is
done, it failed, or it was cut off because its fuel was used up.  However it ends,
machine and world are known (`Result`).
-/
import SqlScript.Client
import SqlScript.Condition.Render
import SqlScript.Engine.Event
import SqlScript.Engine.Operand
import SqlScript.Program.Reader
import SqlScript.Program.Validation
import SqlScript.Source

namespace SqlScript

/-! ### State -/

/-- The state of a run. -/
structure RunState where
  /-- The address of the next instruction. -/
  cursor : Nat := 0
  gate : Gate := .run
  /-- The positional parameters. -/
  passed : List Value := []
  /-- The named parameters. -/
  custom : Bindings := []
  /-- The result of the last query. -/
  last : Option Resultset := none
  /-- What stands in conditions for absent values. -/
  blank : Blank := .empty
  deriving Repr, Inhabited

/-- A machine. -/
structure Machine where
  program : Option Program := none
  captures : Captures := []
  state : RunState := {}
  /-- How many includes enclose the script. -/
  depth : Nat := 0
  /-- How many calls are under way. -/
  processDepth : Nat := 0
  /-- The call site that errors are reported with. -/
  origin : Option CallSite := none
  deriving Repr, Inhabited

/-- How deeply includes may be nested, unless it is said otherwise. -/
def defaultIncludeDepth : Nat := 32

/-- What a machine works with. -/
structure Setup (σ : Type) where
  client : Client σ
  source : Source
  /-- The marker of instructions in scripts. -/
  marker : String := defaultMarker
  /-- How deeply includes may be nested. -/
  maxIncludeDepth : Int := defaultIncludeDepth
  /-- Whether the log is written during the run, so that an event that cannot be
  written ends it. -/
  writesLog : Bool := false

/-- How deeply calls may be nested. -/
def maxProcessDepth : Nat := 32

/-- What surrounds a machine. -/
structure World (σ : Type) where
  /-- The state of the database. -/
  database : σ
  /-- What has happened, the newest first. -/
  trace : List Event := []

/-- Adds an event to the trace. -/
def World.note {σ : Type} (w : World σ) (e : Event) : World σ :=
  { w with trace := e :: w.trace }

/-- Adds events to the trace, in their order. -/
def World.noteAll {σ : Type} (w : World σ) (es : List Event) : World σ :=
  es.foldl World.note w

/-! ### Outcomes -/

/-- How an activity ended. -/
inductive Outcome (α : Type) where
  | done (value : α)
  | failed (failure : Failure)
  /-- The fuel was used up. -/
  | cutOff
  deriving Repr

/-- An outcome with its value replaced. -/
def Outcome.map {α β : Type} (f : α → β) : Outcome α → Outcome β
  | .done a => .done (f a)
  | .failed failure => .failed failure
  | .cutOff => .cutOff

/-- An outcome in which an error is reported against a context. -/
def Outcome.attach {α : Type} (c : Context) : Outcome α → Outcome α
  | .failed f => .failed (f.attach c)
  | o => o

/-- How an activity ended, and the machine and the world after it. -/
structure Result (σ α : Type) where
  outcome : Outcome α
  machine : Machine
  world : World σ

/-! ### Instructions that address no others -/

namespace Machine

variable {σ : Type}

/-- The instruction at an address. -/
def fetch? (m : Machine) (index : Int) : Option Instruction :=
  m.program.bind fun p => p.get? index

/-- Whether the gate lets a command through. -/
def admits (m : Machine) (c : Command) : Bool := m.state.gate = .run || c.isGuard

/-- The context of an instruction that is carried out. -/
def contextOf (m : Machine) (index : Nat) (i : Instruction) (r : Resolved) : Context where
  source := m.program.map Program.source
  index := some index
  line := i.line
  command := some i.command.keyword
  statement := some i.statement
  parameters := r.args
  origin := m.origin

/-- The event of an instruction that is carried out. -/
def dispatchEvent (m : Machine) (index : Nat) (i : Instruction) (r : Resolved) : Event :=
  .dispatched
    { source := (m.program.map Program.source).getD ""
      includeDepth := m.depth
      processDepth := m.processDepth
      index := index
      instruction := i
      resolved := r }

/-- What a query command does with a result: every one keeps it as the last result;
`capture` stores its rows, `replace` makes its last row the positional parameters,
and `declare` binds the columns of its first row as named parameters. -/
def absorb (m : Machine) (c : Command) (r : Resultset) : Machine :=
  let state := { m.state with last := some r }
  match c with
  | .capture => { m with state := state, captures := m.captures.push r.rows }
  | .replace =>
    { m with state := { state with passed := (r.last?.map Bindings.values).getD [] } }
  | .declare =>
    { m with state := { state with custom := state.custom.update (r.first?.getD []) } }
  | _ => { m with state := state }

/-- Sends the statement of a query command. -/
def query (setup : Setup σ) (c : Command) (r : Resolved) (m : Machine) (w : World σ) :
    Result σ (Option Nat) :=
  let answer := setup.client.query r.text r.args w.database
  let w := { w.note (.queried r.text r.args) with database := answer.2 }
  match answer.1 with
  | .result rs => ⟨.done none, m.absorb c rs, w⟩
  | .rejected message => ⟨.failed (.of (.rejected message)), m, w⟩
  | .crash message => ⟨.failed (.fault (.crash message)), m, w⟩

/-- The gate that a guard decides on.  A condition that is malformed or has no value
is an error of the script. -/
def decideGate (r : Resolved) (blank : Blank) : Except Failure Gate :=
  match Condition.render r.statement r.args blank with
  | .error f => .error (.fault (.number f))
  | .ok condition =>
    match Condition.holds condition with
    | .ok true => .ok .run
    | .ok false => .ok .skip
    | .error (.form e) => .error (.of (.invalidCondition condition e.message))
    | .error (.evaluation e) => .error (.of (.invalidCondition condition e.message))
    | .error f => .error (.fault f)

/-- The error of a jump before the start.  A target too long to be written is a fault
of its own. -/
def negativeJump (target : Int) : Failure :=
  match (Value.int target).text? with
  | .error f => .fault (.number f)
  | .ok _ => .of (.negativeTarget target)

/-- The address that a jump goes to; past the end, it goes to the end. -/
def jumpTarget (m : Machine) (r : Resolved) (marker : String) : Except Failure Nat :=
  match addressOperand r marker with
  | .error f => .error f
  | .ok (target, _) =>
    if target < 0 then .error (negativeJump target)
    else
      match m.program with
      | some p => .ok (min target.toNat p.size)
      | none => .ok target.toNat

/-- A call that finds no instruction at its address does nothing. -/
def missTarget (setup : Setup σ) (target : Int) (m : Machine) (w : World σ) :
    Result σ (Option Nat) :=
  match (Value.int target).text? with
  | .ok _ => ⟨.done none, m, w.note (.noTarget target)⟩
  | .error f =>
    if setup.writesLog then ⟨.failed (.fault (.number f)), m, w⟩
    else ⟨.done none, m, w.note (.noTarget target)⟩

/-- Carries out an instruction that addresses neither another instruction nor
another script.  The value is the address to jump to, if it is a jump. -/
def perform (setup : Setup σ) (c : Command) (r : Resolved) (m : Machine) (w : World σ) :
    Result σ (Option Nat) :=
  match c with
  | .proceed | .ifvalid | .validif =>
    match decideGate r m.state.blank with
    | .error f => ⟨.failed f, m, w⟩
    | .ok gate => ⟨.done none, { m with state := { m.state with gate := gate } }, w⟩
  | .forward =>
    match m.jumpTarget r setup.client.bindMarker with
    | .error f => ⟨.failed f, m, w⟩
    | .ok target => ⟨.done (some target), m, w⟩
  | .setting =>
    match setting? r.text.toList with
    | none => ⟨.failed (.of (.unknownSetting r.text)), m, w⟩
    | some blank => ⟨.done none, { m with state := { m.state with blank := blank } }, w⟩
  | .examine =>
    let rendered := fillPlaceholders r.statement (r.args.map setup.client.quote)
    ⟨.failed (.of (.examined rendered)), m, w⟩
  | c => m.query setup c r w

/-! ### Scripts -/

/-- Reads and validates the text of a script.  What is dropped and what is loaded is
noted. -/
def readText (setup : Setup σ) (text source : String) (w : World σ) :
    Except Failure Program × World σ :=
  let dropped := Program.unknownKeywords (Program.readings setup.marker text)
  let w := w.noteAll (dropped.map fun d => .dropped d.1 (some d.2))
  let program := Program.parse setup.marker text source
  match program.error? with
  | some e => (.error (.error e), w)
  | none => (.ok program, w.note (.loaded source program.size))

/-- Gets a script from the source, reads and validates it. -/
def readScript (setup : Setup σ) (name : String) (w : World σ) :
    Except Failure Program × World σ :=
  let w := w.note (.requested name)
  match setup.source.fetch name with
  | .error f => (.error f, w)
  | .ok text => readText setup text name w

/-- The machine that runs an included script. -/
def child (m : Machine) (program : Program) (args : List Value) : Machine where
  program := some program
  state := { passed := args, custom := m.state.custom }
  depth := m.depth + 1
  origin := m.origin

/-- The failure of an include beyond the limit.  A limit too long to be written is a fault
of its own. -/
def refusal (limit : Int) : Failure :=
  match (Value.int limit).text? with
  | .error f => .fault (.number f)
  | .ok _ => .of (.includeTooDeep limit)

/-- The name of the script that an include asks for, if it may ask. -/
def includeName (setup : Setup σ) (m : Machine) (r : Resolved) : Except Failure String :=
  match Text.firstWord? r.text.toList with
  | none => .error (.of .missingScriptName)
  | some name =>
    if setup.maxIncludeDepth ≤ m.depth then .error (refusal setup.maxIncludeDepth)
    else .ok (String.ofList name)

/-- A failure of loading as the include reports it: a script that cannot be loaded is
reported against the include, anything else as it is. -/
def includeFailure (name : String) : Failure → Failure
  | .error e => if e.kind = .sourceLoad then .of (.cannotInclude name e.detail) else .error e
  | .fault f => .fault f

/-- The error of running a program without instructions. -/
def noCommands (source : Option String) (origin : Option CallSite) : ProcedureError where
  cause := .noCommands
  context := { source := source, origin := origin }

end Machine

end SqlScript
