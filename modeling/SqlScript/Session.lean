/-
SqlScript/Session.lean

The operations of a machine that callers use: loading a program, adding to it,
running it, carrying out one instruction of it, and starting afresh.

Loading replaces the program only if the new one is valid.  Running starts from the
first instruction with the given parameters and a fresh state; the captures of
earlier runs stay.
-/
import SqlScript.Engine.Run

namespace SqlScript

namespace Machine

variable {σ : Type}

/-! ### Loading -/

/-- Takes over a program that was read, or reports why none was. -/
def adopt (m : Machine) (origin : Option CallSite) :
    Except Failure Program × World σ → Result σ Program
  | (.error f, w) => ⟨.failed (f.attach { origin := origin }), m, w⟩
  | (.ok program, w) => ⟨.done program, { m with program := some program }, w⟩

/-- Loads a program from the text of a script. -/
def loadText (setup : Setup σ) (text source : String) (origin : Option CallSite)
    (m : Machine) (w : World σ) : Result σ Program :=
  m.adopt origin (readText setup text source w)

/-- Loads a program from a script of the source.  The call site is kept for later
errors, even if loading fails. -/
def load (setup : Setup σ) (name : String) (origin : Option CallSite) (m : Machine)
    (w : World σ) : Result σ Program :=
  let m := { m with origin := origin <|> m.origin }
  m.adopt origin (readScript setup name w)

/-- The program that instructions are added to when none is loaded. -/
def commandProgram : Program := { source := "<commands>" }

/-- Adds an instruction to the program.  If there is none, an empty one is started
first, and stays even if the instruction is refused. -/
def command (keyword statement : String) (m : Machine) :
    Except ProcedureError Instruction × Machine :=
  let program := m.program.getD commandProgram
  let m := { m with program := some program }
  match Command.ofKeyword? keyword with
  | none =>
    (.error { cause := .unknownCommand keyword, context := { source := some program.source } }, m)
  | some c =>
    let i : Instruction := { command := c, statement := statement }
    match i.error? program.size program.source with
    | some e => (.error e, m)
    | none => (.ok i, { m with program := some (program.push i) })

/-! ### Running -/

/-- Runs the program that the machine has. -/
def runLoaded (setup : Setup σ) (fuel : Nat) (args : List Value) (custom : Bindings)
    (m : Machine) (w : World σ) : Result σ (Option Resultset) :=
  match m.program with
  | none => ⟨.failed (.error (noCommands none m.origin)), m, w⟩
  | some program =>
    if program.size = 0 then
      ⟨.failed (.error (noCommands (some program.source) m.origin)), m, w⟩
    else
      let ended :=
        loop setup fuel { m with state := { passed := args, custom := custom } } w
      ⟨ended.outcome.map fun _ => ended.machine.state.last, ended.machine, ended.world⟩

/-- Runs a program, the one given or else the one that the machine has.  The value is
the result of the last query. -/
def run (setup : Setup σ) (fuel : Nat) (program : Option Program) (args : List Value)
    (custom : Bindings) (origin : Option CallSite) (m : Machine) (w : World σ) :
    Result σ (Option Resultset) :=
  match program with
  | none => runLoaded setup fuel args custom { m with origin := origin <|> m.origin } w
  | some p =>
    match p.error? with
    | some e => ⟨.failed (.error e), m, w⟩
    | none =>
      runLoaded setup fuel args custom
        { m with program := some p, origin := origin <|> m.origin } w

/-- A machine with new positional parameters, if there are any, and further named
ones. -/
def withParameters (m : Machine) (args : List Value) (custom : Bindings) : Machine :=
  { m with
    state :=
      { m.state with
        passed := if args.isEmpty then m.state.passed else args
        custom := m.state.custom.update custom } }

/-- Carries out the one instruction at an address.  Without an instruction there, or
with the gate closed for it, nothing happens.  A jump is not followed. -/
def runAt (setup : Setup σ) (fuel : Nat) (index : Int) (args : List Value)
    (custom : Bindings) (m : Machine) (w : World σ) : Result σ (Option Resultset) :=
  match m.fetch? index with
  | none => ⟨.done none, m, w⟩
  | some i =>
    let m := m.withParameters args custom
    if m.admits i.command then
      let ended := dispatch setup fuel index.toNat i m w
      ⟨ended.outcome.map fun _ => ended.machine.state.last, ended.machine, ended.world⟩
    else ⟨.done none, m, w⟩

/-! ### Starting afresh -/

/-- Forgets the captures. -/
def clearCaptures (m : Machine) : Machine := { m with captures := [] }

/-- Forgets the program, the captures and the state of the last run. -/
def reset (m : Machine) : Machine := { m with program := none, captures := [], state := {} }

end Machine

end SqlScript
