/-
SqlScript/Engine/Run.lean

Carrying out instructions and running programs.

Most instructions end by themselves.  A call asks for another instruction of the
program to be carried out, and an include for another program to be run.  `plan` finds
out which of the three it is, and fails where the operands are no good.

`dispatch` carries out one instruction and `loop` runs from the cursor to the end of
the program.  A call dispatches the instruction it addresses, and an include loops
through another program on a machine of its own, so the two depend on each other.
Scripts may run for ever; both therefore take fuel, which each nested activity and
each turn of the loop has one unit less of, and an activity without fuel is cut off.

Calls and includes have limits of their own, which are part of the engine.  A host that
carries the engine out may also limit how deeply its own functions call each other, and
fail beyond that.  Such a limit is a resource of the host, like its memory, and is left
out here: activities nest as deeply as the two limits allow.

Nested activities leave the machine around them alone.  An include does not change
the including machine at all.  A call hands over its remaining arguments and
otherwise changes what the called instruction changes.  It counts itself among the
calls under way before it starts that instruction, and out again after it, however the
instruction ends.
-/
import SqlScript.Engine.Machine

namespace SqlScript

namespace Machine

variable {σ : Type}

/-! ### Plans -/

/-- What an instruction asks for once its operands are known. -/
inductive Plan (σ : Type) where
  /-- Nothing further: it has ended by itself. -/
  | finish (ended : Result σ (Option Nat))
  /-- The instruction at an address is to be carried out with these arguments. -/
  | call (target : Nat) (called : Instruction) (args : List Value)
  /-- A program is to be run, in the world after it was read. -/
  | enter (program : Program) (world : World σ)

/-- The plan of a call. -/
def callPlan (setup : Setup σ) (r : Resolved) (m : Machine) (w : World σ) : Plan σ :=
  match addressOperand r setup.client.bindMarker with
  | .error f => .finish ⟨.failed f, m, w⟩
  | .ok (target, args) =>
    match m.fetch? target with
    | none => .finish (m.missTarget setup target w)
    | some called =>
      if maxProcessDepth ≤ m.processDepth then
        .finish ⟨.failed (.of (.processTooDeep maxProcessDepth)), m, w⟩
      else .call target.toNat called args

/-- The plan of an include. -/
def includePlan (setup : Setup σ) (r : Resolved) (m : Machine) (w : World σ) : Plan σ :=
  match m.includeName setup r with
  | .error f => .finish ⟨.failed f, m, w⟩
  | .ok name =>
    match readScript setup name (w.note (.including name (m.depth + 1))) with
    | (.error f, w) => .finish ⟨.failed (includeFailure name f), m, w⟩
    | (.ok program, w) =>
      if program.size = 0 then
        .finish ⟨.failed (.error (noCommands (some program.source) m.origin)), m, w⟩
      else .enter program w

/-- The plan of an instruction. -/
def plan (setup : Setup σ) (c : Command) (r : Resolved) (m : Machine) (w : World σ) :
    Plan σ :=
  match c with
  | .process => m.callPlan setup r w
  | .include => m.includePlan setup r w
  | c => .finish (m.perform setup c r w)

/-! ### Runs -/

/-- A machine in the middle of a call, with the arguments handed over, if any. -/
def entered (m : Machine) (args : List Value) : Machine :=
  let state := if args.isEmpty then m.state else { m.state with passed := args }
  { m with state := state, processDepth := m.processDepth + 1 }

/-- A machine behind a call, which is no longer under way. -/
def exited (m : Machine) : Machine := { m with processDepth := m.processDepth - 1 }

/-- A machine with its cursor at an address. -/
def goTo (m : Machine) (cursor : Nat) : Machine :=
  { m with state := { m.state with cursor := cursor } }

mutual

/-- Carries out the instruction `i` at the address `index`, if the gate admits it.
The value is the address to jump to, if it is a jump. -/
def dispatch (setup : Setup σ) : Nat → Nat → Instruction → Machine → World σ →
    Result σ (Option Nat)
  | 0, _, _, m, w => ⟨.cutOff, m, w⟩
  | fuel + 1, index, i, m, w =>
    if m.admits i.command then
      match resolve i.statement m.state.passed m.state.custom setup.client.bindMarker with
      | .error f => ⟨.failed (.fault (.number f)), m, w⟩
      | .ok r =>
        let w := w.note (m.dispatchEvent index i r)
        let ended : Result σ (Option Nat) :=
          match m.plan setup i.command r w with
          | .finish ended => ended
          | .call target called args =>
            let ended := dispatch setup fuel target called (m.entered args) w
            ⟨ended.outcome.map fun _ => none, ended.machine.exited, ended.world⟩
          | .enter program w =>
            let ended := loop setup fuel (m.child program r.args) w
            ⟨ended.outcome.map fun _ => none, m, ended.world⟩
        { ended with outcome := ended.outcome.attach (m.contextOf index i r) }
    else ⟨.done none, m, w.note (.skipped index i.command)⟩

/-- Runs from the cursor to the end of the program. -/
def loop (setup : Setup σ) : Nat → Machine → World σ → Result σ Unit
  | 0, m, w => ⟨.cutOff, m, w⟩
  | fuel + 1, m, w =>
    match m.fetch? m.state.cursor with
    | none => ⟨.done (), m, w⟩
    | some i =>
      if i.command.isPassive then loop setup fuel (m.goTo (m.state.cursor + 1)) w
      else
        match dispatch setup fuel m.state.cursor i m w with
        | ⟨.cutOff, m, w⟩ => ⟨.cutOff, m, w⟩
        | ⟨.failed f, m, w⟩ => ⟨.failed f, m, w⟩
        | ⟨.done none, m, w⟩ => loop setup fuel (m.goTo (m.state.cursor + 1)) w
        | ⟨.done (some target), m, w⟩ =>
          loop setup fuel (m.goTo target) (w.note (.jumped m.state.cursor target))

end

end Machine

end SqlScript
