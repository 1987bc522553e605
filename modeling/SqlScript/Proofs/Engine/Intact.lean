/-
SqlScript/Proofs/Engine/Intact.lean

What a failing instruction leaves intact.

An instruction that fails does so before it changes the machine: a query is answered before
its result is taken over, a condition is decided before the gate is set, and an included
script runs on a machine of its own (`Planned.intact`).  The exception is a call.  It hands
its arguments over before the instruction that it calls is carried out, and does not take
them back when that fails.  So what is different after a failure is the positional
parameters at most, and these only if a call reached its target
(`dispatch_failed_intact`).
-/
import SqlScript.Client.Rehearsal
import SqlScript.Client.Style
import SqlScript.Proofs.Engine.Unwinding

namespace SqlScript

namespace Machine

variable {σ : Type} {setup : Setup σ} {m : Machine} {w : World σ} {i : Instruction}
variable {r : Resolved} {c : Command} {f : Failure}

/-- A machine with other positional parameters. -/
def withPassed (m : Machine) (passed : List Value) : Machine :=
  { m with state := { m.state with passed := passed } }

/-- An instruction is a call that reaches its target: it has an address, an instruction
stands there, and there is room for one more call. -/
def ReachesTarget (setup : Setup σ) (m : Machine) (i : Instruction) : Prop :=
  i.command = .process ∧
    ∃ r target args called, m.Begins setup i r ∧
      addressOperand r setup.client.bindMarker = .ok (target, args) ∧
      m.fetch? target = some called ∧ m.processDepth < maxProcessDepth

/-! ### Instructions that end by themselves -/

theorem query_intact (h : (m.query setup c r w).outcome = .failed f) :
    (m.query setup c r w).machine = m := by
  revert h
  rw [query]
  split
  · intro h
    cases h
  · exact fun _ => rfl
  · exact fun _ => rfl

/-- What fails by itself changes nothing of the machine. -/
theorem Planned.intact {ended : Result σ (Option Nat)} (h : Planned setup c r m w (.finish ended))
    (hf : ended.outcome = .failed f) : ended.machine = m := by
  cases h with
  | performed _ _ h =>
    cases h with
    | queried => exact query_intact hf
    | decided | set | jumped => cases hf
    | undecided | lost | unset | examined => rfl
  | noTarget => exact machine_missTarget _
  | noAddress | callTooDeep | noName | unread | noCommands => rfl

theorem reachesTarget_of_call {target : Nat} {called : Instruction} {args : List Value}
    (hb : m.Begins setup i r) (hp : m.plan setup i.command r w = .call target called args) :
    m.ReachesTarget setup i := by
  cases planned_of_eq hp with
  | call hc ha hf hd => exact ⟨hc, r, _, args, called, hb, ha, hf, hd⟩

theorem exists_entered_eq (m : Machine) (args : List Value) :
    ∃ passed, m.entered args
      = { m.withPassed passed with processDepth := m.processDepth + 1 } := by
  rcases h : args.isEmpty with - | -
  · exact ⟨args, by simp [entered, withPassed, h]⟩
  · exact ⟨m.state.passed, by simp [entered, withPassed, h]⟩

/-! ### Calls of calls -/

/-- **A failing instruction leaves the machine as it was.**  Whatever instruction fails, and
wherever in the calls and includes that it starts, the machine differs from before in its
positional parameters at most.  These are the same as well unless the instruction is a call
that reached its target. -/
theorem dispatch_failed_intact (setup : Setup σ) (fuel index : Nat) (i : Instruction)
    (m : Machine) (w : World σ) (f : Failure)
    (h : (dispatch setup fuel index i m w).outcome = .failed f) :
    ∃ passed, (dispatch setup fuel index i m w).machine = m.withPassed passed ∧
      (passed = m.state.passed ∨ m.ReachesTarget setup i) := by
  revert h
  -- along the calls, for every failure: on the way out its context is filled in
  revert f
  apply dispatch_induction (D := fun _ _ i m _ ended => ∀ f, ended.outcome = .failed f →
    ∃ passed, ended.machine = m.withPassed passed ∧
      (passed = m.state.passed ∨ m.ReachesTarget setup i))
  case exhausted => exact fun _ _ _ _ _ h => nomatch h
  case skipped => exact fun _ _ _ _ _ _ _ h => nomatch h
  case unresolved => exact fun _ _ _ m _ _ _ _ _ _ => ⟨m.state.passed, rfl, .inl rfl⟩
  case finish =>
    intro fuel index i m w r ended _ hp f h
    obtain ⟨g, hg⟩ := Outcome.exists_attach_eq_failed.mp ⟨f, h⟩
    exact ⟨m.state.passed, (planned_of_eq hp).intact hg, .inl rfl⟩
  case call =>
    intro fuel index i m w r target called args hb hp ih f h
    obtain ⟨g, hg⟩ := Outcome.exists_attach_eq_failed.mp ⟨f, h⟩
    obtain ⟨passed, hmachine, -⟩ := ih g (Outcome.map_eq_failed.mp hg)
    obtain ⟨handed, hentered⟩ := m.exists_entered_eq args
    -- the called instruction changed the parameters at most, and the call counts back
    refine ⟨passed, ?_, .inr (reachesTarget_of_call hb hp)⟩
    rw [returned, hmachine, hentered]
    rfl
  case enter => exact fun _ _ _ m _ _ _ _ _ _ _ _ => ⟨m.state.passed, rfl, .inl rfl⟩

/-- A script that calls a call, which calls a jump without a target. -/
def relayed : Program :=
  Program.parse "!" "! process 1 $1\n! process 2 $0\n! forward x" "relay"

/-- The call hands its argument on, and the jump fails: of the two parameters one is left. -/
theorem relayed_failed_intact :
    let setup : Setup Rehearsal :=
      { client := .ofStyle .qmark Rehearsal.query, source := (Scripts.ofList []).toSource }
    let m : Machine :=
      { program := some relayed, captures := [[]], state := { passed := [.int 7, .int 8] } }
    let ended := dispatch setup 3 0 ⟨.process, "1 $1", some 1⟩ m { database := .ofRules [] }
    ended.machine.state.passed.length = 1 ∧
      ∃ f, ended.outcome = .failed f ∧
        ∃ passed, ended.machine = m.withPassed passed ∧
          (passed = m.state.passed ∨ m.ReachesTarget setup ⟨.process, "1 $1", some 1⟩) := by
  intro setup m ended
  have hfails : ended.outcome.failure?.isSome = true := by decide +kernel
  obtain ⟨f, hf⟩ := Option.isSome_iff_exists.mp hfails
  have ho := Outcome.failure?_eq_some.mp hf
  refine ⟨?_, f, ho, dispatch_failed_intact setup 3 0 _ m _ f ho⟩
  decide +kernel

end Machine

end SqlScript
